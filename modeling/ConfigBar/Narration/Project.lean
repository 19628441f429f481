import ConfigBar.Log.Record
import ConfigBar.Project.Load
/-!
# What loading a project tells the log

Every device that passes its checks is noted, also when a later fault spoils the project, and then
the project itself.
-/

namespace ConfigBar.ProjectSnapshot

/-- A record of the loader. -/
def record (level : LogLevel) (message : String) (values : List (String × LogValue)) : LogRecord :=
  ⟨level, "layoutcfg_catalog::loaders", message, values⟩

/-- What checking a device tells. -/
def narrateDevice (d : Device) : LogRecord :=
  record .debug "device loaded" [("device", .shown d.name), ("configs", .number d.variants.length)]

/-- What a project that is loaded tells. -/
def narrateLoaded (path : String) (s : ProjectSnapshot) : LogRecord :=
  record .info "project loaded"
    [("path", .shown path), ("devices", .number s.devices.length),
      ("framework", .flag s.framework.isSome), ("project", .flag s.project.isSome)]

/-- What loading the project at a path tells. -/
def narrateLoad (path : String) (content : Except FileError String) : List LogRecord :=
  match ProjectFormat.ofPath? path, content with
  | some format, .ok text =>
    match ProjectFile.parse? format text with
    | none => []
    | some file =>
      (devicesBeforeFault [] file.devices).map narrateDevice ++
        match build file with
        | .ok s => [s.narrateLoaded path]
        | .error _ => []
  | _, _ => []

end ConfigBar.ProjectSnapshot
