import ConfigBar.Project.Format
import ConfigBar.Project.Snapshot
import ConfigBar.File.Error
import ConfigBar.Text.Blank
/-!
# Loading projects

A project is loaded from the text of a file in the format that its path names. Whoever loads it
reads the file; `ProjectSnapshot.load` is told what came of that.
-/

namespace ConfigBar

/-- Why a project cannot be loaded. -/
inductive ProjectError where
  | unsupportedFormat (path : String)
  | unreadable (path : String) (cause : FileError)
  /-- The text of the file is not in its format or does not fit the fields. -/
  | malformed (format : ProjectFormat) (path : String)
  | faulty (fault : ProjectFault)
  deriving DecidableEq, Repr

/-- The text of an error. -/
def ProjectError.message : ProjectError → String
  | unsupportedFormat path =>
    "unsupported project file format (expected .toml or .json): " ++ path
  | unreadable path cause => "failed to read project file " ++ path ++ ": " ++ cause.message
  | malformed format path => "failed to parse " ++ format.title ++ " project file " ++ path
  | faulty fault => fault.message

/-- The text of the error behind an error, if there is one. -/
def ProjectError.cause? : ProjectError → Option String
  | unreadable _ cause => some cause.message
  | faulty (.invalidQualifiers _ _ cause) => some cause.message
  | _ => none

/-- The variable of the environment that names the project file. -/
def projectVariable : String := "LAYOUTCFG_PROJECT"

/-- The path of the project file: the value of `projectVariable`, if more than blanks is in it, else the
usual file of the working directory. -/
def defaultProjectPath (value : Option String) : String :=
  (value.filter fun v => Text.trim v ≠ "").getD "layoutcfg.toml"

namespace ProjectSnapshot

/-- Loads the project at a path from what reading the file gave. -/
def load (path : String) (content : Except FileError String) :
    Except ProjectError ProjectSnapshot :=
  match ProjectFormat.ofPath? path, content with
  | none, _ => .error (.unsupportedFormat path)
  | some _, .error cause => .error (.unreadable path cause)
  | some format, .ok text =>
    match ProjectFile.parse? format text with
    | none => .error (.malformed format path)
    | some file =>
      match build file with
      | .error fault => .error (.faulty fault)
      | .ok snapshot => .ok { snapshot with source := some path }

end ProjectSnapshot

end ConfigBar
