import ConfigBar.Project.File
import ConfigBar.Controller.Provider
import ConfigBar.Qualifier.Folder
/-!
# Snapshots of projects

A snapshot is a project file that has been checked: the names of the devices, of the variants of a
device and of the styles of a section are unique, every device has a variant, and all qualifiers can
be read. `ProjectSnapshot.build` makes it or names the first fault, in the order of the file.
-/

namespace ConfigBar

/-- Which resources a section holds. -/
inductive SectionName where
  | framework
  | project
  deriving DecidableEq, Repr

/-- The name of a section. -/
def SectionName.text : SectionName → String
  | framework => "framework"
  | project => "project"

/-- What is wrong in a project file. -/
inductive ProjectFault where
  | duplicateDevice (name : String)
  | emptyDevice (name : String)
  | duplicateVariant (device variant : String)
  | invalidQualifiers (device variant : String) (cause : QualifierError)
  | duplicateStyle (part : SectionName) (name : String)
  deriving DecidableEq, Repr

/-- The text of a fault. -/
def ProjectFault.message : ProjectFault → String
  | duplicateDevice name => "duplicate device in project file: " ++ name
  | emptyDevice name => "device " ++ name ++ " has no configs"
  | duplicateVariant device variant => "duplicate config " ++ variant ++ " for device " ++ device
  | invalidQualifiers device variant cause =>
    "invalid qualifiers for " ++ device ++ "/" ++ variant ++ ": " ++ cause.message
  | duplicateStyle part name => "duplicate style " ++ name ++ " in " ++ part.text ++ " resources"

/-- The languages and the values of the framework or of the project. -/
structure ResourceSnapshot where
  languages : Languages
  values : ConfiguredResources
  deriving DecidableEq

/-- The styles of a snapshot, if there are any. -/
def ResourceSnapshot.styles? (s : ResourceSnapshot) : Option ResourceMap := s.values.get? .style

/-- A project that has been checked. -/
structure ProjectSnapshot where
  devices : List Device
  framework : Option ResourceSnapshot
  project : Option ResourceSnapshot
  /-- The path from which it was loaded. -/
  source : Option String
  deriving DecidableEq

namespace ProjectSnapshot

/-! ## Devices -/

/-- Checks the variants of a device, after those that are already there. -/
def buildVariants (device : String) (done : List Variant) :
    List VariantEntry → Except ProjectFault (List Variant)
  | [] => .ok done
  | v :: vs =>
    if done.any fun d => d.name == v.name then .error (.duplicateVariant device v.name)
    else
      match QualifierSet.ofFolder v.qualifiers with
      | .error cause => .error (.invalidQualifiers device v.name cause)
      | .ok qualifiers => buildVariants device (done ++ [⟨v.name, qualifiers⟩]) vs

/-- Checks a device. The names of the devices before it are in `seen`. -/
def buildDevice (seen : List String) (e : DeviceEntry) : Except ProjectFault Device :=
  if seen.contains e.name then .error (.duplicateDevice e.name)
  else if e.variants.isEmpty then .error (.emptyDevice e.name)
  else (buildVariants e.name [] e.variants).map fun variants => ⟨e.name, variants, e.xdpi, e.ydpi⟩

/-- Checks the devices. -/
def buildDevices (seen : List String) : List DeviceEntry → Except ProjectFault (List Device)
  | [] => .ok []
  | e :: es =>
    match buildDevice seen e with
    | .error fault => .error fault
    | .ok d => (buildDevices (e.name :: seen) es).map (d :: ·)

/-- The devices before the first fault. -/
def devicesBeforeFault (seen : List String) : List DeviceEntry → List Device
  | [] => []
  | e :: es =>
    match buildDevice seen e with
    | .error _ => []
    | .ok d => d :: devicesBeforeFault (e.name :: seen) es

/-! ## Resources -/

/-- Checks the styles of a section, after those that are already there. -/
def buildStyles (name : SectionName) (done : ResourceMap) :
    List StyleEntry → Except ProjectFault ResourceMap
  | [] => .ok done
  | s :: ss =>
    if done.contains s.name then .error (.duplicateStyle name s.name)
    else buildStyles name (done.insert s.name (.style s.name s.parent)) ss

/-- The strings of a section as values. -/
def stringValues (strings : SortedMap String String) : ResourceMap :=
  .ofList (strings.toList.map fun e => (e.1, .simple e.1 e.2))

/-- The languages of a section. -/
def languagesOf (languages : SortedMap String (List String)) : Languages :=
  .ofList (languages.toList.map fun e => (e.1, SortedSet.ofList e.2))

/-- The map of a type, if it has values. -/
def typed (type : ResourceType) (values : ResourceMap) : List (ResourceType × ResourceMap) :=
  if values.isEmpty then [] else [(type, values)]

/-- Checks the resources of a section. -/
def buildSection (name : SectionName) (s : ResourceSection) :
    Except ProjectFault ResourceSnapshot :=
  (buildStyles name ∅ s.styles).map fun styles =>
    ⟨languagesOf s.languages, .ofList (typed .style styles ++ typed .string (stringValues s.strings))⟩

/-- Checks the resources of a section that may be missing. -/
def buildSection? (name : SectionName) :
    Option ResourceSection → Except ProjectFault (Option ResourceSnapshot)
  | none => .ok none
  | some s => (buildSection name s).map some

/-! ## Projects -/

/-- Checks a project file. -/
def build (f : ProjectFile) : Except ProjectFault ProjectSnapshot :=
  match buildDevices [] f.devices with
  | .error fault => .error fault
  | .ok devices =>
    match buildSection? .framework f.framework with
    | .error fault => .error fault
    | .ok framework =>
      (buildSection? .project f.project).map fun project => ⟨devices, framework, project, none⟩

/-- The first device with a name. -/
def device? (s : ProjectSnapshot) (name : String) : Option Device :=
  s.devices.find? fun d => d.name == name

/-- A snapshot as a provider of resources. -/
def provider (s : ProjectSnapshot) : Provider where
  framework := s.framework.map ResourceSnapshot.languages
  project := s.project.map ResourceSnapshot.languages
  frameworkValues := s.framework.map ResourceSnapshot.values
  projectValues := s.project.map ResourceSnapshot.values
  devices := s.devices

end ProjectSnapshot

end ConfigBar
