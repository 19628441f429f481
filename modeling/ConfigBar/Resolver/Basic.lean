import ConfigBar.Device
/-!
# The resolver

The resolver holds the catalog of devices, the selected device with its variants, and the effective
set of qualifiers. Selecting a device does not touch the effective set; a variant enters it by
`merge`: the qualifiers of the device are replaced, those that the user chose are kept.

Every operation is a function to the next state. An operation that fails has no next state.
-/

namespace ConfigBar

/-- Why an operation of the configuration bar fails. -/
inductive SelectionError where
  /-- The selected device has no variant with the name. -/
  | noSuchVariant (device variant : String)
  /-- The index is not below the length of the list. -/
  | outOfRange (list : String) (index length : Nat)
  deriving DecidableEq, Repr

/-- The text of the error. -/
def SelectionError.message : SelectionError → String
  | noSuchVariant device variant => "device " ++ device ++ " has no config named " ++ variant
  | outOfRange list index length =>
    list ++ " index " ++ toString index ++ " is out of range (len " ++ toString length ++ ")"

/-- The answer to the selection of a device. -/
inductive DeviceSelection where
  | selected (index : Nat) (name : String)
  /-- The slot behind the catalog was chosen: the host is asked to create a device. -/
  | custom
  deriving DecidableEq, Repr

/-- The state of the resolver. -/
structure Resolver where
  devices : List Device
  deviceIndex : Option Nat
  /-- The names of the variants of the selected device. -/
  variantNames : List String
  variantIndex : Option Nat
  /-- The effective configuration. -/
  current : QualifierSet
  deriving DecidableEq, Repr

namespace Resolver

/-- A resolver of a catalog, with nothing selected. -/
def ofDevices (devices : List Device) : Resolver := ⟨devices, none, [], none, ∅⟩

/-- A resolver without devices. -/
def initial : Resolver := ofDevices []

/-- The selected device. -/
def device? (r : Resolver) : Option Device := r.deviceIndex.bind fun i => r.devices[i]?

/-- The name of the selected variant. -/
def variant? (r : Resolver) : Option String := r.variantIndex.bind fun i => r.variantNames[i]?

/-- The names of the devices. -/
def deviceNames (r : Resolver) : List String := r.devices.map Device.name

/-- A choice of variants is useful if there is more than one. -/
def offersVariants (r : Resolver) : Bool := 1 < r.variantNames.length

/-- Makes the device at an index the selected one, with its first variant. -/
def withDevice (r : Resolver) (i : Nat) (d : Device) : Resolver :=
  { r with
    deviceIndex := some i
    variantNames := d.variantNames
    variantIndex := if d.variantNames.isEmpty then none else some 0 }

/-- Selects the device at an index. -/
def selectDevice (r : Resolver) (i : Nat) : Resolver × DeviceSelection :=
  match r.devices[i]? with
  | none => (r, .custom)
  | some d => (r.withDevice i d, .selected i d.name)

/-- The index in a new catalog at which the selected device is found again, or the first. -/
def indexAfterReload (r : Resolver) (devices : List Device) : Nat :=
  (r.device?.bind fun old => devices.findIdx? fun d => d.isSame old).getD 0

/-- Replaces the catalog and selects the same device again, or the first one. An empty catalog has
nothing to select. -/
def reload (r : Resolver) (devices : List Device) : Resolver × Option DeviceSelection :=
  if devices.isEmpty then
    ({ r with devices := [], deviceIndex := none, variantNames := [], variantIndex := none }, none)
  else
    let (next, selection) := selectDevice { r with devices } (r.indexAfterReload devices)
    (next, some selection)

/-- The qualifiers of a variant together with those that the user chose. -/
def merge (current variant : QualifierSet) : QualifierSet :=
  Kind.userChosen.foldl (fun s k => s.put k (current.get? k)) variant

/-- Applies the variant with a name. Without a device nothing happens. -/
def applyVariant (r : Resolver) (name : String) : Except SelectionError (Resolver × Bool) :=
  match r.device? with
  | none => .ok (r, false)
  | some d =>
    match d.variant? name with
    | none => .error (.noSuchVariant d.name name)
    | some variant =>
      .ok ({ r with
        variantIndex := r.variantNames.findIdx? (· == name)
        current := merge r.current variant }, true)

/-- Applies the variant at an index. -/
def applyVariantAt (r : Resolver) (i : Nat) : Except SelectionError (Resolver × Bool) :=
  match r.variantNames[i]? with
  | none => .error (.outOfRange "config" i r.variantNames.length)
  | some name => r.applyVariant name

/-- Applies the selected variant. Without one nothing happens. -/
def applySelected (r : Resolver) : Except SelectionError (Resolver × Bool) :=
  match r.variant? with
  | none => .ok (r, false)
  | some name => r.applyVariant name

/-- Sets the language and the region together; what is missing or of another kind is cleared. -/
def applyLocale (r : Resolver) (language region : Option Qualifier) : Resolver :=
  { r with current := (r.current.put .language language).put .region region }

/-- Sets or clears the version of the platform. -/
def applyVersion (r : Resolver) (version : Option UInt32) : Resolver :=
  { r with current := r.current.put .version (version.map .version) }

end Resolver

end ConfigBar
