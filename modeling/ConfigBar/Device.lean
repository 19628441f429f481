import ConfigBar.Qualifier.Set
import ConfigBar.Number.Single
/-!
# Devices

A device has named variants, each with its set of qualifiers, and may name the dots per inch of its
screen. Devices are told apart by their names alone.
-/

namespace ConfigBar

open ConfigBar.Number (Single)

/-- A named set of qualifiers of a device, such as "Portrait". -/
structure Variant where
  name : String
  qualifiers : QualifierSet
  deriving DecidableEq, Repr

/-- A device of the catalog. -/
structure Device where
  name : String
  variants : List Variant
  xdpi : Option Single
  ydpi : Option Single
  deriving DecidableEq, Repr

namespace Device

/-- The qualifiers of the first variant with a name. -/
def variant? (d : Device) (name : String) : Option QualifierSet :=
  (d.variants.find? fun v => v.name == name).map Variant.qualifiers

/-- The names of the variants in order. -/
def variantNames (d : Device) : List String := d.variants.map Variant.name

/-- The horizontal dots per inch, if they are finite. -/
def finiteXdpi (d : Device) : Option Single := d.xdpi.filter Single.isFinite

/-- The vertical dots per inch, if they are finite. -/
def finiteYdpi (d : Device) : Option Single := d.ydpi.filter Single.isFinite

/-- Are two devices the same? -/
def isSame (a b : Device) : Bool := a.name == b.name

end Device

end ConfigBar
