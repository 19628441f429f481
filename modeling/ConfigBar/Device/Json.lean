import ConfigBar.Device
import ConfigBar.Qualifier.Json
import ConfigBar.Json.Number
/-!
# Devices in JSON

A device is written with its variants, each with the list of its qualifiers in folder order.
-/

namespace ConfigBar

/-- The qualifiers of a set in folder order. -/
def QualifierSet.toJson (s : QualifierSet) : Json := .array (s.toList.map Qualifier.toJson)

/-- A variant in JSON. -/
def Variant.toJson (v : Variant) : Json :=
  .obj [("name", .str v.name), ("qualifiers", v.qualifiers.toJson)]

/-- A device in JSON. -/
def Device.toJson (d : Device) : Json :=
  .obj [("name", .str d.name), ("configs", .array (d.variants.map Variant.toJson)),
    ("xdpi", .opt Json.ofSingle d.xdpi), ("ydpi", .opt Json.ofSingle d.ydpi)]

end ConfigBar
