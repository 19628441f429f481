/-!
# Kinds of qualifiers

The twelve dimensions of a resource configuration, in the order in which their segments stand in
the name of a resource folder. The language, the region and the version are chosen by the user; the
nine others come from the device.
-/

namespace ConfigBar

/-- A dimension of a resource configuration. -/
inductive Kind where
  | countryCode
  | networkCode
  | language
  | region
  | orientation
  | density
  | touch
  | keyboard
  | textInput
  | navigation
  | dimension
  | version
  deriving DecidableEq, Repr

namespace Kind

/-- All kinds in folder order. -/
def all : List Kind :=
  [countryCode, networkCode, language, region, orientation, density, touch, keyboard, textInput,
    navigation, dimension, version]

/-- The place of a kind in folder order. -/
def index : Kind → Nat
  | countryCode => 0
  | networkCode => 1
  | language => 2
  | region => 3
  | orientation => 4
  | density => 5
  | touch => 6
  | keyboard => 7
  | textInput => 8
  | navigation => 9
  | dimension => 10
  | version => 11

/-- The kinds that the user chooses. They survive a change of the device. -/
def userChosen : List Kind := [language, region, version]

/-- The name that is shown for a kind. -/
def label : Kind → String
  | countryCode => "Mobile Country Code"
  | networkCode => "Mobile Network Code"
  | language => "Language"
  | region => "Region"
  | orientation => "Orientation"
  | density => "Pixel Density"
  | touch => "Touch Screen"
  | keyboard => "Keyboard"
  | textInput => "Text Input"
  | navigation => "Navigation"
  | dimension => "Dimension"
  | version => "Version"

/-- The name of a kind in JSON. -/
def word : Kind → String
  | countryCode => "country_code"
  | networkCode => "network_code"
  | language => "language"
  | region => "region"
  | orientation => "screen_orientation"
  | density => "pixel_density"
  | touch => "touch_screen"
  | keyboard => "keyboard_state"
  | textInput => "text_input_method"
  | navigation => "navigation_method"
  | dimension => "screen_dimension"
  | version => "version"

/-- The kind with a given name in JSON. -/
def ofWord? (s : String) : Option Kind := all.find? fun k => k.word = s

@[simp] theorem mem_all (k : Kind) : k ∈ all := by cases k <;> decide

theorem index_injective {a b : Kind} (h : a.index = b.index) : a = b := by
  cases a <;> cases b <;> first | rfl | cases h

theorem all_pairwise : all.Pairwise fun a b => a.index < b.index := by decide

@[simp] theorem ofWord?_word (k : Kind) : ofWord? k.word = some k := by cases k <;> rfl

end Kind

end ConfigBar
