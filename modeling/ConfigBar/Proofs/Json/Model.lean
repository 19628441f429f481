import ConfigBar.Device.Json
import ConfigBar.Proofs.Json.Layout
import ConfigBar.Proofs.Qualifier.Listing
import ConfigBar.Resource.Json
/-!
# The model in JSON

Qualifiers and resource values are read back from their JSON values, whatever texts and numbers they
hold: unlike a folder name, an object keeps a language or a region that is no code.

* `Json.nat?_nat` — numbers that fit 64 bits
* `Qualifier.ofValue?_valueToJson` — the value of each kind
* `Qualifier.ofJson?_toJson`, `ResourceValue.ofJson?_toJson` — the objects
* `lossless_toJson` — sets of qualifiers and resource values, as values and as texts
-/

namespace ConfigBar

namespace Json

open ConfigBar.Number (Numeral)

theorem significand_ofNat (n : Nat) : (Numeral.ofNat n).significand = n := by
  rw [Numeral.significand, Numeral.ofNat, List.append_nil]
  exact Nat.ofDigitChars_ten_toDigits

/-- A number that fits 64 bits is read back. -/
theorem nat?_nat {n : Nat} (h : n < UInt64.size) : nat? (.nat n) = some n := by
  have hinteger : integer? (.ofNat n) = some (n : Int) := by
    simp only [integer?, significand_ofNat, if_pos h]
    rfl
  rw [nat, nat?, natural?, hinteger]

end Json

/-- A spelling whose words are read back. -/
class LawfulWords (α : Type) [Spelling α] : Prop where
  ofWord?_word : ∀ v : α, Spelling.ofWord? (Spelling.word v) = some v

instance : LawfulWords Density := ⟨by intro v; cases v <;> rfl⟩

instance : LawfulWords Orientation := ⟨by intro v; cases v <;> rfl⟩

instance : LawfulWords Touch := ⟨by intro v; cases v <;> rfl⟩

instance : LawfulWords Keyboard := ⟨by intro v; cases v <;> rfl⟩

instance : LawfulWords TextInput := ⟨by intro v; cases v <;> rfl⟩

instance : LawfulWords Navigation := ⟨by intro v; cases v <;> rfl⟩

/-! ## Qualifiers -/

namespace Qualifier

open ConfigBar.Json (nat?_nat)

theorem spelled?_word {α : Type} [Spelling α] [LawfulWords α] (held : Bool) (v : α) :
    spelled? held (.str (Spelling.word v)) = some v := by
  show Spelling.ofWord? (Spelling.word v) = some v
  exact LawfulWords.ofWord?_word v

theorem word16?_nat (code : UInt16) : word16? (.nat code.toNat) = some code := by
  have hlt : code.toNat < UInt16.size := code.toNat_lt
  rw [word16?, nat?_nat (Nat.lt_trans hlt (by decide)), Option.bind_some, Text.word16?, if_pos hlt,
    UInt16.ofNat_toNat]

theorem word32?_nat (n : UInt32) : word32? (.nat n.toNat) = some n := by
  have hlt : n.toNat < UInt32.size := n.toNat_lt
  rw [word32?, nat?_nat (Nat.lt_trans hlt (by decide)), Option.bind_some, Text.word32?, if_pos hlt,
    UInt32.ofNat_toNat]

theorem dimension?_toJson (d : Dimension) : dimension? d.toJson = some d := by
  simp [Dimension.toJson, Json.obj, dimension?, Json.hasKeys, Json.field?, word32?_nat]

/-- The value of a qualifier is read back, by its kind. -/
theorem ofValue?_valueToJson (held : Bool) (q : Qualifier) :
    ofValue? held q.valueToJson q.kind = some q := by
  cases q with
  | countryCode code => exact congrArg (Option.map countryCode) (word16?_nat code)
  | networkCode code => exact congrArg (Option.map networkCode) (word16?_nat code)
  | language code => rfl
  | region code => rfl
  | orientation v => exact congrArg (Option.map orientation) (spelled?_word held v)
  | density v => exact congrArg (Option.map density) (spelled?_word held v)
  | touch v => exact congrArg (Option.map touch) (spelled?_word held v)
  | keyboard v => exact congrArg (Option.map keyboard) (spelled?_word held v)
  | textInput v => exact congrArg (Option.map textInput) (spelled?_word held v)
  | navigation v => exact congrArg (Option.map navigation) (spelled?_word held v)
  | dimension d => exact congrArg (Option.map dimension) (dimension?_toJson d)
  | version level => exact congrArg (Option.map version) (word32?_nat level)

/-- A qualifier is read back from its object. -/
theorem ofJson?_toJson (q : Qualifier) : ofJson? q.toJson = some q := by
  have hkind : (word? false (.str q.kind.word)).bind Kind.ofWord? = some q.kind :=
    Kind.ofWord?_word q.kind
  have hfirst : valueComesFirst [(some "kind", .str q.kind.word), (some "value", q.valueToJson)] =
      false := rfl
  simp [toJson, Json.obj, ofJson?, Json.hasKeys, Json.field?, hfirst, hkind, ofValue?_valueToJson]

theorem writable_toJson (q : Qualifier) : q.toJson.Writable := by
  have hvalue : q.valueToJson.Writable := by
    cases q with
    | countryCode code | networkCode code | version code => exact Json.writable_nat _
    | dimension d => exact Json.writable_obj (by simp)
    | _ => exact Json.writable_str _
  exact Json.writable_obj (by simp [hvalue])

end Qualifier

namespace QualifierSet

/-- The qualifiers that a list holds. -/
def listed? : Json → Option (List Qualifier)
  | .array items => items.mapM Qualifier.ofJson?
  | _ => none

theorem mapM_ofJson?_map_toJson (qs : List Qualifier) :
    (qs.map Qualifier.toJson).mapM Qualifier.ofJson? = some qs := by
  induction qs with
  | nil => rfl
  | cons q qs ih => simp [Qualifier.ofJson?_toJson, ih]

/-- The list of a set is read back, in its order. -/
theorem listed?_toJson (s : QualifierSet) : listed? s.toJson = some s.toList :=
  mapM_ofJson?_map_toJson s.toList

theorem writable_toJson (s : QualifierSet) : s.toJson.Writable :=
  Json.writable_array_map fun q _ => q.writable_toJson

end QualifierSet

/-! ## Resource values -/

namespace ResourceValue

open ConfigBar.Json (obj field? hasKeys canBeHeld text? optionalText?)

theorem canBeHeld_str (s : String) : canBeHeld (.str s) = true := rfl

theorem canBeHeld_opt_str (o : Option String) : canBeHeld (.opt .str o) = true := by
  cases o <;> rfl

theorem text?_str (s : String) : text? (.str s) = some s := rfl

theorem optionalText?_opt_str (o : Option String) : optionalText? (.opt .str o) = some o := by
  cases o <;> rfl

/-- A resource value is read back from its object: a parent that is missing is null. -/
theorem ofJson?_toJson (v : ResourceValue) : ofJson? v.toJson = some v := by
  cases v with
  | style name parent =>
    simp [toJson, obj, ofJson?, hasKeys, field?, ofFields?, styleOf?, canBeHeld_str,
      canBeHeld_opt_str, text?_str, optionalText?_opt_str]
  | simple name value =>
    simp [toJson, obj, ofJson?, hasKeys, field?, ofFields?, simpleOf?, canBeHeld_str, text?_str]

theorem writable_toJson (v : ResourceValue) : v.toJson.Writable := by
  cases v with
  | style name parent =>
    have hparent : (Json.opt .str parent).Writable := Json.writable_opt fun p _ => .string p
    exact Json.writable_obj (by simp [hparent])
  | simple name value => exact Json.writable_obj (by simp)

end ResourceValue

/-! ## Both together -/

/-- **The JSON forms of the model are lossless.** The elements of the list of a set of qualifiers are
read back in folder order and make up just this set, whatever its language and its region are; and a
resource value is read back from its object. The texts of both, without blanks and on indented lines,
are texts of these values. -/
theorem lossless_toJson :
    (∀ s : QualifierSet,
      (∃ qs, QualifierSet.listed? s.toJson = some qs ∧
        (qs.Pairwise fun a b => a.kind.index < b.kind.index) ∧ QualifierSet.ofList qs = s) ∧
      Json.parse? s.toJson.compress = some s.toJson ∧
      Json.parse? s.toJson.pretty = some s.toJson) ∧
    ∀ v : ResourceValue,
      ResourceValue.ofJson? v.toJson = some v ∧
      Json.parse? v.toJson.compress = some v.toJson ∧
      Json.parse? v.toJson.pretty = some v.toJson := by
  refine ⟨fun s => ⟨⟨s.toList, s.listed?_toJson, s.toList_ascending, s.ofList_toList⟩, ?_, ?_⟩,
    fun v => ⟨v.ofJson?_toJson, ?_, ?_⟩⟩
  · exact Json.parse?_compress s.writable_toJson
  · exact Json.parse?_pretty s.writable_toJson
  · exact Json.parse?_compress v.writable_toJson
  · exact Json.parse?_pretty v.writable_toJson

end ConfigBar
