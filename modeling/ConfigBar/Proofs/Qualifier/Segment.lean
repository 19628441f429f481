import ConfigBar.Proofs.Qualifier.Shape
/-!
# Segments are read back

A segment is read back to the qualifier that it was written for, as far as the texts of languages
and regions are codes. What is read is always of this kind.

* `read?_segment` — the reader of a kind reads the segments of its qualifiers
* `ofSegment?_segment` — no other reader comes before it
* `hasCode_of_ofSegment?` — what is read has a code
* `isAlphanum_of_mem_segment` — a segment consists of letters and digits
-/

namespace ConfigBar

open Text

/-- Is a qualifier that holds a text one that can be read: a code? -/
def Qualifier.hasCode : Qualifier → Bool
  | .language code => isLanguageCode code
  | .region code => isRegionCode code
  | _ => true

/-! ## Numbers and dimensions -/

theorem numberAfter?_append_toString (front : String) (n : UInt32) :
    numberAfter? front (front ++ toString n.toNat) = some n := by
  refine numberAfter?_eq_some_iff.mpr ⟨digits n.toNat, ?_, natOfDigits?_digits n.toNat⟩
  rw [String.toList_append, toList_toString_nat]

theorem code?_append_toString (front : String) (code : UInt16) :
    (numberAfter? front (front ++ toString code.toNat)).bind code? = some code := by
  have hread := numberAfter?_append_toString front code.toUInt32
  rw [UInt16.toNat_toUInt32] at hread
  rw [hread, Option.bind_some, code?, UInt16.toNat_toUInt32, word16?_eq_some_iff]

theorem size?_digits (n : UInt32) : Dimension.size? (digits n.toNat) = some n := by
  unfold Dimension.size? natOfSigned?
  split
  · next cs hcs =>
    -- a plus sign is no digit
    have hplus : '+' ∈ digits n.toNat := hcs ▸ List.mem_cons_self
    exact absurd (isDigit_of_mem_digits hplus) (by decide)
  · rw [natOfDigits?_digits, Option.bind_some, word32?_eq_some_iff]

theorem toList_dimension_segment (d : Dimension) :
    d.segment.toList = digits d.size1.toNat ++ 'x' :: digits d.size2.toNat := by
  simp [Dimension.segment, digits]

theorem isAlphanum_of_mem_dimension {d : Dimension} {c : Char} (h : c ∈ d.segment.toList) :
    c.isAlphanum = true := by
  rw [toList_dimension_segment] at h
  rcases List.mem_append.mp h with h | h
  · exact isAlphanum_iff.mpr (Or.inr (Or.inr (isDigit_of_mem_digits h)))
  · rcases List.mem_cons.mp h with rfl | h
    · decide
    · exact isAlphanum_iff.mpr (Or.inr (Or.inr (isDigit_of_mem_digits h)))

theorem ofSegment?_dimension_segment (d : Dimension) :
    Dimension.ofSegment? d.segment = some d := by
  have hx : 'x' ∉ digits d.size1.toNat := fun h => absurd (isDigit_of_mem_digits h) (by decide)
  unfold Dimension.ofSegment?
  rw [trimChars_eq_self fun c hc => isBlank_of_isAlphanum (isAlphanum_of_mem_dimension hc),
    cut?_eq_some_iff.mpr ⟨toList_dimension_segment d, hx⟩]
  simp [size?_digits]

/-! ## All kinds -/

namespace Qualifier

/-- The reader of a kind reads the segments of its qualifiers. -/
theorem read?_segment {q : Qualifier} (hq : q.hasCode = true) :
    q.kind.read? q.segment = some q := by
  cases q with
  | countryCode code => exact congrArg (Option.map countryCode) (code?_append_toString "mcc" code)
  | networkCode code => exact congrArg (Option.map networkCode) (code?_append_toString "mnc" code)
  | language code => exact read?_language_eq_some_iff.mpr ⟨rfl, hq⟩
  | region code =>
    refine read?_region_eq_some_iff.mpr ⟨code, rfl, hq, ?_⟩
    simp [segment]
  | orientation v => exact congrArg (Option.map orientation) (LawfulSpelling.ofSegment?_segment v)
  | density v => exact congrArg (Option.map density) (LawfulSpelling.ofSegment?_segment v)
  | touch v => exact congrArg (Option.map touch) (LawfulSpelling.ofSegment?_segment v)
  | keyboard v => exact congrArg (Option.map keyboard) (LawfulSpelling.ofSegment?_segment v)
  | textInput v => exact congrArg (Option.map textInput) (LawfulSpelling.ofSegment?_segment v)
  | navigation v => exact congrArg (Option.map navigation) (LawfulSpelling.ofSegment?_segment v)
  | dimension d => exact congrArg (Option.map dimension) (ofSegment?_dimension_segment d)
  | version level => exact congrArg (Option.map version) (numberAfter?_append_toString "v" level)

theorem ofSegment?_segment {q : Qualifier} (hq : q.hasCode = true) :
    ofSegment? q.segment = some q :=
  ofSegment?_eq_some_iff.mpr (read?_segment hq)

/-- What is read has a code. -/
theorem hasCode_of_ofSegment? {s : String} {q : Qualifier} (h : ofSegment? s = some q) :
    q.hasCode = true := by
  have hread := ofSegment?_eq_some_iff.mp h
  cases q with
  | language code =>
    obtain ⟨hcode, hc⟩ := read?_language_eq_some_iff.mp hread
    cases hcode
    exact hc
  | region code =>
    obtain ⟨_, hcode, hc, -⟩ := read?_region_eq_some_iff.mp hread
    cases hcode
    exact hc
  | _ => rfl

/-! ## The characters of a segment -/

theorem isAlphanum_of_mem_number {front : String} {n : Nat}
    (hfront : front.toList.all Char.isAlphanum = true) :
    ∀ c ∈ (front ++ toString n).toList, c.isAlphanum = true := by
  intro c hc
  rw [String.toList_append, toList_toString_nat] at hc
  rcases List.mem_append.mp hc with hc | hc
  · exact List.all_eq_true.mp hfront c hc
  · exact isAlphanum_iff.mpr (Or.inr (Or.inr (isDigit_of_mem_digits hc)))

/-- A segment consists of letters and digits. -/
theorem isAlphanum_of_mem_segment {q : Qualifier} (hq : q.hasCode = true) :
    ∀ c ∈ q.segment.toList, c.isAlphanum = true := by
  cases q with
  | language code =>
    obtain ⟨a, b, hs, ha, hb⟩ := isLanguageCode_iff.mp hq
    simp [segment, hs, isAlphanum_iff, ha, hb]
  | region code =>
    obtain ⟨a, b, hs, ha, hb⟩ := isRegionCode_iff.mp hq
    have hr : 'r'.isLower = true := by decide
    simp [segment, hs, isAlphanum_iff, ha, hb, hr]
  | orientation v => exact List.all_eq_true.mp (LawfulSpelling.isAlphanum v)
  | density v => exact List.all_eq_true.mp (LawfulSpelling.isAlphanum v)
  | touch v => exact List.all_eq_true.mp (LawfulSpelling.isAlphanum v)
  | keyboard v => exact List.all_eq_true.mp (LawfulSpelling.isAlphanum v)
  | textInput v => exact List.all_eq_true.mp (LawfulSpelling.isAlphanum v)
  | navigation v => exact List.all_eq_true.mp (LawfulSpelling.isAlphanum v)
  | dimension d => exact fun c => isAlphanum_of_mem_dimension
  | countryCode code => exact isAlphanum_of_mem_number (by decide)
  | networkCode code => exact isAlphanum_of_mem_number (by decide)
  | version level => exact isAlphanum_of_mem_number (by decide)

theorem segment_ne_nil {q : Qualifier} (hq : q.hasCode = true) : q.segment.toList ≠ [] := by
  intro hnil
  have hshape := Kind.ofShape?_of_claims (Kind.claims_of_read? (read?_segment hq))
  rw [hnil] at hshape
  cases hshape

end Qualifier

end ConfigBar
