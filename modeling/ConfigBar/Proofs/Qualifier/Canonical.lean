import ConfigBar.Proofs.Qualifier.Reading
import ConfigBar.Proofs.Qualifier.Segment
/-!
# The spellings of a qualifier

A segment that is read is the segment of its qualifier, up to zeros in front of the numbers in it:
no other spelling of a qualifier is read, but for dimensions. The number of a code or a version
consists of digits only, while each size of a dimension may follow a plus sign.

* `withoutZeros`, `withoutSigns` — a text without the redundant zeros and without the plus signs
* `dropZeros_number` — of a number its canonical digits are left
* `withoutZeros_eq_or` — a segment that is read is canonical, or a dimension with a plus sign
* `spelling_of_ofFolder` — the segments of the folder names that are accepted
-/

namespace ConfigBar

open Text

/-! ## Redundant zeros -/

namespace Text

/-- Drops the zeros that stand in front of another digit and behind no digit that is kept.
`inNumber` tells whether there is such a digit before the text. -/
def dropZeros (inNumber : Bool) : List Char → List Char
  | [] => []
  | c :: cs =>
    if inNumber = false ∧ c = '0' ∧ cs.head?.any Char.isDigit = true then dropZeros false cs
    else c :: dropZeros c.isDigit cs

/-- A text without the redundant zeros in front of the numbers in it. -/
def withoutZeros (s : String) : String := String.ofList (dropZeros false s.toList)

/-- A text without its plus signs. -/
def withoutSigns (s : String) : String := String.ofList (s.toList.filter (· ≠ '+'))

variable {cs ds rest : List Char} {c : Char}

theorem dropZeros_of_not_mem (h : '0' ∉ cs) (inNumber : Bool) : dropZeros inNumber cs = cs := by
  induction cs generalizing inNumber with
  | nil => rfl
  | cons c cs ih =>
    obtain ⟨hc, hcs⟩ := List.ne_and_not_mem_of_not_mem_cons h
    rw [dropZeros, if_neg fun hdrop => hc hdrop.2.1.symm, ih hcs]

/-- Only zeros are dropped. -/
theorem mem_dropZeros (hc : c ≠ '0') (inNumber : Bool) : c ∈ dropZeros inNumber cs ↔ c ∈ cs := by
  induction cs generalizing inNumber with
  | nil => rfl
  | cons d cs ih =>
    rw [dropZeros]
    split
    · next hdrop => rw [ih, List.mem_cons, hdrop.2.1, or_iff_right hc]
    · rw [List.mem_cons, List.mem_cons, ih]

theorem dropZeros_cons_of_not_isDigit (h : c.isDigit = false) (inNumber : Bool) :
    dropZeros inNumber (c :: cs) = c :: dropZeros false cs := by
  have hc : c ≠ '0' := by
    rintro rfl
    cases h
  rw [dropZeros, if_neg fun hdrop => hc hdrop.2.1, h]

theorem dropZeros_append_of_not_isDigit (h : cs.any Char.isDigit = false) :
    dropZeros false (cs ++ rest) = cs ++ dropZeros false rest := by
  induction cs with
  | nil => rfl
  | cons c cs ih =>
    obtain ⟨hc, hcs⟩ := Bool.or_eq_false_iff.mp h
    rw [List.cons_append, dropZeros_cons_of_not_isDigit hc, ih hcs, List.cons_append]

/-- Behind a digit that is kept, the rest of the number is kept. -/
theorem dropZeros_digits (h : ∀ d ∈ ds, d.isDigit = true) :
    dropZeros true (ds ++ rest) = ds ++ dropZeros true rest := by
  induction ds with
  | nil => rfl
  | cons d ds ih =>
    rw [List.cons_append, dropZeros, if_neg fun hdrop => Bool.noConfusion hdrop.1,
      h d List.mem_cons_self, ih fun x hx => h x (List.mem_cons_of_mem d hx), List.cons_append]

theorem value_lt_of_isDigit (h : c.isDigit = true) : c.toNat - 48 < 10 := by
  have hc := toNat_of_isDigit h
  omega

/-- A digit is the canonical digit of its value. -/
theorem digits_value (h : c.isDigit = true) : digits (c.toNat - 48) = [c] := by
  have hc := toNat_of_isDigit h
  have hchar : (c.toNat - 48).digitChar = c := by
    rw [← Char.toNat_inj, Nat.toNat_digitChar_of_lt_ten (value_lt_of_isDigit h)]
    omega
  rw [digits, Nat.toDigits_of_lt_base (value_lt_of_isDigit h), hchar]

/-- More digits behind the digits of a number other than zero are digits of the new number. -/
theorem digits_ofDigitChars {n : Nat} (hn : 0 < n) (h : ∀ d ∈ ds, d.isDigit = true) :
    digits (Nat.ofDigitChars 10 ds n) = digits n ++ ds := by
  induction ds generalizing n with
  | nil => rw [Nat.ofDigitChars_nil, List.append_nil]
  | cons d ds ih =>
    have hd := h d List.mem_cons_self
    have hstep : digits (10 * n + (d.toNat - 48)) = digits n ++ [d] := by
      rw [← digits_value hd]
      exact (Nat.toDigits_append_toDigits (by decide) hn (value_lt_of_isDigit hd)).symm
    rw [Nat.ofDigitChars_cons]
    show digits (Nat.ofDigitChars 10 ds (10 * n + (d.toNat - 48))) = _
    rw [ih (by omega) fun x hx => h x (List.mem_cons_of_mem d hx), hstep, List.append_assoc,
      List.singleton_append]

/-- Of a number its canonical digits are left. -/
theorem dropZeros_number {n : Nat} (h : natOfDigits? ds = some n)
    (hrest : rest.head?.any Char.isDigit = false) :
    dropZeros false (ds ++ rest) = digits n ++ dropZeros true rest := by
  obtain ⟨hne, hdigits, rfl⟩ := natOfDigits?_eq_some_iff.mp h
  clear h
  induction ds with
  | nil => exact absurd rfl hne
  | cons d ds ih =>
    have hd := hdigits d List.mem_cons_self
    have hds : ∀ x ∈ ds, x.isDigit = true := fun x hx => hdigits x (List.mem_cons_of_mem d hx)
    rw [List.cons_append, dropZeros, Nat.ofDigitChars_cons]
    show _ = digits (Nat.ofDigitChars 10 ds (10 * 0 + (d.toNat - 48))) ++ _
    by_cases hzero : d = '0'
    · subst hzero
      cases ds with
      | nil =>
        -- a zero that stands alone is kept
        rw [List.nil_append, if_neg (by simp [hrest])]
        rfl
      | cons e es =>
        have he : ((e :: es ++ rest).head?.any Char.isDigit) = true := hds e List.mem_cons_self
        rw [if_pos ⟨rfl, rfl, he⟩]
        exact ih (List.cons_ne_nil e es) hds
    · have hpos : 0 < d.toNat - 48 := by
        have hne : d.toNat ≠ '0'.toNat := fun h => hzero (Char.toNat_inj.mp h)
        have := toNat_of_isDigit hd
        have : '0'.toNat = 48 := rfl
        omega
      rw [if_neg fun hdrop => hzero hdrop.2.1, hd, dropZeros_digits hds, Nat.mul_zero,
        Nat.zero_add, digits_ofDigitChars hpos hds, digits_value hd]
      rfl

/-- A text that is a number becomes its canonical digits. -/
theorem dropZeros_of_natOfDigits? {n : Nat} (h : natOfDigits? ds = some n) :
    dropZeros false ds = digits n := by
  have hdrop : dropZeros false (ds ++ []) = digits n ++ [] := dropZeros_number h rfl
  rwa [List.append_nil, List.append_nil] at hdrop

theorem withoutZeros_of_not_mem {s : String} (h : '0' ∉ s.toList) : withoutZeros s = s := by
  rw [withoutZeros, dropZeros_of_not_mem h, String.ofList_toList]

end Text

/-! ## Segments -/

variable {s : String}

theorem withoutZeros_number {front : String} {n : UInt32}
    (hfront : front.toList.any Char.isDigit = false) (h : numberAfter? front s = some n) :
    withoutZeros s = front ++ toString n.toNat := by
  obtain ⟨ds, hs, hds⟩ := numberAfter?_eq_some_iff.mp h
  refine String.toList_injective ?_
  rw [withoutZeros, String.toList_ofList, hs, dropZeros_append_of_not_isDigit hfront,
    dropZeros_of_natOfDigits? hds, String.toList_append, toList_toString_nat]

theorem withoutZeros_code {front : String} {code : UInt16}
    (hfront : front.toList.any Char.isDigit = false)
    (h : (numberAfter? front s).bind code? = some code) :
    withoutZeros s = front ++ toString code.toNat := by
  obtain ⟨n, hn, hcode⟩ := Option.bind_eq_some_iff.mp h
  rw [withoutZeros_number hfront hn, word16?_eq_some_iff.mp hcode]

theorem withoutZeros_word {α : Type} [Spelling α] {v : α}
    (hzero : ∀ w ∈ segmentsOf α, '0' ∉ w.toList) (htrim : trim s = s)
    (h : Spelling.ofSegment? s = some v) : withoutZeros s = Spelling.segment v := by
  obtain ⟨hv, hs⟩ := segment_of_ofSegment? h
  rw [htrim] at hs
  rw [hs]
  exact withoutZeros_of_not_mem (hzero _ (List.mem_map_of_mem hv))

theorem filter_of_natOfDigits? {cs : List Char} {n : Nat} (h : natOfDigits? cs = some n) :
    cs.filter (· ≠ '+') = cs := by
  obtain ⟨-, hdigits, -⟩ := natOfDigits?_eq_some_iff.mp h
  refine List.filter_eq_self.mpr fun c hc => decide_eq_true ?_
  rintro rfl
  cases hdigits '+' hc

/-- A size is a number behind its plus sign. -/
theorem natOfDigits?_of_size? {cs : List Char} {n : UInt32} (h : Dimension.size? cs = some n) :
    natOfDigits? (cs.filter (· ≠ '+')) = some n.toNat := by
  obtain ⟨m, hm, hn⟩ := Option.bind_eq_some_iff.mp h
  rw [word32?_eq_some_iff.mp hn] at hm
  unfold natOfSigned? at hm
  split at hm
  · rw [List.filter_cons_of_neg (by decide), filter_of_natOfDigits? hm]
    exact hm
  · rw [filter_of_natOfDigits? hm]
    exact hm

theorem withoutZeros_dimension {d : Dimension} (htrim : trim s = s)
    (h : Dimension.ofSegment? s = some d) : withoutZeros (withoutSigns s) = d.segment := by
  obtain ⟨a, b, hs, -, ha, hb⟩ := ofSegment?_dimension h
  rw [← toList_trim, htrim] at hs
  have hsigns : (withoutSigns s).toList = a.filter (· ≠ '+') ++ 'x' :: b.filter (· ≠ '+') := by
    rw [withoutSigns, String.toList_ofList, hs, List.filter_append,
      List.filter_cons_of_pos (by decide)]
  have hfirst : dropZeros false (withoutSigns s).toList =
      digits d.size1.toNat ++ dropZeros true ('x' :: b.filter (· ≠ '+')) := by
    rw [hsigns]
    exact dropZeros_number (natOfDigits?_of_size? ha) rfl
  refine String.toList_injective ?_
  rw [withoutZeros, String.toList_ofList, hfirst, toList_dimension_segment,
    dropZeros_cons_of_not_isDigit (by decide),
    dropZeros_of_natOfDigits? (natOfDigits?_of_size? hb)]

theorem withoutSigns_eq_self (h : '+' ∉ s.toList) : withoutSigns s = s := by
  have hfilter : s.toList.filter (· ≠ '+') = s.toList :=
    List.filter_eq_self.mpr fun c hc => decide_eq_true fun he => h (he ▸ hc)
  rw [withoutSigns, hfilter, String.ofList_toList]

/-- No letter is a zero. -/
theorem zero_not_mem_of_isAlpha {cs : List Char}
    (h : ∀ c ∈ cs, c.isLower = true ∨ c.isUpper = true) : '0' ∉ cs := by
  intro hzero
  rcases h '0' hzero with h | h <;> cases h

namespace Qualifier

/-- What is read is the segment of its qualifier up to redundant zeros, or a dimension with a plus
sign. -/
theorem withoutZeros_eq_or {q : Qualifier} (htrim : trim s = s) (h : ofSegment? s = some q) :
    withoutZeros s = q.segment ∨
      '+' ∈ s.toList ∧ q.kind = .dimension ∧ withoutZeros (withoutSigns s) = q.segment := by
  have hread := ofSegment?_eq_some_iff.mp h
  cases q with
  | language code =>
    obtain ⟨he, hcode⟩ := read?_language_eq_some_iff.mp hread
    cases he
    obtain ⟨a, b, hs, ha, hb⟩ := isLanguageCode_iff.mp hcode
    refine Or.inl (withoutZeros_of_not_mem (zero_not_mem_of_isAlpha ?_))
    simp [hs, ha, hb]
  | region code =>
    obtain ⟨_, he, hcode, hs⟩ := read?_region_eq_some_iff.mp hread
    cases he
    obtain ⟨a, b, hc, ha, hb⟩ := isRegionCode_iff.mp hcode
    have hsegment : s = "r" ++ code := String.toList_injective (by rw [hs, String.toList_append]; rfl)
    refine Or.inl ((withoutZeros_of_not_mem (zero_not_mem_of_isAlpha ?_)).trans hsegment)
    simp [hs, hc, ha, hb, show 'r'.isLower = true from rfl]
  | dimension d =>
    obtain ⟨_, hd, he⟩ := Option.map_eq_some_iff.mp hread
    cases he
    by_cases hplus : '+' ∈ s.toList
    · exact Or.inr ⟨hplus, rfl, withoutZeros_dimension htrim hd⟩
    · refine Or.inl ?_
      rw [← withoutSigns_eq_self hplus]
      exact withoutZeros_dimension htrim hd
  | countryCode code | networkCode code =>
    obtain ⟨_, hcode, he⟩ := Option.map_eq_some_iff.mp hread
    cases he
    exact Or.inl (withoutZeros_code (by decide) hcode)
  | version level =>
    obtain ⟨_, hlevel, he⟩ := Option.map_eq_some_iff.mp hread
    cases he
    exact Or.inl (withoutZeros_number (by decide) hlevel)
  | orientation v | density v | touch v | keyboard v | textInput v | navigation v =>
    obtain ⟨_, hv, he⟩ := Option.map_eq_some_iff.mp hread
    cases he
    exact Or.inl (withoutZeros_word (by decide) htrim hv)

end Qualifier

/-! ## Folder names -/

namespace QualifierSet

theorem trim_of_mem_segments {text segment : String} (h : segment ∈ segments text) :
    trim segment = segment := by
  obtain ⟨parts, cores, -, -, -, hcores, hsegments⟩ := segments_eq_iff.mp (rfl : segments text = _)
  rw [hsegments, forall₂_isCore_iff.mp hcores] at h
  obtain ⟨part, -, rfl⟩ := List.mem_map.mp (List.mem_filter.mp h).1
  rw [trim, toList_trim, trimChars_trimChars, trim]

/-- **The segments of a folder name that is accepted are the segments of its qualifiers, up to
redundant zeros in the numbers, exactly as far as they have no plus sign.** Only dimensions have
plus signs, and without them they are canonical as well. -/
theorem spelling_of_ofFolder {text : String} {s : QualifierSet} (h : ofFolder text = .ok s) :
    ∀ segment ∈ segments text, ∃ q ∈ s.toList, Qualifier.ofSegment? segment = some q ∧
      (withoutZeros segment = q.segment ↔ '+' ∉ segment.toList) ∧
      ('+' ∈ segment.toList →
        q.kind = .dimension ∧ withoutZeros (withoutSigns segment) = q.segment) := by
  intro segment hsegment
  obtain ⟨hordered, hlist⟩ := areOrdered_of_ofFolder h
  obtain ⟨q, hq⟩ := Option.isSome_iff_exists.mp (hordered.recognized segment hsegment)
  have hmem : q ∈ s.toList := by
    rw [hlist]
    exact List.mem_filterMap.mpr ⟨segment, hsegment, hq⟩
  have hcanonical := Qualifier.withoutZeros_eq_or (trim_of_mem_segments hsegment) hq
  -- a plus sign is left with the text, and no segment has one
  have hplus : withoutZeros segment = q.segment → '+' ∉ segment.toList := by
    intro he hplus
    have hleft : '+' ∈ q.segment.toList := by
      rw [← he, withoutZeros, String.toList_ofList]
      exact (mem_dropZeros (by decide) false).mpr hplus
    have := Qualifier.isAlphanum_of_mem_segment (Qualifier.hasCode_of_ofSegment? hq) '+' hleft
    revert this
    decide
  refine ⟨q, hmem, hq, ⟨hplus, fun hnot => ?_⟩, fun hin => ?_⟩
  · exact hcanonical.resolve_right fun hdimension => hnot hdimension.1
  · exact (hcanonical.resolve_left fun he => hplus he hin).2

/-- Zeros in all numbers, blanks around the segments. -/
theorem spelling_of_ofFolder_of_zeros :
    let s : QualifierSet := { empty with
      countryCode := some 310, networkCode := some 0, textInput := some .twelveKey,
      dimension := some ⟨640, 480⟩, version := some 4 }
    ofFolder "mcc0310- mnc00 -12key-0640x00480-v04" = .ok s ∧
      "0640x00480" ∈ segments "mcc0310- mnc00 -12key-0640x00480-v04" ∧
      ∃ q ∈ s.toList, Qualifier.ofSegment? "0640x00480" = some q ∧
        withoutZeros "0640x00480" = q.segment := by
  intro s
  have hread : ofFolder "mcc0310- mnc00 -12key-0640x00480-v04" = .ok s := by decide +kernel
  have hmem : "0640x00480" ∈ segments "mcc0310- mnc00 -12key-0640x00480-v04" := by decide
  obtain ⟨q, hq, hsegment, hcanonical, -⟩ := spelling_of_ofFolder hread _ hmem
  exact ⟨hread, hmem, q, hq, hsegment, hcanonical.mpr (by decide)⟩

/-- A dimension with a plus sign is accepted, though no dimension is written so. -/
theorem withoutZeros_ne_of_plus_sign :
    ofFolder "+640x480" = .ok { empty with dimension := some ⟨640, 480⟩ } ∧
      segments "+640x480" = ["+640x480"] ∧
      Qualifier.ofSegment? "+640x480" = some (.dimension ⟨640, 480⟩) ∧
      (Qualifier.dimension ⟨640, 480⟩).segment = "640x480" ∧
      withoutZeros "+640x480" ≠ "640x480" :=
  ⟨rfl, rfl, rfl, rfl, by decide⟩

end QualifierSet

end ConfigBar
