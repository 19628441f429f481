import ConfigBar.Qualifier.Basic
import ConfigBar.Proofs.Text.Joined
/-!
# The readers of segments

No text can be read as a segment of two kinds. The last letter of a segment tells codes of
countries, networks and versions and dimensions (a digit) from regions (a capital letter) and from
the words (a small letter), and what is left is told apart by the first letters, by the length, or
by the list of the words. `Kind.ofShape?` makes these decisions, `ofShape?_of_claims` says that they
name the kind of every reader that accepts a text, and it follows

* `claims_unique` — at most one kind claims a text
* `ofSegment?_eq_some_iff` — trying the kinds in folder order finds what the reader of the kind
  itself finds
-/

namespace ConfigBar

open Text

/-! ## What the readers accept -/

theorem numberAfter?_eq_some_iff {front s : String} {n : UInt32} :
    numberAfter? front s = some n ↔
      ∃ ds, s.toList = front.toList ++ ds ∧ natOfDigits? ds = some n.toNat := by
  unfold numberAfter?
  simp only [Option.bind_eq_bind, Option.bind_eq_some_iff, after?_eq_some_iff,
    word32?_eq_some_iff]
  constructor
  · rintro ⟨ds, hs, m, hm, rfl⟩
    exact ⟨ds, hs, hm⟩
  · rintro ⟨ds, hs, hm⟩
    exact ⟨ds, hs, n.toNat, hm, rfl⟩

/-- Both codes are two letters of one case. -/
theorem twoLetters_iff {isLetter : Char → Bool} {cs : List Char} :
    (match cs with
      | [a, b] => isLetter a && isLetter b
      | _ => false) = true ↔
      ∃ a b, cs = [a, b] ∧ isLetter a = true ∧ isLetter b = true := by
  split
  · next a b =>
    rw [Bool.and_eq_true]
    refine ⟨fun hc => ⟨a, b, rfl, hc⟩, ?_⟩
    rintro ⟨x, y, hxy, hc⟩
    cases hxy
    exact hc
  · next h => simpa using fun a b hs => absurd hs (h a b)

theorem isLanguageCode_iff {s : String} :
    isLanguageCode s = true ↔
      ∃ a b, s.toList = [a, b] ∧ a.isLower = true ∧ b.isLower = true :=
  twoLetters_iff

theorem isRegionCode_iff {s : String} :
    isRegionCode s = true ↔
      ∃ a b, s.toList = [a, b] ∧ a.isUpper = true ∧ b.isUpper = true :=
  twoLetters_iff

theorem read?_language_eq_some_iff {s : String} {q : Qualifier} :
    Kind.language.read? s = some q ↔ q = .language s ∧ isLanguageCode s = true := by
  simp only [Kind.read?]
  by_cases hc : isLanguageCode s = true
  · simp [hc, eq_comm]
  · simp [hc]

theorem read?_region_eq_some_iff {s : String} {q : Qualifier} :
    Kind.region.read? s = some q ↔
      ∃ code, q = .region code ∧ isRegionCode code = true ∧ s.toList = 'r' :: code.toList := by
  simp only [Kind.read?]
  constructor
  · intro h
    split at h
    · next rest hr =>
      split at h
      · next hc =>
        refine ⟨String.ofList rest, (Option.some.inj h).symm, hc, ?_⟩
        rw [after?_eq_some_iff.mp hr, String.toList_ofList, List.singleton_append]
      · cases h
    · cases h
  · rintro ⟨code, rfl, hc, hs⟩
    rw [hs, after?_eq_some_iff.mpr (List.singleton_append).symm]
    simp [hc]

theorem segment_of_ofSegment? {α : Type} [Spelling α] {s : String} {v : α}
    (h : Spelling.ofSegment? s = some v) :
    v ∈ (Spelling.values : List α) ∧ trim s = Spelling.segment v := by
  unfold Spelling.ofSegment? at h
  have hv := List.find?_some h
  exact ⟨List.mem_of_find?_eq_some h, (of_decide_eq_true hv).symm⟩

theorem getLast?_of_natOfDigits? {cs : List Char} {n : Nat} (h : natOfDigits? cs = some n) :
    ∃ d, cs.getLast? = some d ∧ d.isDigit = true := by
  obtain ⟨hne, hdigits, -⟩ := natOfDigits?_eq_some_iff.mp h
  exact ⟨cs.getLast hne, List.getLast?_eq_some_getLast hne, hdigits _ (List.getLast_mem hne)⟩

/-- A size starts with a digit or a plus sign and ends with a digit. -/
theorem size?_shape {cs : List Char} {n : UInt32} (h : Dimension.size? cs = some n) :
    (∃ c rest, cs = c :: rest ∧ (c = '+' ∨ c.isDigit = true)) ∧
      ∃ d, cs.getLast? = some d ∧ d.isDigit = true := by
  obtain ⟨m, hm, -⟩ := Option.bind_eq_some_iff.mp h
  unfold natOfSigned? at hm
  split at hm
  · next rest =>
    obtain ⟨d, hd, hdigit⟩ := getLast?_of_natOfDigits? hm
    refine ⟨⟨'+', rest, rfl, Or.inl rfl⟩, d, ?_, hdigit⟩
    rw [List.getLast?_cons, hd]
    rfl
  · refine ⟨?_, getLast?_of_natOfDigits? hm⟩
    obtain ⟨hne, hdigits, -⟩ := natOfDigits?_eq_some_iff.mp hm
    obtain ⟨c, rest, rfl⟩ := List.exists_cons_of_ne_nil hne
    exact ⟨c, rest, rfl, Or.inr (hdigits c List.mem_cons_self)⟩

/-- The dimension reader finds two sizes around an `x`. -/
theorem ofSegment?_dimension {s : String} {d : Dimension} (h : Dimension.ofSegment? s = some d) :
    ∃ a b, trimChars s.toList = a ++ 'x' :: b ∧ 'x' ∉ a ∧ Dimension.size? a = some d.size1 ∧
      Dimension.size? b = some d.size2 := by
  unfold Dimension.ofSegment? at h
  simp only [Option.bind_eq_bind, Option.bind_eq_some_iff, Prod.exists] at h
  obtain ⟨a, b, hcut, x, hx, y, hy, hd⟩ := h
  obtain ⟨ht, hn⟩ := cut?_eq_some_iff.mp hcut
  cases hd
  exact ⟨a, b, ht, hn, hx, hy⟩

/-! ## The shape of a segment -/

/-- The segments of the values of a type. -/
def segmentsOf (α : Type) [Spelling α] : List String :=
  (Spelling.values : List α).map Spelling.segment

/-- The segments of a type consist of letters and digits and are read back. -/
class LawfulSpelling (α : Type) [Spelling α] : Prop where
  isAlphanum : ∀ v : α, (Spelling.segment v).toList.all Char.isAlphanum = true
  ofSegment?_segment : ∀ v : α, Spelling.ofSegment? (Spelling.segment v) = some v

instance : LawfulSpelling Density := ⟨by intro v; cases v <;> rfl, by intro v; cases v <;> rfl⟩

instance : LawfulSpelling Orientation := ⟨by intro v; cases v <;> rfl, by intro v; cases v <;> rfl⟩

instance : LawfulSpelling Touch := ⟨by intro v; cases v <;> rfl, by intro v; cases v <;> rfl⟩

instance : LawfulSpelling Keyboard := ⟨by intro v; cases v <;> rfl, by intro v; cases v <;> rfl⟩

instance : LawfulSpelling TextInput := ⟨by intro v; cases v <;> rfl, by intro v; cases v <;> rfl⟩

instance : LawfulSpelling Navigation := ⟨by intro v; cases v <;> rfl, by intro v; cases v <;> rfl⟩

namespace Kind

/-- The words that are segments of a kind. -/
def words : Kind → List String
  | .orientation => segmentsOf Orientation
  | .density => segmentsOf Density
  | .touch => segmentsOf Touch
  | .keyboard => segmentsOf Keyboard
  | .textInput => segmentsOf TextInput
  | .navigation => segmentsOf Navigation
  | _ => []

/-- The kind of a segment that ends with a digit, by its first letters. -/
def ofNumberShape : List Char → Kind
  | 'm' :: 'c' :: _ => .countryCode
  | 'm' :: _ => .networkCode
  | 'v' :: _ => .version
  | _ => .dimension

/-- The only kind of which a text without blanks around it can be a segment. -/
def ofShape? (cs : List Char) : Option Kind :=
  match cs.getLast? with
  | none => none
  | some last =>
    if last.isDigit then some (ofNumberShape cs)
    else if last.isUpper then some .region
    else if cs.length = 2 then some .language
    else all.find? fun k => k.words.any fun w => w.toList = cs

/-- Does a text have the form of a segment of a kind? The number of a country or a network may be
too large for a code. -/
def claims : Kind → String → Bool
  | .countryCode, s => (numberAfter? "mcc" s).isSome
  | .networkCode, s => (numberAfter? "mnc" s).isSome
  | k, s => (k.read? s).isSome

theorem ofShape?_of_digit {cs : List Char} {d : Char} (h : cs.getLast? = some d)
    (hd : d.isDigit = true) : ofShape? cs = some (ofNumberShape cs) := by
  unfold ofShape?
  rw [h]
  simp [hd]

/-- A text that is spelled out like a value has the shape of the kind of its type. -/
theorem ofShape?_of_spelled {α : Type} [Spelling α] {k : Kind} {s : String} {f : α → Qualifier}
    (hk : ∀ w ∈ segmentsOf α, ofShape? w.toList = some k)
    (h : ((Spelling.ofSegment? s).map f).isSome = true) :
    ofShape? (trimChars s.toList) = some k := by
  rw [Option.isSome_map] at h
  obtain ⟨v, hv⟩ := Option.isSome_iff_exists.mp h
  obtain ⟨hmem, htrim⟩ := segment_of_ofSegment? hv
  rw [← toList_trim, htrim]
  exact hk _ (List.mem_map_of_mem hmem)

/-- A number after letters has no blanks and the shape that its first letters give it. -/
theorem ofShape?_of_numberAfter? {front s : String}
    (hfront : front.toList.any isBlank = false) (h : (numberAfter? front s).isSome = true) :
    ∃ ds, ds ≠ [] ∧ s.toList = front.toList ++ ds ∧
      ofShape? (trimChars s.toList) = some (ofNumberShape (front.toList ++ ds)) := by
  obtain ⟨n, hn⟩ := Option.isSome_iff_exists.mp h
  obtain ⟨ds, hs, hds⟩ := numberAfter?_eq_some_iff.mp hn
  obtain ⟨hne, hdigits, -⟩ := natOfDigits?_eq_some_iff.mp hds
  refine ⟨ds, hne, hs, ?_⟩
  have hblank : ∀ c ∈ s.toList, isBlank c = false := by
    intro c hc
    rw [hs] at hc
    rcases List.mem_append.mp hc with hc | hc
    · exact Bool.eq_false_iff.mpr (List.any_eq_false.mp hfront c hc)
    · exact isBlank_of_isDigit (hdigits c hc)
  rw [trimChars_eq_self hblank, hs]
  refine ofShape?_of_digit ?_ (hdigits _ (List.getLast_mem hne))
  rw [List.getLast?_append, List.getLast?_eq_some_getLast hne]
  rfl

theorem ofNumberShape_cons {c : Char} (h : c = '+' ∨ c.isDigit = true) (rest : List Char) :
    ofNumberShape (c :: rest) = .dimension := by
  have hc : c ≠ 'm' ∧ c ≠ 'v' := by
    rcases h with rfl | h
    · decide
    · constructor <;> rintro rfl <;> cases h
  unfold ofNumberShape
  split
  · next he => exact absurd (List.cons.inj he).1 hc.1
  · next he => exact absurd (List.cons.inj he).1 hc.1
  · next he => exact absurd (List.cons.inj he).1 hc.2
  · rfl

/-- **The shape names the kind of every reader that accepts the text.** -/
theorem ofShape?_of_claims {k : Kind} {s : String} (h : k.claims s = true) :
    ofShape? (trimChars s.toList) = some k := by
  cases k with
  | countryCode =>
    obtain ⟨ds, -, -, hshape⟩ := ofShape?_of_numberAfter? (by decide) h
    exact hshape
  | networkCode =>
    obtain ⟨ds, -, -, hshape⟩ := ofShape?_of_numberAfter? (by decide) h
    exact hshape
  | language =>
    obtain ⟨q, hq⟩ := Option.isSome_iff_exists.mp h
    obtain ⟨a, b, hs, ha, hb⟩ := isLanguageCode_iff.mp (read?_language_eq_some_iff.mp hq).2
    -- the last letter rules out numbers and regions, the length all words
    rw [hs, trimChars_eq_self (by simp [isBlank_of_isLower ha, isBlank_of_isLower hb])]
    simp [ofShape?, isDigit_of_isLower hb, isUpper_of_isLower hb]
  | region =>
    obtain ⟨q, hq⟩ := Option.isSome_iff_exists.mp h
    obtain ⟨code, -, hc, hs⟩ := read?_region_eq_some_iff.mp hq
    obtain ⟨a, b, hcode, ha, hb⟩ := isRegionCode_iff.mp hc
    rw [hs, hcode, trimChars_eq_self (by
      simp [isBlank_of_isUpper ha, isBlank_of_isUpper hb, isBlank_of_isLower (c := 'r') (by decide)])]
    simp [ofShape?, isDigit_of_isUpper hb, hb]
  | orientation => exact ofShape?_of_spelled (by decide) h
  | density => exact ofShape?_of_spelled (by decide) h
  | touch => exact ofShape?_of_spelled (by decide) h
  | keyboard => exact ofShape?_of_spelled (by decide) h
  | textInput => exact ofShape?_of_spelled (by decide) h
  | navigation => exact ofShape?_of_spelled (by decide) h
  | dimension =>
    obtain ⟨q, hq⟩ := Option.isSome_iff_exists.mp h
    obtain ⟨d, hd, -⟩ := Option.map_eq_some_iff.mp hq
    obtain ⟨a, b, ht, -, ha, hb⟩ := ofSegment?_dimension hd
    -- the first size decides how the text starts, the second one how it ends
    obtain ⟨⟨c, rest, rfl, hc⟩, -⟩ := size?_shape ha
    obtain ⟨-, last, hlast, hdigit⟩ := size?_shape hb
    rw [ht, ofShape?_of_digit _ hdigit, List.cons_append, ofNumberShape_cons hc]
    rw [List.getLast?_append, List.getLast?_cons, hlast]
    rfl
  | version =>
    obtain ⟨ds, -, -, hshape⟩ :=
      ofShape?_of_numberAfter? (by decide) ((Option.isSome_map ..).symm.trans h)
    exact hshape

/-- At most one kind claims a text. -/
theorem claims_unique {k l : Kind} {s : String} (hk : k.claims s = true)
    (hl : l.claims s = true) : k = l :=
  Option.some.inj ((ofShape?_of_claims hk).symm.trans (ofShape?_of_claims hl))

/-! ## Reading a segment of any kind -/

theorem kind_of_read? {k : Kind} {s : String} {q : Qualifier} (h : k.read? s = some q) :
    q.kind = k := by
  cases k with
  | language => rw [(read?_language_eq_some_iff.mp h).1]; rfl
  | region =>
    obtain ⟨code, rfl, -⟩ := read?_region_eq_some_iff.mp h
    rfl
  | _ =>
    obtain ⟨v, -, rfl⟩ := Option.map_eq_some_iff.mp h
    rfl

theorem claims_of_read? {k : Kind} {s : String} {q : Qualifier} (h : k.read? s = some q) :
    k.claims s = true := by
  cases k with
  | countryCode =>
    obtain ⟨v, hv, -⟩ := Option.map_eq_some_iff.mp h
    obtain ⟨n, hn, -⟩ := Option.bind_eq_some_iff.mp hv
    exact Option.isSome_of_eq_some hn
  | networkCode =>
    obtain ⟨v, hv, -⟩ := Option.map_eq_some_iff.mp h
    obtain ⟨n, hn, -⟩ := Option.bind_eq_some_iff.mp hv
    exact Option.isSome_of_eq_some hn
  | _ => exact Option.isSome_of_eq_some h

/-- If only a kind that claims a text can answer, the kinds may be asked in any order. -/
theorem findSome?_of_claims {α : Type} {answer : Kind → Option α} {s : String}
    (hanswer : ∀ k a, answer k = some a → k.claims s = true) {order : List Kind} {k : Kind}
    (hk : k ∈ order) {a : α} (ha : answer k = some a) : order.findSome? answer = some a := by
  have hsome : (order.findSome? answer).isSome = true :=
    List.findSome?_isSome_iff.mpr ⟨k, hk, Option.isSome_of_eq_some ha⟩
  obtain ⟨b, hb⟩ := Option.isSome_iff_exists.mp hsome
  obtain ⟨l, -, hl⟩ := List.exists_of_findSome?_eq_some hb
  have heq := claims_unique (hanswer l b hl) (hanswer k a ha)
  rw [heq, ha] at hl
  rw [hb, hl]

/-- The reader of a kind that claims a text decides alone what the text is read as. -/
theorem read?_eq_some_iff_of_claims {k : Kind} {s : String} (hk : k.claims s = true)
    {q : Qualifier} : k.read? s = some q ↔ q.kind.read? s = some q := by
  constructor
  · intro h
    rwa [kind_of_read? h]
  · intro h
    rwa [claims_unique hk (claims_of_read? h)]

end Kind

namespace Qualifier

theorem mem_kindsAfterCodes {k : Kind} :
    k ∈ kindsAfterCodes ↔ k ≠ .countryCode ∧ k ≠ .networkCode := by
  cases k <;> decide

/-- Trying the kinds in folder order finds what the reader of the kind finds. In particular a
number that is too large for a code hides no other reading. -/
theorem ofSegment?_eq_some_iff {s : String} {q : Qualifier} :
    ofSegment? s = some q ↔ q.kind.read? s = some q := by
  unfold ofSegment?
  cases hcountry : numberAfter? "mcc" s with
  | some n =>
    -- the kind claims the text even if the number is too large for a code
    have hclaim : Kind.countryCode.claims s = true := Option.isSome_of_eq_some hcountry
    have hread : (code? n).map countryCode = Kind.countryCode.read? s := by
      simp [Kind.read?, hcountry]
    show (code? n).map countryCode = some q ↔ _
    rw [hread]
    exact Kind.read?_eq_some_iff_of_claims hclaim
  | none =>
    cases hnetwork : numberAfter? "mnc" s with
    | some n =>
      have hclaim : Kind.networkCode.claims s = true := Option.isSome_of_eq_some hnetwork
      have hread : (code? n).map networkCode = Kind.networkCode.read? s := by
        simp [Kind.read?, hnetwork]
      show (code? n).map networkCode = some q ↔ _
      rw [hread]
      exact Kind.read?_eq_some_iff_of_claims hclaim
    | none =>
      show kindsAfterCodes.findSome? (fun k => k.read? s) = some q ↔ _
      constructor
      · intro h
        obtain ⟨k, -, hk⟩ := List.exists_of_findSome?_eq_some h
        rwa [Kind.kind_of_read? hk]
      · intro h
        have hmem : q.kind ∈ kindsAfterCodes := by
          refine mem_kindsAfterCodes.mpr ⟨fun hk => ?_, fun hk => ?_⟩
          · rw [hk] at h
            simp [Kind.read?, hcountry] at h
          · rw [hk] at h
            simp [Kind.read?, hnetwork] at h
        exact Kind.findSome?_of_claims (fun k q => Kind.claims_of_read?) hmem h

end Qualifier

end ConfigBar
