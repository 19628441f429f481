import ConfigBar.Text.Blank
import ConfigBar.Text.Numeral
import ConfigBar.Text.Pieces
import Mathlib.Data.List.DropRight
/-!
# Texts that are put together

What cutting, trimming and the reading of numbers give back of a text that was joined from parts.

* `pieces_intercalate`, `intercalate_pieces` — cutting at a separator and joining with it are the
  inverses of each other, so the pieces of a text are its parts (`pieces_eq_iff`)
* `cut?_eq_none` — without a separator there is nothing to cut
* `isCore_trimChars`, `IsCore.eq_trimChars` — what trimming takes away are the blanks around the
  text, and all of them
* `trimChars_eq_self`, `trimChars_padded`, `trimChars_trimChars` — so it leaves a text without blanks
  as it is, takes away what blanks stand around it, and does nothing more the second time
* `natOfDigits?_eq_some_iff`, `word32?_eq_some_iff`, `word16?_eq_some_iff` — when a number is read
-/

namespace ConfigBar.Text

/-! ## Cutting at a separator -/

theorem pieces_of_not_mem {sep : Char} : ∀ {p : List Char}, sep ∉ p → pieces sep p = [p]
  | [], _ => rfl
  | c :: cs, h => by
    obtain ⟨hc, hcs⟩ := List.ne_and_not_mem_of_not_mem_cons h
    rw [pieces, if_neg (Ne.symm hc), pieces_of_not_mem hcs]

theorem pieces_append {sep : Char} (q : List Char) :
    ∀ {p : List Char}, sep ∉ p → pieces sep (p ++ sep :: q) = p :: pieces sep q
  | [], _ => by rw [List.nil_append, pieces, if_pos rfl]
  | c :: cs, h => by
    obtain ⟨hc, hcs⟩ := List.ne_and_not_mem_of_not_mem_cons h
    rw [List.cons_append, pieces, if_neg (Ne.symm hc), pieces_append q hcs]

/-- Cutting is the inverse of joining, if no part holds the separator. -/
theorem pieces_intercalate {sep : Char} : ∀ {ps : List (List Char)}, ps ≠ [] →
    (∀ p ∈ ps, sep ∉ p) → pieces sep (List.intercalate [sep] ps) = ps
  | [], h, _ => absurd rfl h
  | [p], _, h => by
    rw [List.intercalate_singleton]
    exact pieces_of_not_mem (h p List.mem_cons_self)
  | p :: q :: ps, _, h => by
    rw [List.intercalate_cons_cons, List.append_assoc, List.singleton_append,
      pieces_append _ (h p List.mem_cons_self),
      pieces_intercalate (List.cons_ne_nil q ps) fun r hr => h r (List.mem_cons_of_mem p hr)]

theorem not_mem_of_mem_pieces {sep : Char} {cs p : List Char} (h : p ∈ pieces sep cs) :
    sep ∉ p := by
  induction cs generalizing p with
  | nil =>
    rw [pieces, List.mem_singleton] at h
    simp [h]
  | cons c cs ih =>
    rw [pieces] at h
    split at h
    · rcases List.mem_cons.mp h with rfl | h
      · exact List.not_mem_nil
      · exact ih h
    · next hc =>
      obtain ⟨q, qs, hqs⟩ := List.exists_cons_of_ne_nil (pieces_ne_nil sep cs)
      rw [hqs] at h ih
      rcases List.mem_cons.mp h with rfl | h
      · rw [List.mem_cons, not_or]
        exact ⟨Ne.symm hc, ih List.mem_cons_self⟩
      · exact ih (List.mem_cons_of_mem q h)

/-- Joining is the inverse of cutting. -/
theorem intercalate_pieces (sep : Char) (cs : List Char) :
    List.intercalate [sep] (pieces sep cs) = cs := by
  induction cs with
  | nil => rfl
  | cons c cs ih =>
    obtain ⟨p, ps, hps⟩ := List.exists_cons_of_ne_nil (pieces_ne_nil sep cs)
    rw [hps] at ih
    rw [pieces, hps]
    split
    · next hc => rw [List.intercalate_cons_cons, ih, hc, List.nil_append, List.singleton_append]
    · cases ps with
      | nil =>
        rw [List.intercalate_singleton] at ih
        rw [List.intercalate_singleton, ih]
      | cons q ps =>
        rw [List.intercalate_cons_cons] at ih
        rw [List.intercalate_cons_cons, List.cons_append, List.cons_append, ih]

/-- The pieces of a text are the parts without the separator that it was joined from. -/
theorem pieces_eq_iff {sep : Char} {cs : List Char} {ps : List (List Char)} :
    pieces sep cs = ps ↔ ps ≠ [] ∧ (∀ p ∈ ps, sep ∉ p) ∧ List.intercalate [sep] ps = cs := by
  constructor
  · rintro rfl
    exact ⟨pieces_ne_nil sep cs, fun _ => not_mem_of_mem_pieces, intercalate_pieces sep cs⟩
  · rintro ⟨hne, hsep, rfl⟩
    exact pieces_intercalate hne hsep

theorem cut?_eq_none {sep : Char} {cs : List Char} (h : sep ∉ cs) : cut? sep cs = none := by
  cases hc : cut? sep cs with
  | none => rfl
  | some p =>
    obtain ⟨rfl, -⟩ := cut?_eq_some_iff.mp hc
    exact absurd (by simp) h

/-! ## Trimming -/

/-- `core` is `text` without the blanks around it: around it stand blanks only, and it neither
starts nor ends with one. -/
structure IsCore (core text : List Char) : Prop where
  around : ∃ front back, text = front ++ core ++ back ∧ (∀ c ∈ front, isBlank c = true) ∧
    ∀ c ∈ back, isBlank c = true
  first : ∀ c ∈ core.head?, isBlank c = false
  last : ∀ c ∈ core.getLast?, isBlank c = false

/-- Trimming the back leaves a character alone that is no blank, and what stands before it. -/
theorem trimBack_cons {c : Char} (hc : isBlank c = false) (cs : List Char) :
    trimBack (c :: cs) = c :: trimBack cs := by
  have hstop : [c].dropWhile isBlank = [c] := List.dropWhile_cons_of_neg (by simp [hc])
  unfold trimBack
  rw [List.reverse_cons, List.dropWhile_append, hstop]
  split
  · next hempty =>
    rw [List.isEmpty_iff.mp hempty]
    rfl
  · rw [List.reverse_append]
    rfl

/-- What is left at the front is no blank. -/
theorem isBlank_of_trimFront {cs rest : List Char} {c : Char} (h : trimFront cs = c :: rest) :
    isBlank c = false := by
  have hhead := List.head?_dropWhile_not isBlank cs
  rw [show cs.dropWhile isBlank = c :: rest from h] at hhead
  exact hhead

theorem isCore_trimChars (cs : List Char) : IsCore (trimChars cs) cs where
  around := by
    have hback : trimChars cs ++ (trimFront cs).rtakeWhile isBlank = trimFront cs :=
      List.rdropWhile_append_rtakeWhile
    refine ⟨cs.takeWhile isBlank, (trimFront cs).rtakeWhile isBlank, ?_,
      fun c hc => List.mem_takeWhile_imp hc, fun c hc => List.mem_rtakeWhile_imp hc⟩
    rw [List.append_assoc, hback, trimFront, List.takeWhile_append_dropWhile]
  first := by
    intro c hc
    cases htrim : trimFront cs with
    | nil =>
      rw [trimChars, htrim] at hc
      cases hc
    | cons d rest =>
      have hd := isBlank_of_trimFront htrim
      rw [trimChars, htrim, trimBack_cons hd] at hc
      cases hc
      exact hd
  last := by
    intro c hc
    obtain ⟨hne, rfl⟩ := List.mem_getLast?_eq_getLast hc
    exact Bool.eq_false_iff.mpr (List.rdropWhile_last_not isBlank (trimFront cs) hne)

/-- A text has one core only. -/
theorem IsCore.eq_trimChars {core text : List Char} (h : IsCore core text) :
    core = trimChars text := by
  obtain ⟨front, back, rfl, hf, hb⟩ := h.around
  have hback : trimBack (core ++ back) = core := by
    unfold trimBack
    rw [List.reverse_append, List.dropWhile_append_of_pos fun c hc => hb c (List.mem_reverse.mp hc)]
    refine List.rdropWhile_eq_self_iff.mpr fun hne => ?_
    rw [h.last _ (List.getLast?_eq_getLast_of_ne_nil hne)]
    exact Bool.false_ne_true
  unfold trimChars trimFront
  rw [List.append_assoc, List.dropWhile_append_of_pos hf]
  -- the core stops the trimming at the front, unless nothing but blanks is there
  cases core with
  | nil =>
    have hnone : (back ++ []).dropWhile isBlank = [] := List.dropWhile_append_of_pos hb
    rw [List.append_nil] at hnone
    rw [List.nil_append, hnone]
    rfl
  | cons c cs =>
    rw [List.cons_append, List.dropWhile_cons_of_neg (by simp [h.first c rfl])]
    exact hback.symm

/-- A text without blanks is the core of it with blanks around it. -/
theorem isCore_padded {front cs back : List Char} (hf : ∀ c ∈ front, isBlank c = true)
    (h : ∀ c ∈ cs, isBlank c = false) (hb : ∀ c ∈ back, isBlank c = true) :
    IsCore cs (front ++ cs ++ back) where
  around := ⟨front, back, rfl, hf, hb⟩
  first c hc := h c (List.mem_of_mem_head? hc)
  last c hc := h c (List.mem_of_getLast? hc)

/-- A core is its own core. -/
theorem IsCore.self {core text : List Char} (h : IsCore core text) : IsCore core core where
  around := ⟨[], [], (List.append_nil core).symm, nofun, nofun⟩
  first := h.first
  last := h.last

theorem isCore_self {cs : List Char} (h : ∀ c ∈ cs, isBlank c = false) : IsCore cs cs :=
  (@isCore_padded [] cs [] nofun h nofun).self

theorem trimChars_padded {front cs back : List Char} (hf : ∀ c ∈ front, isBlank c = true)
    (h : ∀ c ∈ cs, isBlank c = false) (hb : ∀ c ∈ back, isBlank c = true) :
    trimChars (front ++ cs ++ back) = cs :=
  (isCore_padded hf h hb).eq_trimChars.symm

theorem trimChars_eq_self {cs : List Char} (h : ∀ c ∈ cs, isBlank c = false) :
    trimChars cs = cs :=
  (isCore_self h).eq_trimChars.symm

theorem trimChars_trimChars (cs : List Char) : trimChars (trimChars cs) = trimChars cs :=
  (isCore_trimChars cs).self.eq_trimChars.symm

/-! ## Letters and digits -/

theorem toNat_of_isDigit {c : Char} (h : c.isDigit = true) : 48 ≤ c.toNat ∧ c.toNat ≤ 57 := by
  simpa using Char.isDigit_iff_toNat.mp h

theorem toNat_of_isLower {c : Char} (h : c.isLower = true) : 97 ≤ c.toNat ∧ c.toNat ≤ 122 := by
  have hval : (decide ('a'.val ≤ c.val) && decide (c.val ≤ 'z'.val)) = true := h
  simpa [UInt32.le_iff_toNat_le] using hval

theorem toNat_of_isUpper {c : Char} (h : c.isUpper = true) : 65 ≤ c.toNat ∧ c.toNat ≤ 90 := by
  have hval : decide ('A'.val ≤ c.val ∧ c.val ≤ 'Z'.val) = true := h
  simpa [UInt32.le_iff_toNat_le] using hval

theorem isAlphanum_iff {c : Char} :
    c.isAlphanum = true ↔ c.isUpper = true ∨ c.isLower = true ∨ c.isDigit = true := by
  show (c.isUpper || c.isLower || c.isDigit) = true ↔ _
  rw [Bool.or_eq_true, Bool.or_eq_true, or_assoc]

/-- The visible ASCII characters are no blanks. -/
theorem isBlank_eq_false {c : Char} (h1 : 33 ≤ c.toNat) (h2 : c.toNat ≤ 126) :
    isBlank c = false := by
  unfold isBlank
  simp only [Bool.or_eq_false_iff, Bool.and_eq_false_iff, decide_eq_false_iff_not,
    beq_eq_false_iff_ne]
  omega

theorem isBlank_of_isDigit {c : Char} (h : c.isDigit = true) : isBlank c = false := by
  have hn := toNat_of_isDigit h
  exact isBlank_eq_false (by omega) (by omega)

theorem isBlank_of_isLower {c : Char} (h : c.isLower = true) : isBlank c = false := by
  have hn := toNat_of_isLower h
  exact isBlank_eq_false (by omega) (by omega)

theorem isBlank_of_isUpper {c : Char} (h : c.isUpper = true) : isBlank c = false := by
  have hn := toNat_of_isUpper h
  exact isBlank_eq_false (by omega) (by omega)

theorem isBlank_of_isAlphanum {c : Char} (h : c.isAlphanum = true) : isBlank c = false := by
  rcases isAlphanum_iff.mp h with h | h | h
  · exact isBlank_of_isUpper h
  · exact isBlank_of_isLower h
  · exact isBlank_of_isDigit h

theorem isDigit_of_isLower {c : Char} (h : c.isLower = true) : c.isDigit = false := by
  have hn := toNat_of_isLower h
  refine Bool.eq_false_iff.mpr fun hd => ?_
  have := toNat_of_isDigit hd
  omega

theorem isDigit_of_isUpper {c : Char} (h : c.isUpper = true) : c.isDigit = false := by
  have hn := toNat_of_isUpper h
  refine Bool.eq_false_iff.mpr fun hd => ?_
  have := toNat_of_isDigit hd
  omega

theorem isUpper_of_isLower {c : Char} (h : c.isLower = true) : c.isUpper = false := by
  have hn := toNat_of_isLower h
  refine Bool.eq_false_iff.mpr fun hu => ?_
  have := toNat_of_isUpper hu
  omega

theorem isDigit_of_mem_digits {n : Nat} {c : Char} (h : c ∈ digits n) : c.isDigit = true :=
  List.all_eq_true.mp (all_isDigit_digits n) c h

/-! ## Numbers -/

theorem natOfDigits?_eq_some_iff {cs : List Char} {n : Nat} :
    natOfDigits? cs = some n ↔
      cs ≠ [] ∧ (∀ c ∈ cs, c.isDigit = true) ∧ Nat.ofDigitChars 10 cs 0 = n := by
  simp [natOfDigits?, and_assoc]

theorem word32?_eq_some_iff {m : Nat} {n : UInt32} : word32? m = some n ↔ m = n.toNat := by
  unfold word32?
  constructor
  · intro h
    split at h
    · next hm =>
      rw [← Option.some.inj h, UInt32.toNat_ofNat_of_lt' hm]
    · cases h
  · intro h
    rw [h, if_pos n.toNat_lt, UInt32.ofNat_toNat]

theorem word16?_eq_some_iff {m : Nat} {n : UInt16} : word16? m = some n ↔ m = n.toNat := by
  unfold word16?
  constructor
  · intro h
    split at h
    · next hm =>
      rw [← Option.some.inj h, UInt16.toNat_ofNat_of_lt' hm]
    · cases h
  · intro h
    rw [h, if_pos n.toNat_lt, UInt16.ofNat_toNat]

end ConfigBar.Text
