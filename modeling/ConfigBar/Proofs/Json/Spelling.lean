import ConfigBar.Json.Parser
import ConfigBar.Json.Printer
/-!
# Reading written tokens

A written token is read back whatever comes after it, except that a number would swallow what looks
like a part of it. A text spells a list of tokens if it consists of them, with blanks between them
in any number; the lexer finds the tokens of such a text.

* `units?_flatMap_escapeChar` — a quoted string ends at its closing quote
* `numeral?_chars` — a number ends where nothing goes on with it
* `next?_chars` — one token
* `lex_of_spells` — the tokens of a text
-/

namespace ConfigBar.Json

open ConfigBar.Number (Numeral Exponent)

namespace Token

/-! ## Strings -/

/-- One more character at the front of a string that is being read. -/
def withChar (c : Char) (p : List Unit × List Char) : List Unit × List Char := (.char c :: p.1, p.2)

theorem units?_shortEscape {e c : Char} (h : shortEscape? e = some c) (cs : List Char) :
    units? ('\\' :: e :: cs) = (units? cs).map (withChar c) := by
  rw [units?, h]
  · cases units? cs <;> rfl
  · rintro - - - - - rfl -
    cases h

theorem hexValue4?_hexDigit :
    ∀ n < 32, hexValue4? '0' '0' (hexDigit (n / 16)) (hexDigit (n % 16)) = some n := by
  decide

/-- A control character is escaped by its code. -/
theorem units?_control {c : Char} (h : c < ' ') (cs : List Char) :
    units? ('\\' :: 'u' :: '0' :: '0' :: hexDigit (c.toNat / 16) :: hexDigit (c.toNat % 16) :: cs) =
      (units? cs).map (withChar c) := by
  have hlt : c.toNat < 32 := h
  have hunit : unitOfCode c.toNat = .char c := by
    rw [unitOfCode, if_neg (by omega), Char.ofNat_toNat]
  rw [units?, hexValue4?_hexDigit _ hlt]
  cases hunits : units? cs <;> simp [hunit, withChar]

/-- A character that needs no escape stands for itself. -/
theorem units?_plain {c : Char} (hq : c ≠ '"') (hb : c ≠ '\\') (h : ¬c < ' ') (cs : List Char) :
    units? (c :: cs) = (units? cs).map (withChar c) := by
  rw [units?, if_neg h]
  · cases units? cs <;> rfl
  · exact hq
  all_goals intros; contradiction

/-- How a character is written: by a short escape, by its code, or as it is. -/
theorem escapeChar_cases (c : Char) :
    (∃ e, shortEscape? e = some c ∧ escapeChar c = ['\\', e]) ∨
      (c < ' ' ∧ escapeChar c =
        ['\\', 'u', '0', '0', hexDigit (c.toNat / 16), hexDigit (c.toNat % 16)]) ∨
      (c ≠ '"' ∧ c ≠ '\\' ∧ ¬c < ' ' ∧ escapeChar c = [c]) := by
  unfold escapeChar
  repeat' split
  all_goals first
    | exact Or.inl ⟨_, by subst_vars; rfl, rfl⟩
    | exact Or.inr (Or.inl ⟨by assumption, rfl⟩)
    | exact Or.inr (Or.inr ⟨by assumption, by assumption, by assumption, rfl⟩)

/-- An escaped character is read back. -/
theorem units?_escapeChar (c : Char) (cs : List Char) :
    units? (escapeChar c ++ cs) = (units? cs).map (withChar c) := by
  obtain ⟨e, he, hescape⟩ | ⟨hlt, hescape⟩ | ⟨hq, hb, hle, hescape⟩ := escapeChar_cases c
  · rw [hescape]
    exact units?_shortEscape he cs
  · rw [hescape]
    exact units?_control hlt cs
  · rw [hescape]
    exact units?_plain hq hb hle cs

/-- A quoted string ends at its closing quote. -/
theorem units?_flatMap_escapeChar (cs rest : List Char) :
    units? (cs.flatMap escapeChar ++ '"' :: rest) = some (cs.map .char, rest) := by
  induction cs with
  | nil => rw [List.flatMap_nil, List.nil_append, units?, List.map_nil]
  | cons c cs ih =>
    rw [List.flatMap_cons, List.append_assoc, units?_escapeChar, ih]
    rfl

theorem textOfUnits_map_char (cs : List Char) :
    textOfUnits (cs.map .char) = some (String.ofList cs) := by
  have hchars : charsOfUnits? (cs.map .char) = some cs := by
    induction cs with
    | nil => rfl
    | cons c cs ih => rw [List.map_cons, charsOfUnits?, ih, Option.map_some]
  rw [textOfUnits, hchars, Option.map_some]

/-! ## Numbers -/

/-- The numerals of JSON: there are digits before the point, without leading zeros, and digits in the
exponent, whose sign is a plus or a minus. -/
structure IsNumber (n : Numeral) : Prop where
  whole_ne_nil : n.whole ≠ []
  whole : ∀ c ∈ n.whole, c.isDigit = true
  head?_whole : n.whole.head? = some '0' → n.whole.length = 1
  fraction : ∀ c ∈ n.fraction, c.isDigit = true
  exponent : ∀ e ∈ n.exponent, e.digits ≠ [] ∧ (∀ c ∈ e.digits, c.isDigit = true) ∧
    ∀ c ∈ e.sign, c = '+' ∨ c = '-'

theorem eq_zero_of_digitChar : ∀ n < 10, n.digitChar = '0' → n = 0 := by decide

/-- The decimal digits of a number have no leading zeros. -/
theorem eq_zero_of_head?_toDigits {n : Nat} (h : (Nat.toDigits 10 n).head? = some '0') : n = 0 := by
  induction n using Nat.strongRecOn with
  | ind n ih =>
    by_cases hn : n < 10
    · rw [Nat.toDigits_of_lt_base hn] at h
      exact eq_zero_of_digitChar n hn (Option.some.inj h)
    · have hle : 10 ≤ n := Nat.le_of_not_lt hn
      rw [Nat.toDigits_of_base_le (by decide) hle] at h
      have hhead : (Nat.toDigits 10 (n / 10)).head? = some '0' := by
        obtain ⟨d, ds, hcons⟩ := List.exists_cons_of_ne_nil
          (Nat.toDigits_ne_nil (b := 10) (n := n / 10))
        rwa [hcons] at h ⊢
      have hzero := ih (n / 10) (by omega) hhead
      omega

theorem isNumber_ofNat (n : Nat) : IsNumber (.ofNat n) where
  whole_ne_nil := Nat.toDigits_ne_nil
  whole _ hc := Nat.isDigit_of_mem_toDigits (by decide) (by decide) hc
  head?_whole h := by
    rw [eq_zero_of_head?_toDigits h]
    rfl
  fraction _ hc := nomatch hc
  exponent _ he := nomatch he

/-- Does a number go on with a character? -/
def extendsNumber (c : Char) : Bool := c.isDigit || c == '.' || c == 'e' || c == 'E'

theorem extendsNumber_eq_false_iff {c : Char} :
    extendsNumber c = false ↔ c.isDigit = false ∧ c ≠ '.' ∧ c ≠ 'e' ∧ c ≠ 'E' := by
  simp only [extendsNumber, Bool.or_eq_false_iff, beq_eq_false_iff_ne, and_assoc]

/-- No number goes on at the front of a text. -/
def EndsNumber (rest : List Char) : Prop := ∀ c ∈ rest.head?, extendsNumber c = false

theorem forall_head?_append {P : Char → Prop} {xs ys : List Char} (hx : ∀ c ∈ xs.head?, P c)
    (hy : ∀ c ∈ ys.head?, P c) : ∀ c ∈ (xs ++ ys).head?, P c := by
  cases xs with
  | nil => exact hy
  | cons x xs => exact hx

/-- Digits end at the first character that is none. -/
theorem digits_append {ds rest : List Char} (hds : ∀ c ∈ ds, c.isDigit = true)
    (hrest : ∀ c ∈ rest.head?, c.isDigit = false) : digits (ds ++ rest) = (ds, rest) := by
  have hstop : rest.takeWhile Char.isDigit = [] ∧ rest.dropWhile Char.isDigit = rest := by
    cases rest with
    | nil => exact ⟨rfl, rfl⟩
    | cons c cs =>
      have hc : c.isDigit = false := hrest c rfl
      simp [hc]
  rw [digits, List.takeWhile_append_of_pos hds, List.dropWhile_append_of_pos hds, hstop.1, hstop.2,
    List.append_nil]

/-- The characters of a fraction. -/
def fractionChars (ds : List Char) : List Char := if ds.isEmpty then [] else '.' :: ds

/-- The characters of an exponent that may be missing. -/
def exponentChars (e : Option Exponent) : List Char := e.elim [] Exponent.chars

theorem fraction?_fractionChars {ds rest : List Char} (hds : ∀ c ∈ ds, c.isDigit = true)
    (hrest : ∀ c ∈ rest.head?, c.isDigit = false ∧ c ≠ '.') :
    fraction? (fractionChars ds ++ rest) = some (ds, rest) := by
  cases ds with
  | nil =>
    cases rest with
    | nil => rfl
    | cons c cs =>
      obtain ⟨-, hc⟩ := hrest c rfl
      show fraction? (c :: cs) = _
      rw [fraction?]
      exact fun _ h => hc (List.cons.inj h).1
  | cons d ds =>
    have hdigits := digits_append hds fun c hc => (hrest c hc).1
    show fraction? ('.' :: (d :: ds ++ rest)) = _
    rw [fraction?, hdigits]
    rfl

/-- A sign is split off, and nothing else. -/
theorem sign_append {s : Option Char} {ds : List Char} (hs : ∀ c ∈ s, c = '+' ∨ c = '-')
    (hds : ∀ c ∈ ds.head?, c.isDigit = true) : sign (s.toList ++ ds) = (s, ds) := by
  cases s with
  | some c => rcases hs c rfl with rfl | rfl <;> rfl
  | none =>
    show sign ds = _
    unfold sign
    split
    · exact absurd (hds _ rfl) (by decide)
    · exact absurd (hds _ rfl) (by decide)
    · rfl

theorem exponent?_exponentChars {e : Option Exponent} {rest : List Char}
    (he : ∀ x ∈ e, x.digits ≠ [] ∧ (∀ c ∈ x.digits, c.isDigit = true) ∧
      ∀ c ∈ x.sign, c = '+' ∨ c = '-')
    (hrest : EndsNumber rest) : exponent? (exponentChars e ++ rest) = some (e, rest) := by
  cases e with
  | none =>
    cases rest with
    | nil => rfl
    | cons c cs =>
      obtain ⟨-, -, he, hE⟩ := extendsNumber_eq_false_iff.mp (hrest c rfl)
      show exponent? (c :: cs) = _
      rw [exponent?, if_neg (not_or.mpr ⟨he, hE⟩)]
  | some e =>
    obtain ⟨hne, hds, hs⟩ := he e rfl
    obtain ⟨d, ds, hcons⟩ := List.exists_cons_of_ne_nil hne
    have hsign : sign (e.sign.toList ++ (e.digits ++ rest)) = (e.sign, e.digits ++ rest) := by
      refine sign_append hs fun c hc => ?_
      rw [hcons] at hc
      cases hc
      exact hds d (by rw [hcons]; exact List.mem_cons_self)
    have hdigits := digits_append hds fun c hc =>
      (extendsNumber_eq_false_iff.mp (hrest c hc)).1
    show exponent? ('e' :: (e.sign.toList ++ e.digits ++ rest)) = _
    rw [exponent?, if_pos (Or.inl rfl), List.append_assoc, hsign]
    simp [hdigits, hne]

/-- After a fraction there is the mark of an exponent or the end. -/
theorem head?_exponentChars_append {e : Option Exponent} {rest : List Char}
    (hrest : EndsNumber rest) :
    ∀ c ∈ (exponentChars e ++ rest).head?, c.isDigit = false ∧ c ≠ '.' := by
  refine forall_head?_append (fun c hc => ?_) fun c hc => ?_
  · cases e with
    | none => cases hc
    | some e => cases hc; decide
  · obtain ⟨hdigit, hpoint, -⟩ := extendsNumber_eq_false_iff.mp (hrest c hc)
    exact ⟨hdigit, hpoint⟩

/-- After the digits before the point there is the point or what may follow a fraction. -/
theorem head?_fractionChars_append (ds : List Char) {rest : List Char}
    (hrest : ∀ c ∈ rest.head?, c.isDigit = false ∧ c ≠ '.') :
    ∀ c ∈ (fractionChars ds ++ rest).head?, c.isDigit = false := by
  refine forall_head?_append (fun c hc => ?_) fun c hc => (hrest c hc).1
  cases ds with
  | nil => cases hc
  | cons d ds => cases hc; decide

/-- The digits before the point are none that a reader refuses. -/
theorem IsNumber.whole_isSpelled {n : Numeral} (h : IsNumber n) :
    ¬(n.whole.isEmpty || (n.whole.head? = some '0' && 1 < n.whole.length)) = true := by
  intro hbad
  simp only [Bool.or_eq_true, List.isEmpty_iff, h.whole_ne_nil, false_or, Bool.and_eq_true,
    decide_eq_true_eq] at hbad
  exact absurd hbad.2 (by rw [h.head?_whole hbad.1]; decide)

theorem chars_eq (n : Numeral) :
    n.chars = (if n.negative then ['-'] else []) ++
      (n.whole ++ (fractionChars n.fraction ++ exponentChars n.exponent)) := by
  simp only [Numeral.chars, fractionChars, List.append_assoc]
  cases n.exponent <;> rfl

/-- A number is read up to where it ends. -/
theorem numeral?_chars {n : Numeral} (h : IsNumber n) {rest : List Char} (hrest : EndsNumber rest) :
    numeral? (n.chars ++ rest) = some (n, rest) := by
  have hexponent := exponent?_exponentChars h.exponent hrest
  have hfractionEnd := head?_exponentChars_append (e := n.exponent) hrest
  have hfraction := fraction?_fractionChars h.fraction hfractionEnd
  have hwhole := digits_append h.whole (head?_fractionChars_append n.fraction hfractionEnd)
  have hspelled := h.whole_isSpelled
  have hbody : n.whole ++ (fractionChars n.fraction ++ exponentChars n.exponent) ++ rest =
      n.whole ++ (fractionChars n.fraction ++ (exponentChars n.exponent ++ rest)) := by
    simp only [List.append_assoc]
  have hnumeral : (⟨n.negative, n.whole, n.fraction, n.exponent⟩ : Numeral) = n := rfl
  rw [chars_eq, List.append_assoc, hbody]
  cases hn : n.negative with
  | true =>
    rw [hn] at hnumeral
    show numeral? ('-' :: (n.whole ++ _)) = _
    simp only [numeral?, hwhole, if_neg hspelled, hfraction, hexponent, Option.bind_eq_bind,
      Option.bind_some, hnumeral]
  | false =>
    rw [hn] at hnumeral
    obtain ⟨d, ds, hcons⟩ := List.exists_cons_of_ne_nil h.whole_ne_nil
    have hd : d ≠ '-' := by
      rintro rfl
      exact absurd (h.whole '-' (by rw [hcons]; exact List.mem_cons_self)) (by decide)
    show numeral? (n.whole ++ _) = _
    unfold numeral?
    split
    next negative cs hsplit =>
      split at hsplit
      · next hminus =>
        rw [hcons] at hminus
        exact absurd (List.cons.inj hminus).1 hd
      · cases hsplit
        simp only [hwhole, if_neg hspelled, hfraction, hexponent, Option.bind_eq_bind,
          Option.bind_some, hnumeral]

/-- A number starts with a digit or a minus. -/
theorem exists_chars_cons {n : Numeral} (h : IsNumber n) :
    ∃ c cs, n.chars = c :: cs ∧ (c.isDigit = true ∨ c = '-') := by
  rw [chars_eq]
  cases n.negative with
  | true => exact ⟨'-', _, rfl, Or.inr rfl⟩
  | false =>
    obtain ⟨d, ds, hcons⟩ := List.exists_cons_of_ne_nil h.whole_ne_nil
    rw [hcons]
    exact ⟨d, _, rfl, Or.inl (h.whole d (by rw [hcons]; exact List.mem_cons_self))⟩

/-! ## One token -/

/-- The characters of a token. -/
def chars : Token → List Char
  | openArray => ['[']
  | closeArray => [']']
  | openObject => ['{']
  | closeObject => ['}']
  | comma => [',']
  | colon => [':']
  | null => ['n', 'u', 'l', 'l']
  | bool true => ['t', 'r', 'u', 'e']
  | bool false => ['f', 'a', 'l', 's', 'e']
  | number n => n.chars
  | string t => quoteText t

/-- Is the token written so that it is read back? A number must be one of JSON, a string must have a
text. -/
def IsWritten : Token → Prop
  | number n => IsNumber n
  | string t => t.isSome = true
  | _ => True

/-- Does the token end where `rest` begins? -/
def EndsBefore (rest : List Char) : Token → Prop
  | number _ => EndsNumber rest
  | _ => True

theorem next?_number {n : Numeral} (h : IsNumber n) {rest : List Char} (hrest : EndsNumber rest) :
    next? (n.chars ++ rest) = some (number n, rest) := by
  have hnumeral := numeral?_chars h hrest
  obtain ⟨c, cs, hcs, hc⟩ := exists_chars_cons h
  rw [hcs, List.cons_append] at hnumeral ⊢
  rw [next?, hnumeral, Option.map_some]
  -- no other token starts with a digit or a minus
  all_goals
    intro _ he
    rw [(List.cons.inj he).1] at hc
    revert hc
    decide

/-- **A written token is read back**, and the reader stands behind it. -/
theorem next?_chars {t : Token} (h : t.IsWritten) {rest : List Char} (hrest : t.EndsBefore rest) :
    next? (t.chars ++ rest) = some (t, rest) := by
  cases t with
  | number n => exact next?_number h hrest
  | string t =>
    obtain ⟨s, rfl⟩ := Option.isSome_iff_exists.mp h
    have hunits := units?_flatMap_escapeChar s.toList rest
    show next? ('"' :: (s.toList.flatMap escapeChar ++ ['"'] ++ rest)) = _
    rw [next?, List.append_assoc, List.singleton_append, hunits, Option.map_some,
      textOfUnits_map_char, String.ofList_toList]
  | bool b => cases b <;> rfl
  | _ => rfl

/-- A token starts with something that is no blank. -/
theorem exists_cons_of_isWritten {t : Token} (h : t.IsWritten) :
    ∃ c cs, t.chars = c :: cs ∧ isSpace c = false := by
  cases t with
  | number n =>
    obtain ⟨c, cs, hcs, hc⟩ := exists_chars_cons h
    refine ⟨c, cs, hcs, Bool.eq_false_iff.mpr fun hspace => ?_⟩
    simp only [isSpace, Bool.or_eq_true, decide_eq_true_eq] at hspace
    rcases hspace with ((rfl | rfl) | rfl) | rfl <;> revert hc <;> decide
  | bool b => cases b <;> exact ⟨_, _, rfl, by decide⟩
  | _ => exact ⟨_, _, rfl, by decide⟩

/-! ## Texts -/

/-- A text spells a list of tokens if it consists of them, each of which ends where it should, and of
blanks around them. -/
inductive Spells : List Token → List Char → Prop where
  | nil : Spells [] []
  | blank {ts : List Token} {cs : List Char} {c : Char} :
    isSpace c = true → Spells ts cs → Spells ts (c :: cs)
  | token {t : Token} {ts : List Token} {cs : List Char} :
    t.IsWritten → t.EndsBefore cs → Spells ts cs → Spells (t :: ts) (t.chars ++ cs)

theorem lexWithin_blank {c : Char} (h : isSpace c = true) (fuel : Nat) (cs : List Char) :
    lexWithin fuel (c :: cs) = lexWithin fuel cs := by
  cases fuel <;> simp only [lexWithin, List.dropWhile_cons_of_pos h]

theorem lexWithin_token {t : Token} (h : t.IsWritten) {cs : List Char} (hend : t.EndsBefore cs)
    (fuel : Nat) :
    lexWithin (fuel + 1) (t.chars ++ cs) = (lexWithin fuel cs).map (t :: ·) := by
  have hnext := next?_chars h hend
  obtain ⟨d, ds, hcons, hd⟩ := exists_cons_of_isWritten h
  rw [hcons, List.cons_append] at hnext ⊢
  rw [lexWithin, List.dropWhile_cons_of_neg (by rw [hd]; exact Bool.false_ne_true)]
  simp only [hnext, Option.bind_eq_bind, Option.bind_some]
  cases lexWithin fuel cs <;> rfl

/-- With as many steps as there are characters the lexer gets through the text. -/
theorem lexWithin_of_spells {ts : List Token} {cs : List Char} (h : Spells ts cs) {fuel : Nat}
    (hfuel : cs.length ≤ fuel) : lexWithin fuel cs = some ts := by
  induction h generalizing fuel with
  | nil => cases fuel <;> rfl
  | blank hc _ ih =>
    rw [lexWithin_blank hc]
    exact ih (Nat.le_of_succ_le hfuel)
  | @token t ts cs ht hend _ ih =>
    obtain ⟨d, ds, hcons, -⟩ := exists_cons_of_isWritten ht
    have hlength : cs.length + 1 ≤ fuel := by
      rw [hcons, List.length_append, List.length_cons] at hfuel
      omega
    obtain ⟨fuel, rfl⟩ := Nat.exists_eq_add_one_of_ne_zero (Nat.ne_of_gt (Nat.lt_of_lt_of_le
      (Nat.succ_pos _) hlength))
    rw [lexWithin_token ht hend, ih (Nat.le_of_succ_le_succ hlength), Option.map_some]

/-- **The lexer finds the tokens that a text spells.** -/
theorem lex_of_spells {ts : List Token} {cs : List Char} (h : Spells ts cs) : lex cs = some ts :=
  lexWithin_of_spells h (Nat.le_refl _)

end Token

end ConfigBar.Json
