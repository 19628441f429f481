import ConfigBar.Proofs.Json.Spelling
import ConfigBar.Proofs.Json.Tokens
/-!
# Written values are read back

A value can be written if its strings have texts and its numbers are those of JSON. Both layouts
consist of its tokens and of blanks, so the reader makes the same value of them.

* `Writable` — which values can be written
* `LaidOut` — characters that spell tokens, whatever comes behind them
* `laidOut_compressChars`, `laidOut_prettyChars` — the two layouts
* `parse?_compress`, `parse?_pretty` — what is written is read back
-/

namespace ConfigBar.Json

open ConfigBar.Number (Numeral)
open Token (Spells EndsNumber extendsNumber IsNumber)

/-- A value that is read back when it is written: its strings have texts, and its numbers are those of
JSON. -/
inductive Writable : Json → Prop where
  | null : Writable .null
  | bool (b : Bool) : Writable (.bool b)
  | number {n : Numeral} : IsNumber n → Writable (.number n)
  | string (s : String) : Writable (.string (some s))
  | array {items : List Json} : (∀ v ∈ items, Writable v) → Writable (.array items)
  | object {members : List (JsonText × Json)} : (∀ m ∈ members, m.1.isSome = true) →
    (∀ m ∈ members, Writable m.2) → Writable (.object members)

@[simp] theorem writable_str (s : String) : Writable (.str s) := .string s

@[simp] theorem writable_nat (n : Nat) : Writable (.nat n) := .number (Token.isNumber_ofNat n)

theorem writable_opt {α : Type} {f : α → Json} {o : Option α} (h : ∀ a ∈ o, Writable (f a)) :
    Writable (.opt f o) := by
  cases o with
  | none => exact .null
  | some a => exact h a rfl

theorem writable_array_map {α : Type} {f : α → Json} {as : List α}
    (h : ∀ a ∈ as, Writable (f a)) : Writable (.array (as.map f)) :=
  .array (List.forall_mem_map.mpr h)

theorem writable_obj {members : List (String × Json)} (h : ∀ m ∈ members, Writable m.2) :
    Writable (.obj members) :=
  .object (List.forall_mem_map.mpr fun _ _ => rfl) (List.forall_mem_map.mpr h)

/-! ## Layouts -/

/-- The characters spell the tokens, whatever comes behind them that is no part of a number. -/
def LaidOut (ts : List Token) (cs : List Char) : Prop :=
  ∀ (us : List Token) (rest : List Char), EndsNumber rest → Spells us rest →
    Spells (ts ++ us) (cs ++ rest)

theorem endsNumber_cons {c : Char} (h : extendsNumber c = false) (cs : List Char) :
    EndsNumber (c :: cs) := by
  rintro _ ⟨⟩
  exact h

namespace LaidOut

variable {ts us : List Token} {cs ds : List Char}

theorem nil : LaidOut [] [] := fun _ _ _ h => h

theorem token {t : Token} (ht : t.IsWritten) : LaidOut [t] t.chars := by
  intro us rest hrest h
  refine .token ht ?_ h
  cases t with
  | number n => exact hrest
  | _ => exact trivial

/-- After a token that is no number anything may come. -/
theorem cons {t : Token} (ht : t.IsWritten) (hend : ∀ rest, t.EndsBefore rest) (h : LaidOut ts cs) :
    LaidOut (t :: ts) (t.chars ++ cs) := by
  intro us rest hrest hus
  rw [List.append_assoc]
  exact .token ht (hend _) (h us rest hrest hus)

theorem append (h : LaidOut ts cs) (h' : LaidOut us ds) (hend : EndsNumber ds) :
    LaidOut (ts ++ us) (cs ++ ds) := by
  intro vs rest hrest hvs
  rw [List.append_assoc, List.append_assoc]
  exact h _ _ (Token.forall_head?_append hend hrest) (h' vs rest hrest hvs)

theorem blanks (h : LaidOut ts cs) (bs : List Char) (hbs : ∀ c ∈ bs, Token.isSpace c = true) :
    LaidOut ts (bs ++ cs) := by
  intro us rest hrest hus
  rw [List.append_assoc]
  induction bs with
  | nil => exact h us rest hrest hus
  | cons c bs ih =>
    exact .blank (hbs c List.mem_cons_self) (ih fun b hb => hbs b (List.mem_cons_of_mem c hb))

/-- A text with nothing behind it. -/
theorem spells (h : LaidOut ts cs) : Spells ts cs := by
  have hnil := h [] [] nofun .nil
  rwa [List.append_nil, List.append_nil] at hnil

end LaidOut

/-! ## Without blanks -/

/-- A comma stands between what comes before it and behind it. -/
theorem LaidOut.comma {ts us : List Token} {cs ds : List Char} (h : LaidOut ts cs)
    (h' : LaidOut us ds) : LaidOut (ts ++ .comma :: us) (cs ++ ',' :: ds) :=
  h.append (.cons (t := .comma) trivial (fun _ => trivial) h') (endsNumber_cons rfl _)

theorem laidOut_compressItems {items : List Json}
    (h : ∀ v ∈ items, LaidOut (tokens v) (compressChars v)) :
    LaidOut (tokensOfItems items) (compressItems items) := by
  induction items with
  | nil => rw [tokensOfItems, compressItems]; exact .nil
  | cons v vs ih =>
    have hv := h v List.mem_cons_self
    have hvs := ih fun w hw => h w (List.mem_cons_of_mem v hw)
    cases vs with
    | nil => rw [tokensOfItems, compressItems]; exact hv
    | cons w vs => rw [tokensOfItems, compressItems]; exact hv.comma hvs

/-- The key of a member and the colon behind it. -/
theorem LaidOut.key {k : JsonText} (hk : k.isSome = true) {ts : List Token} {cs : List Char}
    (h : LaidOut ts cs) : LaidOut (.string k :: .colon :: ts) (quoteText k ++ ':' :: cs) :=
  .cons (t := .string k) hk (fun _ => trivial)
    (.cons (t := .colon) trivial (fun _ => trivial) h)

theorem laidOut_compressMembers {members : List (JsonText × Json)}
    (hkeys : ∀ m ∈ members, m.1.isSome = true)
    (h : ∀ m ∈ members, LaidOut (tokens m.2) (compressChars m.2)) :
    LaidOut (tokensOfMembers members) (compressMembers members) := by
  induction members with
  | nil => rw [tokensOfMembers, compressMembers]; exact .nil
  | cons m ms ih =>
    have hk := hkeys m List.mem_cons_self
    have hv := h m List.mem_cons_self
    have hms := ih (fun n hn => hkeys n (List.mem_cons_of_mem m hn))
      fun n hn => h n (List.mem_cons_of_mem m hn)
    obtain ⟨k, v⟩ := m
    cases ms with
    | nil => rw [tokensOfMembers, compressMembers]; exact .key hk hv
    | cons n ms => rw [tokensOfMembers, compressMembers]; exact .key hk (hv.comma hms)

theorem laidOut_compressChars {v : Json} (h : Writable v) : LaidOut (tokens v) (compressChars v) := by
  induction h with
  | null => rw [tokens, compressChars]; exact .token (t := .null) trivial
  | bool b =>
    cases b <;> rw [tokens, compressChars]
    · exact .token (t := .bool false) trivial
    · exact .token (t := .bool true) trivial
  | number hn => rw [tokens, compressChars]; exact .token (t := .number _) hn
  | string s => rw [tokens, compressChars]; exact .token (t := .string (some s)) rfl
  | array _ ih =>
    rw [tokens, compressChars]
    have hitems := laidOut_compressItems ih
    exact .cons (t := .openArray) trivial (fun _ => trivial)
      (hitems.append (.token (t := .closeArray) trivial) (endsNumber_cons rfl _))
  | object hkeys _ ih =>
    rw [tokens, compressChars]
    have hmembers := laidOut_compressMembers hkeys ih
    exact .cons (t := .openObject) trivial (fun _ => trivial)
      (hmembers.append (.token (t := .closeObject) trivial) (endsNumber_cons rfl _))

/-! ## On indented lines -/

theorem isSpace_of_mem_newLine {level : Nat} {c : Char} (h : c ∈ newLine level) :
    Token.isSpace c = true := by
  rcases List.mem_cons.mp h with rfl | h
  · rfl
  · rw [List.eq_of_mem_replicate h]
    rfl

/-- What stands on a line of its own. -/
theorem LaidOut.line {ts : List Token} {cs : List Char} (h : LaidOut ts cs) (level : Nat) :
    LaidOut ts (newLine level ++ cs) :=
  h.blanks _ fun _ hc => isSpace_of_mem_newLine hc

theorem laidOut_prettyItems {level : Nat} {items : List Json}
    (h : ∀ v ∈ items, LaidOut (tokens v) (prettyChars level v)) :
    LaidOut (tokensOfItems items) (prettyItems level items) := by
  induction items with
  | nil => rw [tokensOfItems, prettyItems]; exact .nil
  | cons v vs ih =>
    have hv := (h v List.mem_cons_self).line level
    have hvs := ih fun w hw => h w (List.mem_cons_of_mem v hw)
    cases vs with
    | nil => rw [tokensOfItems, prettyItems]; exact hv
    | cons w vs => rw [tokensOfItems, prettyItems]; exact hv.comma hvs

theorem laidOut_prettyMembers {level : Nat} {members : List (JsonText × Json)}
    (hkeys : ∀ m ∈ members, m.1.isSome = true)
    (h : ∀ m ∈ members, LaidOut (tokens m.2) (prettyChars level m.2)) :
    LaidOut (tokensOfMembers members) (prettyMembers level members) := by
  induction members with
  | nil => rw [tokensOfMembers, prettyMembers]; exact .nil
  | cons m ms ih =>
    have hk := hkeys m List.mem_cons_self
    have hv := (h m List.mem_cons_self).blanks [' '] (by simp [Token.isSpace])
    have hms := ih (fun n hn => hkeys n (List.mem_cons_of_mem m hn))
      fun n hn => h n (List.mem_cons_of_mem m hn)
    obtain ⟨k, v⟩ := m
    cases ms with
    | nil =>
      rw [tokensOfMembers, prettyMembers, List.append_assoc, List.append_assoc]
      exact (LaidOut.key hk hv).line level
    | cons n ms =>
      rw [tokensOfMembers, prettyMembers, List.append_assoc, List.append_assoc, List.append_assoc]
      exact (LaidOut.key hk (hv.comma hms)).line level

/-- The end of an array or object on a line of its own. -/
theorem LaidOut.closed {ts : List Token} {cs : List Char} (h : LaidOut ts cs) (level : Nat)
    {t : Token} (ht : t.IsWritten) : LaidOut (ts ++ [t]) (cs ++ newLine level ++ t.chars) := by
  rw [List.append_assoc]
  exact h.append ((LaidOut.token ht).line level) (endsNumber_cons rfl _)

theorem laidOut_prettyChars {v : Json} (h : Writable v) (level : Nat) :
    LaidOut (tokens v) (prettyChars level v) := by
  induction h generalizing level with
  | null => simpa [prettyChars] using laidOut_compressChars .null
  | bool b => simpa [prettyChars] using laidOut_compressChars (.bool b)
  | number hn => simpa [prettyChars] using laidOut_compressChars (.number hn)
  | string s => simpa [prettyChars] using laidOut_compressChars (.string s)
  | @array items _ ih =>
    have hitems := laidOut_prettyItems fun v hv => ih v hv (level + 1)
    rw [tokens]
    cases items with
    | nil =>
      rw [tokensOfItems, prettyChars]
      exact .cons (t := .openArray) trivial (fun _ => trivial) (.token (t := .closeArray) trivial)
    | cons v vs =>
      rw [prettyChars]
      exact .cons (t := .openArray) trivial (fun _ => trivial)
        (hitems.closed level (t := .closeArray) trivial)
  | @object members hkeys _ ih =>
    have hmembers := laidOut_prettyMembers hkeys fun m hm => ih m hm (level + 1)
    rw [tokens]
    cases members with
    | nil =>
      rw [tokensOfMembers, prettyChars]
      exact .cons (t := .openObject) trivial (fun _ => trivial) (.token (t := .closeObject) trivial)
    | cons m ms =>
      rw [prettyChars]
      exact .cons (t := .openObject) trivial (fun _ => trivial)
        (hmembers.closed level (t := .closeObject) trivial)

/-! ## Reading -/

theorem parse?_of_laidOut {v : Json} {cs : List Char} (h : LaidOut (tokens v) cs) :
    parse? (String.ofList cs) = some v := by
  rw [parse?, String.toList_ofList, Token.lex_of_spells h.spells, Option.bind_some,
    readTokens?_tokens]

/-- **What is written without blanks is read back.** -/
theorem parse?_compress {v : Json} (h : Writable v) : parse? (compress v) = some v :=
  parse?_of_laidOut (laidOut_compressChars h)

/-- **What is written on indented lines is read back.** -/
theorem parse?_pretty {v : Json} (h : Writable v) : parse? (pretty v) = some v :=
  parse?_of_laidOut (laidOut_prettyChars h 0)

end ConfigBar.Json
