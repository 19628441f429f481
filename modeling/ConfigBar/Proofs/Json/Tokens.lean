import ConfigBar.Json.Parser
/-!
# The tokens of a value

A value has a list of tokens, whatever the layout of its text. The reader makes of them the value
again.

* `Json.induction` — the induction on values
* `Json.tokens` — the tokens of a value
* `Json.readTokens?_tokens` — the reader inverts `tokens`
-/

namespace ConfigBar.Json

/-- The induction on values. -/
theorem induction {P : Json → Prop} (null : P .null) (bool : ∀ b, P (.bool b))
    (number : ∀ n, P (.number n)) (string : ∀ t, P (.string t))
    (array : ∀ items, (∀ v ∈ items, P v) → P (.array items))
    (object : ∀ members : List (JsonText × Json), (∀ m ∈ members, P m.2) → P (.object members))
    (v : Json) : P v := by
  cases v with
  | null => exact null
  | bool b => exact bool b
  | number n => exact number n
  | string t => exact string t
  | array items =>
    refine array items fun v hv => ?_
    have hlt : sizeOf v < sizeOf items := List.sizeOf_lt_of_mem hv
    exact induction null bool number string array object v
  | object members =>
    refine object members fun m hm => ?_
    have hlt : sizeOf m < sizeOf members := List.sizeOf_lt_of_mem hm
    obtain ⟨k, v⟩ := m
    have hv : sizeOf v < sizeOf (k, v) := by simp +arith
    exact induction null bool number string array object v
termination_by sizeOf v

mutual

/-- The tokens of a value. -/
def tokens : Json → List Token
  | .null => [.null]
  | .bool b => [.bool b]
  | .number n => [.number n]
  | .string t => [.string t]
  | .array items => .openArray :: (tokensOfItems items ++ [.closeArray])
  | .object members => .openObject :: (tokensOfMembers members ++ [.closeObject])

/-- The tokens of the items of an array, with commas between them. -/
def tokensOfItems : List Json → List Token
  | [] => []
  | [v] => tokens v
  | v :: w :: vs => tokens v ++ .comma :: tokensOfItems (w :: vs)

/-- The tokens of the members of an object, with commas between them. -/
def tokensOfMembers : List (JsonText × Json) → List Token
  | [] => []
  | [(k, v)] => .string k :: .colon :: tokens v
  | (k, v) :: m :: ms => .string k :: .colon :: (tokens v ++ .comma :: tokensOfMembers (m :: ms))

end

/-! ## Reading -/

theorem readTokens?_cons {e e' : Expectation} {stack stack' : List Frame} {t : Token}
    (h : advance? stack e t = some (e', stack')) (ts : List Token) :
    readTokens? e stack (t :: ts) = readTokens? e' stack' ts := by
  rw [readTokens?, h]

/-- Where a value is expected, its tokens lead to what follows a complete value. -/
def IsReadBack (v : Json) : Prop :=
  ∀ stack ts, readTokens? .value stack (tokens v ++ ts) = readTokens? (.after v) stack ts

/-- Where an array has just been opened, a value begins like anywhere else. -/
theorem readTokens?_firstItem (v : Json) (stack : List Frame) (ts : List Token) :
    readTokens? .firstItem stack (tokens v ++ ts) = readTokens? .value stack (tokens v ++ ts) := by
  have hfirst : ∃ t us, tokens v = t :: us ∧
      advance? stack .firstItem t = advance? stack .value t := by
    cases v <;> exact ⟨_, _, by rw [tokens], rfl⟩
  obtain ⟨t, us, htokens, hadvance⟩ := hfirst
  rw [htokens, List.cons_append, readTokens?, readTokens?, hadvance]

/-- The items of an array, with those that are read already. -/
theorem readTokens?_items {v : Json} {vs : List Json} (h : ∀ w ∈ v :: vs, IsReadBack w)
    (done : List Json) (stack : List Frame) (ts : List Token) :
    readTokens? .value (.array done :: stack) (tokensOfItems (v :: vs) ++ .closeArray :: ts) =
      readTokens? (.after (.array (done.reverse ++ v :: vs))) stack ts := by
  induction vs generalizing v done with
  | nil =>
    rw [tokensOfItems, h v List.mem_cons_self, readTokens?_cons rfl, List.reverse_cons]
  | cons w vs ih =>
    rw [tokensOfItems, List.append_assoc, h v List.mem_cons_self, List.cons_append,
      readTokens?_cons rfl, ih (fun x hx => h x (List.mem_cons_of_mem v hx)), List.reverse_cons,
      List.append_assoc]
    rfl

/-- The members of an object, with those that are read already. The first key may end the object,
later ones may not. -/
theorem readTokens?_members {m : JsonText × Json} {ms : List (JsonText × Json)}
    (h : ∀ x ∈ m :: ms, IsReadBack x.2) (done : List (JsonText × Json)) {stack : List Frame}
    {e : Expectation} (he : ∀ k, advance? stack e (.string k) = some (.colon done k, stack))
    (ts : List Token) :
    readTokens? e stack (tokensOfMembers (m :: ms) ++ .closeObject :: ts) =
      readTokens? (.after (.object (done.reverse ++ m :: ms))) stack ts := by
  induction ms generalizing m done e with
  | nil =>
    obtain ⟨k, v⟩ := m
    rw [tokensOfMembers, List.cons_append, readTokens?_cons (he k), List.cons_append,
      readTokens?_cons rfl, h (k, v) List.mem_cons_self, readTokens?_cons rfl, List.reverse_cons]
  | cons n ms ih =>
    obtain ⟨k, v⟩ := m
    rw [tokensOfMembers, List.cons_append, readTokens?_cons (he k), List.cons_append,
      readTokens?_cons rfl, List.append_assoc, h (k, v) List.mem_cons_self, List.cons_append,
      readTokens?_cons rfl, ih (fun x hx => h x (List.mem_cons_of_mem _ hx)) _ (fun _ => rfl),
      List.reverse_cons, List.append_assoc]
    rfl

theorem isReadBack (v : Json) : IsReadBack v := by
  induction v using Json.induction with
  | null | bool b | number n | string t =>
    intro stack ts
    rw [tokens, List.singleton_append, readTokens?_cons rfl]
  | array items ih =>
    intro stack ts
    rw [tokens, List.cons_append, readTokens?_cons rfl, List.append_assoc, List.singleton_append]
    cases items with
    | nil => exact readTokens?_cons rfl ts
    | cons v vs =>
      obtain ⟨us, hus⟩ : ∃ us, tokensOfItems (v :: vs) = tokens v ++ us := by
        cases vs with
        | nil => exact ⟨[], by rw [tokensOfItems, List.append_nil]⟩
        | cons w vs => exact ⟨.comma :: tokensOfItems (w :: vs), by rw [tokensOfItems]⟩
      have hitems := readTokens?_items ih [] stack ts
      rw [hus, List.append_assoc] at hitems ⊢
      rw [readTokens?_firstItem]
      exact hitems
  | object members ih =>
    intro stack ts
    rw [tokens, List.cons_append, readTokens?_cons rfl, List.append_assoc, List.singleton_append]
    cases members with
    | nil => exact readTokens?_cons rfl ts
    | cons m ms => exact readTokens?_members ih [] (e := .firstKey) (fun _ => rfl) ts

/-- **The tokens of a value are read as the value.** -/
theorem readTokens?_tokens (v : Json) : readTokens? .value [] (tokens v) = some v := by
  have hread := isReadBack v [] []
  rwa [List.append_nil, readTokens?] at hread

end ConfigBar.Json
