/-!
# Pieces of a text

Cutting a list of characters at a separator: at every occurrence (`pieces`), at the first one
(`cut?`) or before the last one (`beforeLast?`). `lines` cuts a text at the ends of its lines.
-/

namespace ConfigBar.Text

/-- The pieces between the occurrences of `sep`. There is one piece more than there are
separators, so the empty text has one empty piece. -/
def pieces (sep : Char) : List Char → List (List Char)
  | [] => [[]]
  | c :: cs =>
    if c = sep then [] :: pieces sep cs
    else
      match pieces sep cs with
      | [] => [[c]]
      | p :: ps => (c :: p) :: ps

/-- The parts before and after the first occurrence of `sep`. -/
def cut? (sep : Char) : List Char → Option (List Char × List Char)
  | [] => none
  | c :: cs => if c = sep then some ([], cs) else (cut? sep cs).map fun p => (c :: p.1, p.2)

/-- The part before the last occurrence of `sep`. -/
def beforeLast? (sep : Char) : List Char → Option (List Char)
  | [] => none
  | c :: cs =>
    match beforeLast? sep cs with
    | some front => some (c :: front)
    | none => if c = sep then some [] else none

/-- The rest of `cs` after `front`, if `cs` starts with it. -/
def after? : (front cs : List Char) → Option (List Char)
  | [], cs => some cs
  | _ :: _, [] => none
  | f :: fs, c :: cs => if f = c then after? fs cs else none

/-- A line without the carriage return that belongs to its end. -/
def withoutReturn (line : List Char) : List Char :=
  if line.getLast? = some '\r' then line.dropLast else line

/-- The lines of a text. Each ends with a line feed, before which a carriage return may stand; the
last line may lack that end. -/
def lines (cs : List Char) : List (List Char) :=
  match (pieces '\n' cs).reverse with
  | [] => []
  | last :: ended =>
    (ended.map withoutReturn).reverse ++ if last = [] then [] else [last]

theorem pieces_ne_nil (sep : Char) (cs : List Char) : pieces sep cs ≠ [] := by
  cases cs with
  | nil => simp [pieces]
  | cons c cs =>
    rw [pieces]
    split
    · simp
    · split <;> simp

theorem after?_eq_some_iff {front cs rest : List Char} :
    after? front cs = some rest ↔ cs = front ++ rest := by
  induction front generalizing cs with
  | nil => simp [after?]
  | cons f fs ih =>
    cases cs with
    | nil => simp [after?]
    | cons c cs =>
      by_cases h : f = c
      · simp [after?, h, ih]
      · simp [after?, h, Ne.symm h]

theorem cut?_eq_some_iff {sep : Char} {cs a b : List Char} :
    cut? sep cs = some (a, b) ↔ cs = a ++ sep :: b ∧ sep ∉ a := by
  induction cs generalizing a with
  | nil => simp [cut?]
  | cons c cs ih =>
    by_cases h : c = sep
    · subst h
      cases a with
      | nil => simp [cut?]
      | cons x xs =>
        simp only [cut?, if_true, Option.some.injEq, Prod.mk.injEq, List.cons_append,
          List.cons.injEq, List.mem_cons, not_or]
        exact ⟨fun h => by simp at h, fun h => absurd h.1.1 h.2.1⟩
    · cases a with
      | nil => simp [cut?, h]
      | cons x xs =>
        simp only [cut?, h, if_false, Option.map_eq_some_iff, Prod.exists, Prod.mk.injEq,
          List.cons.injEq, List.cons_append, List.mem_cons, not_or]
        constructor
        · rintro ⟨p, q, hp, ⟨rfl, rfl⟩, rfl⟩
          obtain ⟨rfl, hn⟩ := ih.1 hp
          exact ⟨⟨rfl, rfl⟩, fun e => h e.symm, hn⟩
        · rintro ⟨⟨rfl, rfl⟩, _, hn⟩
          exact ⟨xs, b, ih.2 ⟨rfl, hn⟩, ⟨rfl, rfl⟩, rfl⟩

theorem beforeLast?_eq_none_iff {sep : Char} {cs : List Char} :
    beforeLast? sep cs = none ↔ sep ∉ cs := by
  induction cs with
  | nil => simp [beforeLast?]
  | cons c cs ih =>
    rw [beforeLast?, List.mem_cons, not_or, ← ih]
    split
    · next front hfront => simp [hfront]
    · next hnone =>
      by_cases h : c = sep
      · simp [h]
      · simp [h, Ne.symm h, hnone]

theorem beforeLast?_append {sep : Char} {front last : List Char} (h : sep ∉ last) :
    beforeLast? sep (front ++ sep :: last) = some front := by
  induction front with
  | nil => rw [List.nil_append, beforeLast?, beforeLast?_eq_none_iff.mpr h, if_pos rfl]
  | cons c cs ih => rw [List.cons_append, beforeLast?, ih]

theorem beforeLast?_eq_some_iff {sep : Char} {cs front : List Char} :
    beforeLast? sep cs = some front ↔ ∃ last, cs = front ++ sep :: last ∧ sep ∉ last := by
  constructor
  · intro h
    induction cs generalizing front with
    | nil => cases h
    | cons c cs ih =>
      rw [beforeLast?] at h
      split at h
      · next before hbefore =>
        cases h
        obtain ⟨last, hcs, hlast⟩ := ih hbefore
        exact ⟨last, by rw [hcs, List.cons_append], hlast⟩
      · next hnone =>
        split at h
        · next hc =>
          cases h
          exact ⟨cs, by rw [hc, List.nil_append], beforeLast?_eq_none_iff.mp hnone⟩
        · cases h
  · rintro ⟨last, rfl, hlast⟩
    exact beforeLast?_append hlast

end ConfigBar.Text
