import ConfigBar.Theme.Parent
/-!
# Chains of parents

A project style is a theme if its chain of parents reaches a theme of the framework. The chain is
followed through the project styles by key. Every key that is visited is taken out of the styles
that may still be visited, so the walk takes at most one step for each key and visits none twice;
the name of the first style counts as visited from the start.

A `Chain` is the keys that were visited and one of four ends (`ChainEnd`); only a framework parent
that is a theme makes the first style a theme.
-/

namespace ConfigBar

/-- How a chain of parents ends. -/
inductive ChainEnd where
  /-- The last style names a parent in the framework. -/
  | framework (name : String)
  /-- The last value has no parent. -/
  | root
  /-- No project style has the key of the parent. -/
  | missing (style parent : String)
  /-- The key of the parent has been visited before. -/
  | cycle (style parent : String)
  deriving DecidableEq, Repr

/-- Does a chain with this end make its first style a theme? -/
def ChainEnd.isTheme : ChainEnd → Bool
  | framework name => isFrameworkThemeName name
  | _ => false

/-- A chain of parents. -/
structure Chain where
  /-- The keys of the styles that the chain goes through after the first one. -/
  keys : List String
  ending : ChainEnd
  deriving DecidableEq, Repr

namespace ResourceMap

/-- The styles that are left after visiting a key. -/
def leave (key : String) (rest : List (String × ResourceValue)) : List (String × ResourceValue) :=
  rest.filter fun e => e.1 ≠ key

theorem leave_length_lt {key : String} {value : ResourceValue}
    {rest : List (String × ResourceValue)} (h : SortedMap.find? key rest = some value) :
    (leave key rest).length < rest.length := by
  induction rest with
  | nil => simp [SortedMap.find?] at h
  | cons e es ih =>
    obtain ⟨k, v⟩ := e
    by_cases hk : k = key
    · have := List.length_filter_le (fun e : String × ResourceValue => decide (e.1 ≠ key)) es
      simp only [leave, hk, List.filter_cons, List.length_cons, ne_eq, not_true, decide_false]
      simp only [ne_eq] at this
      simp only [Bool.false_eq_true, if_false]
      omega
    · have h : SortedMap.find? key es = some value := by simpa [SortedMap.find?, hk] using h
      have := ih h
      simp only [leave, List.filter_cons, hk, ne_eq, not_false_eq_true, decide_true, if_true,
        List.length_cons] at this ⊢
      omega

/-- Follows the parents of `value`. The styles in `rest` have not been visited yet. -/
def follow (styles : ResourceMap) (rest : List (String × ResourceValue)) (value : ResourceValue) :
    Chain :=
  match value.parentStyle? with
  | none => ⟨[], .root⟩
  | some ⟨name, true⟩ => ⟨[], .framework name⟩
  | some ⟨name, false⟩ =>
    match _h : SortedMap.find? name rest with
    | some parent =>
      let chain := follow styles (leave name rest) parent
      ⟨name :: chain.keys, chain.ending⟩
    | none =>
      ⟨[], if styles.contains name then .cycle value.name name else .missing value.name name⟩
termination_by rest.length
decreasing_by exact leave_length_lt (by assumption)

/-- The chain of parents of a value. -/
def chain (styles : ResourceMap) (value : ResourceValue) : Chain :=
  follow styles (leave value.name styles.toList) value

/-- Does a value extend a theme of the framework, directly or through project styles? -/
def isTheme (styles : ResourceMap) (value : ResourceValue) : Bool :=
  (styles.chain value).ending.isTheme

end ResourceMap

end ConfigBar
