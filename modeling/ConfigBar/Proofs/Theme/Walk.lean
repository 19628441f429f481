import ConfigBar.Proofs.Theme.Ancestry
import Mathlib.Data.List.Perm.Subperm
/-!
# The walk along the parents ends

The walk follows the parent of a value through the styles of the project, remembers the keys that it
has visited, and gives up at a key that it would visit again. Here it is taken call by call: `turn`
is what a single call comes to, an end or a recursive call, and `Calls` are calls one after another.
Nothing is asked of the map: its keys need not be the names of its values, and parents may be cyclic
or missing.

* `Calls.fresh` — recursive calls visit keys of the map, none of them twice
* `Calls.length_le` — so there are not more of them than keys
* `exists_calls_follow` — the chain of a value is a walk that has come to its end
* `walk_ends` — all this for the walk from any value
-/

namespace ConfigBar.ResourceMap

/-- A call of the walk: the value whose parent it follows, and the names that were visited. -/
structure Call where
  value : ResourceValue
  visited : List String

/-- What a call comes to. -/
inductive Turn where
  | ends (ending : ChainEnd)
  /-- The walk calls itself for the parent that stands under a key. -/
  | recurs (key : String) (next : Call)

namespace Call

/-- The call that starts the walk. The name of the value counts as visited. -/
def first (value : ResourceValue) : Call := ⟨value, [value.name]⟩

/-- A single call of the walk. -/
def turn (styles : ResourceMap) (call : Call) : Turn :=
  match call.value.parentStyle? with
  | none => .ends .root
  | some ⟨name, true⟩ => .ends (.framework name)
  | some ⟨name, false⟩ =>
    match styles.get? name with
    | none => .ends (.missing call.value.name name)
    | some parent =>
      if name ∈ call.visited then .ends (.cycle call.value.name name)
      else .recurs name ⟨parent, name :: call.visited⟩

end Call

/-- The recursive calls that lead from one call to another, with the keys that they visit. -/
inductive Calls (styles : ResourceMap) : Call → List String → Call → Prop where
  | refl (call : Call) : Calls styles call [] call
  | recur {call next last : Call} {key : String} {keys : List String} :
      call.turn styles = .recurs key next → Calls styles next keys last →
        Calls styles call (key :: keys) last

variable {styles : ResourceMap} {value parent : ResourceValue} {call next last : Call}
  {keys visited : List String} {key name : String}

/-! ## Single calls -/

/-- A recursive call visits a key of the map that was not visited before. -/
theorem turn_eq_recurs (h : call.turn styles = .recurs key next) :
    key ∉ call.visited ∧
      ∃ parent, styles.get? key = some parent ∧ next = ⟨parent, key :: call.visited⟩ := by
  unfold Call.turn at h
  split at h
  · cases h
  · cases h
  · split at h
    · cases h
    · next hget =>
      split at h
      · cases h
      · next hvisited =>
        cases h
        exact ⟨hvisited, _, hget, rfl⟩

theorem turn_root (h : value.parentStyle? = none) :
    Call.turn styles ⟨value, visited⟩ = .ends .root := by
  simp only [Call.turn, h]

theorem turn_framework (h : value.parentStyle? = some ⟨name, true⟩) :
    Call.turn styles ⟨value, visited⟩ = .ends (.framework name) := by
  simp only [Call.turn, h]

theorem turn_missing (h : value.parentStyle? = some ⟨name, false⟩)
    (hget : styles.get? name = none) :
    Call.turn styles ⟨value, visited⟩ = .ends (.missing value.name name) := by
  simp only [Call.turn, h, hget]

theorem turn_cycle (h : value.parentStyle? = some ⟨name, false⟩)
    (hget : styles.get? name = some parent) (hvisited : name ∈ visited) :
    Call.turn styles ⟨value, visited⟩ = .ends (.cycle value.name name) := by
  simp only [Call.turn, h, hget, if_pos hvisited]

theorem turn_recurs (h : value.parentStyle? = some ⟨name, false⟩)
    (hget : styles.get? name = some parent) (hvisited : name ∉ visited) :
    Call.turn styles ⟨value, visited⟩ = .recurs name ⟨parent, name :: visited⟩ := by
  simp only [Call.turn, h, hget, if_neg hvisited]

/-! ## Calls one after another -/

theorem mem_keys_of_get? (h : styles.get? key = some value) : key ∈ styles.keys :=
  List.mem_map_of_mem (SortedMap.get?_eq_some_iff.mp h)

/-- The keys of recursive calls are distinct keys of the map that were not visited before. -/
theorem Calls.fresh (h : Calls styles call keys last) :
    keys.Nodup ∧ ∀ key ∈ keys, key ∈ styles.keys ∧ key ∉ call.visited := by
  induction h with
  | refl => exact ⟨List.nodup_nil, nofun⟩
  | recur hturn _ ih =>
    obtain ⟨hvisited, parent, hget, rfl⟩ := turn_eq_recurs hturn
    obtain ⟨hnodup, hfresh⟩ := ih
    -- the key is visited now, so it does not come again
    refine ⟨List.nodup_cons.mpr ⟨fun hkey => (hfresh _ hkey).2 List.mem_cons_self, hnodup⟩,
      fun k hk => ?_⟩
    rcases List.mem_cons.mp hk with rfl | hk
    · exact ⟨mem_keys_of_get? hget, hvisited⟩
    · obtain ⟨hkeys, hnot⟩ := hfresh k hk
      exact ⟨hkeys, fun hmem => hnot (List.mem_cons_of_mem _ hmem)⟩

/-- There are no more recursive calls than keys. -/
theorem Calls.length_le (h : Calls styles call keys last) : keys.length ≤ styles.size := by
  obtain ⟨hnodup, hfresh⟩ := h.fresh
  have hsub : keys ⊆ styles.keys := fun key hkey => (hfresh key hkey).1
  calc keys.length ≤ styles.keys.length := (hnodup.subperm hsub).length_le
    _ = styles.size := List.length_map _

/-- A walk that has come to an end is the only one. -/
theorem Calls.unique {ending ending' : ChainEnd} (h : Calls styles call keys last)
    (hend : last.turn styles = .ends ending) {keys' : List String} {last' : Call}
    (h' : Calls styles call keys' last') (hend' : last'.turn styles = .ends ending') :
    keys = keys' ∧ ending = ending' := by
  induction h generalizing keys' with
  | refl call =>
    cases h' with
    | refl =>
      rw [hend] at hend'
      cases hend'
      exact ⟨rfl, rfl⟩
    | recur hturn =>
      rw [hend] at hturn
      cases hturn
  | recur hturn _ ih =>
    cases h' with
    | refl =>
      rw [hend'] at hturn
      cases hturn
    | recur hturn' hcalls' =>
      rw [hturn] at hturn'
      cases hturn'
      obtain ⟨rfl, he⟩ := ih hend hcalls'
      exact ⟨rfl, he⟩

/-! ## The chain of a value -/

/-- The chain that is followed is a walk that has come to its end, if the styles that are left are
those that were not visited. -/
theorem exists_calls_follow (rest : List (String × ResourceValue)) (value : ResourceValue) :
    ∀ visited : List String,
      (∀ key, SortedMap.find? key rest = if key ∈ visited then none else styles.get? key) →
        ∃ last, Calls styles ⟨value, visited⟩ (follow styles rest value).keys last ∧
          last.turn styles = .ends (follow styles rest value).ending := by
  fun_induction follow styles rest value with
  | case1 rest value hparent => exact fun visited _ => ⟨_, .refl _, turn_root hparent⟩
  | case2 rest value name hparent => exact fun visited _ => ⟨_, .refl _, turn_framework hparent⟩
  | case3 rest value name hparent parent hfind chain ih =>
    intro visited hrest
    rw [hrest name] at hfind
    split at hfind
    · cases hfind
    · next hvisited =>
      obtain ⟨last, hcalls, hend⟩ := ih (name :: visited) fun key => by
        rw [find?_leave, hrest key]
        by_cases hkey : key = name <;> simp [hkey]
      exact ⟨last, .recur (turn_recurs hparent hfind hvisited) hcalls, hend⟩
  | case4 rest value name hparent hfind =>
    intro visited hrest
    refine ⟨_, .refl _, ?_⟩
    rw [hrest name] at hfind
    cases hget : styles.get? name with
    | none =>
      rw [if_neg (by simp [SortedMap.contains, hget])]
      exact turn_missing hparent hget
    | some parent =>
      have hvisited : name ∈ visited := by
        by_contra hnot
        rw [if_neg hnot, hget] at hfind
        cases hfind
      rw [if_pos (by simp [SortedMap.contains, hget])]
      exact turn_cycle hparent hget hvisited

/-- The chain of a value is the walk from the value. -/
theorem exists_calls_chain (styles : ResourceMap) (value : ResourceValue) :
    ∃ last, Calls styles (.first value) (styles.chain value).keys last ∧
      last.turn styles = .ends (styles.chain value).ending := by
  refine exists_calls_follow _ value [value.name] fun key => ?_
  rw [find?_leave]
  simp only [List.mem_singleton]
  rfl

/-- **The walk from a value ends, after at most as many recursive calls as the map has keys**, and
the keys that it visits are distinct. No sequence of recursive calls is longer, whether the walk has
come to its end with it or not, and where it ends is the chain of the value. -/
theorem walk_ends (styles : ResourceMap) (value : ResourceValue) :
    (∀ keys last, Calls styles (.first value) keys last →
      keys.length ≤ styles.size ∧ keys.Nodup ∧
        ∀ key ∈ keys, key ∈ styles.keys ∧ key ≠ value.name) ∧
      (∃ last, Calls styles (.first value) (styles.chain value).keys last ∧
        last.turn styles = .ends (styles.chain value).ending) ∧
      ∀ keys last ending, Calls styles (.first value) keys last →
        last.turn styles = .ends ending →
          keys = (styles.chain value).keys ∧ ending = (styles.chain value).ending := by
  refine ⟨fun keys last h => ?_, exists_calls_chain styles value, fun keys last ending h hend => ?_⟩
  · obtain ⟨hnodup, hfresh⟩ := h.fresh
    refine ⟨h.length_le, hnodup, fun key hkey => ?_⟩
    obtain ⟨hmem, hvisited⟩ := hfresh key hkey
    exact ⟨hmem, fun he => hvisited (he ▸ List.mem_singleton_self value.name)⟩
  · obtain ⟨last', hcalls, hend'⟩ := exists_calls_chain styles value
    exact h.unique hend hcalls hend'

/-- A value outside of the map whose parents are a cycle: each key is visited once. The keys are not
the names of their values. -/
theorem walk_ends_of_cycle :
    let styles : ResourceMap := .ofList
      [("A", .style "a" (some "B")), ("B", .style "A.b" (some "@style/C")), ("C", .style "A.c" none)]
    let value := ResourceValue.style "X" (some "B")
    ∃ last, Calls styles (.first value) ["B", "C", "A"] last ∧
      last.turn styles = .ends (.cycle "a" "B") ∧ ["B", "C", "A"].length ≤ styles.size ∧
      styles.size = 3 := by
  intro styles value
  have hchain : styles.chain value = ⟨["B", "C", "A"], .cycle "a" "B"⟩ := by decide +kernel
  obtain ⟨hbound, ⟨last, hcalls, hend⟩, -⟩ := walk_ends styles value
  rw [hchain] at hcalls hend
  exact ⟨last, hcalls, hend, (hbound _ _ hcalls).1, by decide⟩

end ConfigBar.ResourceMap
