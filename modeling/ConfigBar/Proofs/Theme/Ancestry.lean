import ConfigBar.Theme.Chain
import ConfigBar.Proofs.Theme.Parents
/-!
# Themes by their ancestors

A value is a theme if its chain of parents reaches a theme of the framework. The walk along the
chain gives up at a key that it has visited before. `Reaches` is the chain without such a rule, with
the parents as the texts of references and names tell them, and the two agree: a chain that ends
cannot visit a key twice.

* `Reaches.unique` — a value reaches a theme of the framework in one way only
* `Reaches.nodup` — so no key stands twice in the chain
* `reaches_follow`, `isTheme_follow` — the walk finds such a chain, and gives up no such chain
* `isTheme_iff_reaches` — the themes are the values with such a chain, as far as it does not come
  back to the name of the value itself
-/

namespace ConfigBar.ResourceMap

/-- The chain of parents of a value leads through the project styles of the given keys and ends
with a theme of the framework. -/
inductive Reaches (styles : ResourceMap) : ResourceValue → List String → Prop where
  | framework {value : ResourceValue} {name : String} :
      value.HasParent ⟨name, true⟩ → IsThemeName name → Reaches styles value []
  | project {value parent : ResourceValue} {name : String} {keys : List String} :
      value.HasParent ⟨name, false⟩ → styles.get? name = some parent →
        Reaches styles parent keys → Reaches styles value (name :: keys)

variable {styles : ResourceMap} {value parent : ResourceValue} {rest : List (String × ResourceValue)}
  {keys : List String} {key name : String}

/-! ## Chains that end -/

namespace Reaches

/-- A value has one chain only. -/
theorem unique (h : styles.Reaches value keys) :
    ∀ {others : List String}, styles.Reaches value others → keys = others := by
  induction h with
  | framework hparent _ =>
    intro others h'
    cases h' with
    | framework => rfl
    | project hparent' => cases hparent.unique hparent'
  | project hparent hget _ ih =>
    intro others h'
    cases h' with
    | framework hparent' => cases hparent.unique hparent'
    | project hparent' hget' hreaches' =>
      cases hparent.unique hparent'
      rw [hget] at hget'
      cases hget'
      rw [ih hreaches']

/-- The style of a key of the chain has a shorter chain. -/
theorem exists_shorter (h : styles.Reaches value keys) (hkey : key ∈ keys) :
    ∃ ancestor others, styles.get? key = some ancestor ∧ styles.Reaches ancestor others ∧
      others.length < keys.length := by
  induction h with
  | framework => cases hkey
  | @project _ parent name keys _ hget hreaches ih =>
    rcases List.mem_cons.mp hkey with rfl | hkey
    · exact ⟨parent, keys, hget, hreaches, Nat.lt_succ_self _⟩
    · obtain ⟨ancestor, others, hancestor, hothers, hlt⟩ := ih hkey
      exact ⟨ancestor, others, hancestor, hothers, Nat.lt_succ_of_lt hlt⟩

/-- A chain does not come back to the style that it starts with. -/
theorem not_mem_of_get? (h : styles.Reaches value keys) (hget : styles.get? key = some value) :
    key ∉ keys := by
  intro hkey
  obtain ⟨ancestor, others, hancestor, hothers, hlt⟩ := h.exists_shorter hkey
  rw [hget] at hancestor
  cases hancestor
  rw [h.unique hothers] at hlt
  exact Nat.lt_irrefl _ hlt

/-- No key stands twice in a chain. -/
theorem nodup (h : styles.Reaches value keys) : keys.Nodup := by
  induction h with
  | framework => exact List.nodup_nil
  | project _ hget hreaches ih => exact List.nodup_cons.mpr ⟨hreaches.not_mem_of_get? hget, ih⟩

end Reaches

/-! ## The walk along the chain -/

theorem find?_leave (key name : String) (rest : List (String × ResourceValue)) :
    SortedMap.find? name (leave key rest) =
      if name = key then none else SortedMap.find? name rest :=
  SortedMap.find?_filter_ne key name rest

theorem follow_framework (h : value.parentStyle? = some ⟨name, true⟩) :
    follow styles rest value = ⟨[], .framework name⟩ := by
  rw [follow, h]

theorem follow_project (h : value.parentStyle? = some ⟨name, false⟩)
    (hfind : SortedMap.find? name rest = some parent) :
    follow styles rest value =
      ⟨name :: (follow styles (leave name rest) parent).keys,
        (follow styles (leave name rest) parent).ending⟩ := by
  rw [follow, h]
  simp only
  split
  · next p hp =>
    rw [hfind] at hp
    cases hp
    rfl
  · next hp =>
    rw [hfind] at hp
    cases hp

/-- The walk only looks up keys of styles that it has not visited. -/
theorem find?_of_mem_follow (h : key ∈ (follow styles rest value).keys) :
    SortedMap.find? key rest ≠ none := by
  fun_induction follow styles rest value with
  | case3 rest value name _ parent hfind chain ih =>
    rcases List.mem_cons.mp h with rfl | h
    · rw [hfind]
      exact Option.some_ne_none _
    · have hkey := ih h
      rw [find?_leave] at hkey
      split at hkey
      · exact absurd rfl hkey
      · exact hkey
  | _ => cases h

/-- What the walk finds is a chain, if the styles that are left are styles of the project. -/
theorem reaches_follow (hrest : ∀ k v, SortedMap.find? k rest = some v → styles.get? k = some v)
    (h : (follow styles rest value).ending.isTheme = true) :
    styles.Reaches value (follow styles rest value).keys := by
  fun_induction follow styles rest value with
  | case2 rest value name hparent =>
    exact .framework (ResourceValue.parentStyle?_eq_some_iff.mp hparent)
      (isFrameworkThemeName_iff.mp h)
  | case3 rest value name hparent parent hfind chain ih =>
    refine .project (ResourceValue.parentStyle?_eq_some_iff.mp hparent) (hrest name parent hfind) (ih (fun k v hv => ?_) h)
    rw [find?_leave] at hv
    split at hv
    · cases hv
    · exact hrest k v hv
  | case1 => cases h
  | case4 => split at h <;> cases h

/-- The walk gives up no chain whose keys are all left. -/
theorem isTheme_follow (h : styles.Reaches value keys)
    (hrest : ∀ k ∈ keys, SortedMap.find? k rest = styles.get? k) :
    (follow styles rest value).ending.isTheme = true := by
  induction h generalizing rest with
  | framework hparent htheme =>
    rw [follow_framework (ResourceValue.parentStyle?_eq_some_iff.mpr hparent)]
    exact isFrameworkThemeName_iff.mpr htheme
  | @project _ parent name keys hparent hget hreaches ih =>
    have hfind := (hrest name List.mem_cons_self).trans hget
    rw [follow_project (ResourceValue.parentStyle?_eq_some_iff.mpr hparent) hfind]
    refine ih fun k hk => ?_
    -- the key of the parent does not come again, so nothing that is needed is left behind
    have hne : k ≠ name := by
      rintro rfl
      exact hreaches.not_mem_of_get? hget hk
    rw [find?_leave, if_neg hne]
    exact hrest k (List.mem_cons_of_mem name hk)

/-! ## Themes -/

/-- **A value is a theme exactly if its chain of parents reaches a theme of the framework and does
not come back to the name of the value.** Of the values of a map that are stored under their own
names, no chain that ends comes back. -/
theorem isTheme_iff_reaches (styles : ResourceMap) (value : ResourceValue) :
    (styles.isTheme value = true ↔ ∃ keys, styles.Reaches value keys ∧ value.name ∉ keys) ∧
      (styles.IsKeyedByName → value ∈ styles.values →
        (styles.isTheme value = true ↔ ∃ keys, styles.Reaches value keys)) := by
  have hiff : styles.isTheme value = true ↔
      ∃ keys, styles.Reaches value keys ∧ value.name ∉ keys := by
    unfold isTheme chain
    constructor
    · intro h
      refine ⟨_, reaches_follow (fun k v hv => ?_) h, fun hname => ?_⟩
      · rw [find?_leave] at hv
        split at hv
        · cases hv
        · exact hv
      · refine find?_of_mem_follow hname ?_
        rw [find?_leave, if_pos rfl]
    · rintro ⟨keys, hreaches, hname⟩
      refine isTheme_follow hreaches fun k hk => ?_
      have hne : k ≠ value.name := by
        rintro rfl
        exact hname hk
      rw [find?_leave, if_neg hne]
      rfl
  refine ⟨hiff, fun hkeyed hvalue => hiff.trans ?_⟩
  constructor
  · rintro ⟨keys, hreaches, -⟩
    exact ⟨keys, hreaches⟩
  · rintro ⟨keys, hreaches⟩
    exact ⟨keys, hreaches, hreaches.not_mem_of_get? (hkeyed.get?_name hvalue)⟩

/-- Of styles that are their own ancestors or have lost their parent, another one is a theme by its
name and by the reference of its parent. -/
theorem isTheme_iff_reaches_of_implied_parent :
    let dark := ResourceValue.style "App.Dark" none
    let app := ResourceValue.style "App" (some "@android:style/Theme.Light")
    let styles := resourceMap [app, dark, .style "App.Dark.Loop" (some "@style/App.Dark.Loop"),
      .style "Lost" (some "Gone")]
    styles.IsKeyedByName ∧ dark ∈ styles.values ∧ styles.isTheme dark = true := by
  intro dark app styles
  have hkeyed : styles.IsKeyedByName := by decide
  have hdark : dark ∈ styles.values := by decide
  have happ : styles.Reaches app [] :=
    .framework (.named (.framework (.taken "android:style/Theme.Light") (.taken "Theme.Light")))
      (Or.inr ⟨"Light", rfl⟩)
  have hreaches : styles.Reaches dark ["App"] :=
    .project (@ResourceValue.HasParent.implied "App" "Dark" (by decide)) (by decide) happ
  exact ⟨hkeyed, hdark, ((isTheme_iff_reaches styles dark).2 hkeyed hdark).mpr ⟨_, hreaches⟩⟩

end ConfigBar.ResourceMap
