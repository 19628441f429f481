import ConfigBar.Theme.Parent
/-!
# The parents of styles by their texts

Which texts name a theme of the framework, and which parent a reference or a name stands for, said
by how the texts are put together.

* `isFrameworkThemeName_iff` — the names of themes
* `ofReference_eq_iff` — of a reference one `@`, one `android:` and one `style/` are taken away
* `ofName?_eq_some_iff` — a name implies what stands before its last point
* `parentStyle?_eq_some_iff` — so much for the parent of a value
-/

namespace ConfigBar

open Text

/-! ## Names of themes -/

/-- Is a text the name of a theme, if it is that of a style of the framework? -/
def IsThemeName (name : String) : Prop := name = "Theme" ∨ ∃ rest, name = "Theme." ++ rest

theorem after?_eq_some_iff_append {front name rest : String} :
    after? front.toList name.toList = some rest.toList ↔ name = front ++ rest := by
  rw [after?_eq_some_iff, ← String.toList_append, String.toList_inj]

theorem eq_append_of_after? {front name : String} {rest : List Char}
    (h : after? front.toList name.toList = some rest) : name = front ++ String.ofList rest := by
  rw [← String.toList_ofList (l := rest)] at h
  exact after?_eq_some_iff_append.mp h

theorem after?_eq_none {front name : String} (h : ∀ rest, name ≠ front ++ rest) :
    after? front.toList name.toList = none := by
  cases hafter : after? front.toList name.toList with
  | none => rfl
  | some rest => exact absurd (eq_append_of_after? hafter) (h _)

theorem isFrameworkThemeName_iff {name : String} :
    isFrameworkThemeName name = true ↔ IsThemeName name := by
  unfold isFrameworkThemeName IsThemeName
  rw [Bool.or_eq_true, beq_iff_eq, Option.isSome_iff_exists]
  refine or_congr_right ⟨?_, ?_⟩
  · rintro ⟨rest, h⟩
    exact ⟨_, eq_append_of_after? h⟩
  · rintro ⟨rest, h⟩
    exact ⟨rest.toList, after?_eq_some_iff_append.mpr h⟩

/-! ## References -/

/-- `rest` is what is left of a text after one `front` is taken away, if the text starts with it. -/
inductive Strips (front : String) : String → String → Prop where
  | taken (rest : String) : Strips front (front ++ rest) rest
  | kept {text : String} : (∀ rest, text ≠ front ++ rest) → Strips front text text

theorem strips_iff {front text rest : String} :
    Strips front text rest ↔ rest = String.ofList (Parent.without front text.toList) := by
  unfold Parent.without
  constructor
  · intro h
    cases h with
    | taken => rw [after?_eq_some_iff_append.mpr rfl, Option.getD_some, String.ofList_toList]
    | kept hkept =>
      rw [after?_eq_none hkept, Option.getD_none, String.ofList_toList]
  · rintro rfl
    cases h : after? front.toList text.toList with
    | some rest =>
      obtain rfl := eq_append_of_after? h
      exact .taken _
    | none =>
      rw [Option.getD_none, String.ofList_toList]
      exact .kept fun rest htext => by simp [after?_eq_some_iff_append.mpr htext] at h

/-- The parent that a reference names: one `@` is taken away, then one `android:`, which makes it a
style of the framework, and then one `style/`. -/
inductive Parent.IsNamedBy (reference : String) : Parent → Prop where
  | framework {rest name : String} : Strips "@" reference ("android:" ++ rest) →
      Strips "style/" rest name → IsNamedBy reference ⟨name, true⟩
  | project {text name : String} : Strips "@" reference text →
      (∀ rest, text ≠ "android:" ++ rest) → Strips "style/" text name →
        IsNamedBy reference ⟨name, false⟩

namespace Parent

variable {reference name front : String} {p : Parent}

theorem isNamedBy_ofReference (reference : String) : (ofReference reference).IsNamedBy reference := by
  have hmark : Strips "@" reference (String.ofList (without "@" reference.toList)) :=
    strips_iff.mpr rfl
  unfold ofReference
  generalize without "@" reference.toList = cs at hmark
  rw [← String.toList_ofList (l := cs)]
  simp only
  split
  · next rest h =>
    rw [eq_append_of_after? h] at hmark
    refine .framework hmark (strips_iff.mpr ?_)
    rw [String.toList_ofList]
  · next h =>
    refine .project hmark (fun rest htext => ?_) (strips_iff.mpr rfl)
    rw [after?_eq_some_iff_append.mpr htext] at h
    cases h

theorem IsNamedBy.eq_ofReference (h : p.IsNamedBy reference) : p = ofReference reference := by
  unfold ofReference
  cases h with
  | @framework rest name hmark hname =>
    have htext : without "@" reference.toList = ("android:" ++ rest).toList := by
      rw [strips_iff.mp hmark, String.toList_ofList]
    simp only [htext, after?_eq_some_iff_append.mpr rfl, strips_iff.mp hname]
  | @project text name hmark hnot hname =>
    have htext : without "@" reference.toList = text.toList := by
      rw [strips_iff.mp hmark, String.toList_ofList]
    simp only [htext, after?_eq_none hnot, strips_iff.mp hname]

/-- A reference names the parent that is read from it, and no other one. -/
theorem ofReference_eq_iff : ofReference reference = p ↔ p.IsNamedBy reference := by
  constructor
  · rintro rfl
    exact isNamedBy_ofReference reference
  · intro h
    exact h.eq_ofReference.symm

/-! ## Implied parents -/

/-- A name implies what stands before its last point. -/
theorem ofName?_eq_some_iff :
    ofName? name = some p ↔
      ∃ front last, name = front ++ "." ++ last ∧ '.' ∉ last.toList ∧ p = ⟨front, false⟩ := by
  unfold ofName?
  rw [Option.map_eq_some_iff]
  constructor
  · rintro ⟨front, h, rfl⟩
    obtain ⟨last, hname, hlast⟩ := beforeLast?_eq_some_iff.mp h
    refine ⟨String.ofList front, String.ofList last, String.toList_injective ?_, ?_, rfl⟩
    · simp [hname]
    · rwa [String.toList_ofList]
  · rintro ⟨front, last, rfl, hlast, rfl⟩
    refine ⟨front.toList, ?_, by rw [String.ofList_toList]⟩
    refine beforeLast?_eq_some_iff.mpr ⟨last.toList, ?_, hlast⟩
    simp

end Parent

/-! ## Parents of values -/

/-- The parent of a value: the one that the reference of a style names, or else the one that its
name implies. -/
inductive ResourceValue.HasParent : ResourceValue → Parent → Prop where
  | named {name reference : String} {p : Parent} :
      p.IsNamedBy reference → HasParent (.style name (some reference)) p
  | implied {front last : String} :
      '.' ∉ last.toList → HasParent (.style (front ++ "." ++ last) none) ⟨front, false⟩

namespace ResourceValue

variable {v : ResourceValue} {p q : Parent}

theorem parentStyle?_eq_some_iff : v.parentStyle? = some p ↔ v.HasParent p := by
  constructor
  · intro h
    cases v with
    | style name parent =>
      cases parent with
      | some reference => exact .named (Parent.ofReference_eq_iff.mp (Option.some.inj h))
      | none =>
        obtain ⟨front, last, rfl, hlast, rfl⟩ := Parent.ofName?_eq_some_iff.mp h
        exact .implied hlast
    | simple => cases h
  · intro h
    cases h with
    | named hnamed => exact congrArg some (Parent.ofReference_eq_iff.mpr hnamed)
    | implied hlast => exact Parent.ofName?_eq_some_iff.mpr ⟨_, _, rfl, hlast, rfl⟩

/-- A value has one parent at most. -/
theorem HasParent.unique (hp : v.HasParent p) (hq : v.HasParent q) : p = q := by
  rw [← parentStyle?_eq_some_iff] at hp hq
  exact Option.some.inj (hp.symm.trans hq)

/-- Only styles have parents. -/
theorem HasParent.isStyle (h : v.HasParent p) : v.isStyle = true := by
  cases h <;> rfl

end ResourceValue

end ConfigBar
