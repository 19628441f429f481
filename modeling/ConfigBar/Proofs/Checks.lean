/-!
# Checks that stop at the first fault

A check runs through its conditions in order and reports the first one that does not hold. What it
decides is said without the order of its steps: by the list of all faults and by a property of the
result. Checks that are made one after another have the faults of the first before those of the
second (`Decides.bind`).
-/

namespace ConfigBar

/-- A check reports the first of the faults. If there are none it gives a result with `P`. -/
def Decides {ε α : Type} (faults : List ε) (P : α → Prop) : Except ε α → Prop
  | .error fault => faults.head? = some fault
  | .ok a => faults = [] ∧ P a

namespace Decides

variable {ε α β : Type} {fs gs : List ε} {P : α → Prop} {Q : β → Prop} {x : Except ε α}

theorem exists_ok_iff (h : Decides fs P x) : (∃ a, x = .ok a) ↔ fs = [] := by
  cases x with
  | error fault =>
    have h : fs.head? = some fault := h
    constructor
    · rintro ⟨a, ha⟩
      cases ha
    · rintro rfl
      cases h
  | ok a => exact ⟨fun _ => h.1, fun _ => ⟨a, rfl⟩⟩

theorem eq_error_iff (h : Decides fs P x) (fault : ε) :
    x = .error fault ↔ fs.head? = some fault := by
  cases x with
  | error found =>
    have h : fs.head? = some found := h
    simp [h]
  | ok a => simp [h.1]

theorem of_eq_ok (h : Decides fs P x) {a : α} (ha : x = .ok a) : P a := by
  subst ha
  exact h.2

theorem imp (h : Decides fs P x) {R : α → Prop} (hR : ∀ a, P a → R a) : Decides fs R x := by
  cases x with
  | error fault => exact h
  | ok a => exact ⟨h.1, hR a h.2⟩

theorem map (h : Decides fs P x) {f : α → β} (hf : ∀ a, P a → Q (f a)) :
    Decides fs Q (x.map f) := by
  cases x with
  | error fault => exact h
  | ok a => exact ⟨h.1, hf a h.2⟩

/-- One check after the other. -/
theorem bind (h : Decides fs P x) {next : α → Except ε β}
    (hnext : ∀ a, P a → Decides gs Q (next a)) : Decides (fs ++ gs) Q (x.bind next) := by
  cases x with
  | error fault =>
    have h : fs.head? = some fault := h
    show (fs ++ gs).head? = some fault
    rw [List.head?_append, h, Option.some_or]
  | ok a =>
    rw [h.1, List.nil_append]
    exact hnext a h.2

/-- A step that always succeeds, after a check. -/
theorem bind_ok (h : Decides fs P x) {next : α → Except ε β}
    (hnext : ∀ a, P a → ∃ b, next a = .ok b ∧ Q b) : Decides fs Q (x.bind next) := by
  cases x with
  | error fault => exact h
  | ok a =>
    obtain ⟨b, hb, hq⟩ := hnext a h.2
    show Decides fs Q (next a)
    rw [hb]
    exact ⟨h.1, hq⟩

/-- A check behind a guard. -/
theorem guard {c d : Prop} [Decidable c] [Decidable d] (hc : c ↔ d) {fault : ε}
    (h : ¬ d → Decides fs P x) :
    Decides ((if d then [fault] else []) ++ fs) P (if c then .error fault else x) := by
  by_cases hd : d
  · simp only [hc, hd, if_true]
    rfl
  · simp only [hc, hd, if_false, List.nil_append]
    exact h hd

end Decides

end ConfigBar
