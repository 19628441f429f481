import ConfigBar.Controller.Run
/-!
# Programs and reachable states

A program of requests is a tree: a rebuild holds the requests that are performed in it. All other
requests are single ones.

* `Request.induction` — the induction on programs, with one case for all single requests
* `Controller.Reachable` — the states in the course of a program, in a rebuild or outside
* `Controller.Invariant.of_reachable` — what single requests, the start and the end of a rebuild
  keep holds in every reachable state
-/

namespace ConfigBar

/-! ## Programs -/

/-- Is the request a rebuild? All others are single requests. -/
def Request.isRebuild : Request → Bool
  | .rebuild _ _ => true
  | _ => false

theorem Request.exists_of_isRebuild {r : Request} (h : r.isRebuild = true) :
    ∃ body broken, r = .rebuild body broken := by
  cases r with
  | rebuild body broken => exact ⟨body, broken, rfl⟩
  | _ => cases h

/-- The provider that a request hands in. -/
def Request.provider? : Request → Option Provider
  | .start p => some p
  | .updateResources p => some p
  | .reloadDevices p => some p
  | _ => none

/-- The induction on programs. -/
theorem Request.induction {P : Request → Prop} (single : ∀ r, r.isRebuild = false → P r)
    (rebuild : ∀ body broken, (∀ r ∈ body, P r) → P (.rebuild body broken)) (r : Request) :
    P r := by
  by_cases h : r.isRebuild = true
  · obtain ⟨body, broken, rfl⟩ := Request.exists_of_isRebuild h
    refine rebuild body broken fun r hr => ?_
    have hlt : sizeOf r < sizeOf body := List.sizeOf_lt_of_mem hr
    exact Request.induction single rebuild r
  · exact single r (Bool.eq_false_iff.mpr h)
termination_by sizeOf r

namespace Controller

/-- A rebuild opens, performs its requests and closes. -/
theorem step_rebuild (c : Controller) (body : List Request) (broken : Bool) :
    c.step (.rebuild body broken) = ((c.enter.run body).close broken).1 := by
  simp [step, run, perform]

/-! ## Reachable states -/

/-- The states of a controller in the course of a program: at the start, after a request, and after
a rebuild was opened. -/
inductive Reachable : Controller → Prop where
  | initial (listening : Bool) (toggles : List Toggle) : Reachable (initial listening toggles)
  | step {c : Controller} (r : Request) : Reachable c → Reachable (c.step r)
  | enter {c : Controller} : Reachable c → Reachable c.enter

theorem Reachable.run {c : Controller} (h : Reachable c) (rs : List Request) :
    Reachable (c.run rs) := by
  induction rs generalizing c with
  | nil => rwa [run_nil]
  | cons r rs ih =>
    rw [run_cons]
    exact ih (h.step r)

/-- A property that holds at the start and is kept by every step that is not itself a program. -/
structure Invariant (I : Controller → Prop) : Prop where
  initial : ∀ listening toggles, I (initial listening toggles)
  single : ∀ c r, r.isRebuild = false → I c → I (c.step r)
  enter : ∀ c, I c → I c.enter
  close : ∀ c broken, I c → I (c.close broken).1

namespace Invariant

variable {I : Controller → Prop}

theorem run_of_step {rs : List Request} (h : ∀ r ∈ rs, ∀ c, I c → I (c.step r)) {c : Controller}
    (hc : I c) : I (c.run rs) := by
  induction rs generalizing c with
  | nil => rwa [run_nil]
  | cons r rs ih =>
    rw [run_cons]
    exact ih (fun r' hr' => h r' (List.mem_cons_of_mem _ hr')) (h r List.mem_cons_self c hc)

theorem step (h : Invariant I) (r : Request) : ∀ c, I c → I (c.step r) := by
  induction r using Request.induction with
  | single r hr => exact fun c hc => h.single c r hr hc
  | rebuild body broken ih =>
    intro c hc
    rw [step_rebuild]
    exact h.close _ _ (run_of_step ih (h.enter c hc))

/-- An invariant holds in every reachable state. -/
theorem of_reachable (h : Invariant I) {c : Controller} (hc : Reachable c) : I c := by
  induction hc with
  | initial listening toggles => exact h.initial listening toggles
  | step r _ ih => exact h.step r _ ih
  | enter _ ih => exact h.enter _ ih

end Invariant

end Controller

end ConfigBar
