import ConfigBar.Proofs.Controller.Raised
/-!
# What a program comes down to

A rebuild performs the requests in it, which may be rebuilds themselves. In the end only single
requests are performed, each in the state to which those before it have led. Facts about programs
follow from facts about these.

* `raised_eq` — a request raises what its single requests raise
* `StepRelation.of_performed` — a relation between the states before and after each single request
  holds between those before and after the whole
* `ReachableBy` — the states in the course of a program of which every single request is admitted
* `ReachableBy.invariant` — what the start and admitted requests keep holds in all of them
-/

namespace ConfigBar.Controller

mutual

/-- The single requests that a request comes down to, each with the state in which it is
performed. -/
def performed (c : Controller) : Request → List (Controller × Request)
  | .rebuild body _ => c.enter.performedAll body
  | r => [(c, r)]

/-- The single requests that a list of requests comes down to. -/
def performedAll (c : Controller) : List Request → List (Controller × Request)
  | [] => []
  | r :: rs => c.performed r ++ (c.step r).performedAll rs

end

variable {c : Controller} {r : Request}

theorem performed_single (hr : r.isRebuild = false) : c.performed r = [(c, r)] := by
  rw [performed]
  rintro body broken rfl
  cases hr

/-! ## Single requests of a program -/

theorem forall_performedAll {P : Controller × Request → Prop} {I : Controller → Prop}
    (step : ∀ r c, I c → I (c.step r)) {rs : List Request}
    (h : ∀ r ∈ rs, ∀ c, I c → ∀ x ∈ c.performed r, P x) (hc : I c) :
    ∀ x ∈ c.performedAll rs, P x := by
  induction rs generalizing c with
  | nil =>
    rw [performedAll]
    exact fun _ hx => nomatch hx
  | cons r rs ih =>
    rw [performedAll]
    intro x hx
    rcases List.mem_append.mp hx with hx | hx
    · exact h r List.mem_cons_self c hc x hx
    · exact ih (fun r' hr' => h r' (List.mem_cons_of_mem r hr')) (step r c hc) x hx

/-- What a program comes down to are single requests. -/
theorem isRebuild_of_mem_performed (r : Request) :
    ∀ c, ∀ x ∈ performed c r, x.2.isRebuild = false := by
  induction r using Request.induction with
  | single r hr =>
    intro c x hx
    rw [performed_single hr] at hx
    cases List.mem_singleton.mp hx
    exact hr
  | rebuild body broken ih =>
    intro c
    rw [performed]
    exact forall_performedAll (I := fun _ => True) (fun _ _ _ => trivial)
      (fun r hr c _ => ih r hr c) trivial

/-- They are performed in the course of the program. -/
theorem reachable_of_mem_performed (r : Request) :
    ∀ c, Reachable c → ∀ x ∈ performed c r, Reachable x.1 := by
  induction r using Request.induction with
  | single r hr =>
    intro c hc x hx
    rw [performed_single hr] at hx
    cases List.mem_singleton.mp hx
    exact hc
  | rebuild body broken ih =>
    intro c hc
    rw [performed]
    exact forall_performedAll (fun r _ hc => hc.step r) ih hc.enter

theorem raisedAll_eq {rs : List Request}
    (h : ∀ r ∈ rs, ∀ c : Controller, c.raised r = (c.performed r).flatMap fun x => x.1.raised x.2)
    (c : Controller) : c.raisedAll rs = (c.performedAll rs).flatMap fun x => x.1.raised x.2 := by
  induction rs generalizing c with
  | nil => rw [raisedAll, performedAll, List.flatMap_nil]
  | cons r rs ih =>
    rw [raisedAll, performedAll, List.flatMap_append, h r List.mem_cons_self,
      ih fun r' hr' => h r' (List.mem_cons_of_mem r hr')]

/-- A request raises what the single requests raise that it comes down to. -/
theorem raised_eq (r : Request) :
    ∀ c : Controller, c.raised r = (c.performed r).flatMap fun x => x.1.raised x.2 := by
  induction r using Request.induction with
  | single r hr =>
    intro c
    rw [performed_single hr, List.flatMap_singleton]
  | rebuild body broken ih =>
    intro c
    rw [raised, performed]
    exact raisedAll_eq ih c.enter

/-! ## From single requests to programs -/

/-- A relation of states to later ones that is indifferent to rebuilds and notices. -/
structure StepRelation (R : Controller → Controller → Prop) : Prop where
  alike : ∀ {a b}, Alike a b → R a b
  trans : ∀ {a b c}, R a b → R b c → R a c

namespace StepRelation

variable {R : Controller → Controller → Prop}

theorem run_of_step (h : StepRelation R) {rs : List Request}
    (step : ∀ r ∈ rs, ∀ c : Controller, (∀ x ∈ c.performed r, R x.1 (x.1.step x.2)) → R c (c.step r))
    (hx : ∀ x ∈ c.performedAll rs, R x.1 (x.1.step x.2)) : R c (c.run rs) := by
  induction rs generalizing c with
  | nil =>
    rw [run_nil]
    exact h.alike (.refl c)
  | cons r rs ih =>
    rw [performedAll] at hx
    rw [run_cons]
    refine h.trans (step r List.mem_cons_self c fun x hm => hx x (List.mem_append_left _ hm)) ?_
    exact ih (fun r' hr' => step r' (List.mem_cons_of_mem r hr'))
      fun x hm => hx x (List.mem_append_right _ hm)

/-- What holds along each single request holds along the whole program. -/
theorem of_performed (h : StepRelation R) (r : Request) :
    ∀ c : Controller, (∀ x ∈ c.performed r, R x.1 (x.1.step x.2)) → R c (c.step r) := by
  induction r using Request.induction with
  | single r hr =>
    intro c hx
    rw [performed_single hr] at hx
    exact hx (c, r) (List.mem_singleton_self _)
  | rebuild body broken ih =>
    intro c hx
    rw [performed] at hx
    rw [step_rebuild]
    -- the start and the end of the rebuild change nothing but rebuilds and notices
    exact h.trans (h.alike (alike_enter c))
      (h.trans (h.run_of_step ih hx) (h.alike (alike_close _ broken)))

end StepRelation

/-! ## Programs of admitted requests -/

/-- The states in the course of a program of which every single request is admitted by the state in
which it is performed. -/
inductive ReachableBy (Admits : Controller → Request → Prop) : Controller → Prop where
  | initial (listening : Bool) (toggles : List Toggle) :
    ReachableBy Admits (Controller.initial listening toggles)
  | step {c : Controller} (r : Request) :
    ReachableBy Admits c → (∀ x ∈ c.performed r, Admits x.1 x.2) → ReachableBy Admits (c.step r)
  | enter {c : Controller} : ReachableBy Admits c → ReachableBy Admits c.enter

theorem ReachableBy.run {Admits : Controller → Request → Prop} {rs : List Request}
    (h : ReachableBy Admits c) (hrs : ∀ x ∈ c.performedAll rs, Admits x.1 x.2) :
    ReachableBy Admits (c.run rs) := by
  induction rs generalizing c with
  | nil => rwa [run_nil]
  | cons r rs ih =>
    rw [performedAll] at hrs
    rw [run_cons]
    exact ih (h.step r fun x hx => hrs x (List.mem_append_left _ hx))
      fun x hx => hrs x (List.mem_append_right _ hx)

/-- What the start and the admitted requests keep holds in the course of their programs. -/
theorem ReachableBy.invariant {Admits : Controller → Request → Prop} {I : Controller → Prop}
    (alike : ∀ {a b}, Alike a b → I a → I b)
    (start : ∀ listening toggles, I (Controller.initial listening toggles))
    (single : ∀ c r, r.isRebuild = false → Admits c r → I c → I (c.step r))
    (h : ReachableBy Admits c) : I c := by
  induction h with
  | initial listening toggles => exact start listening toggles
  | enter _ ih => exact alike (alike_enter _) ih
  | @step c r _ hadmits ih =>
    have keeps : StepRelation fun a b => I a → I b :=
      ⟨fun hab ha => alike hab ha, fun hab hbc ha => hbc (hab ha)⟩
    refine keeps.of_performed r c (fun x hx => ?_) ih
    exact single x.1 x.2 (isRebuild_of_mem_performed r c x hx) (hadmits x hx)

end ConfigBar.Controller
