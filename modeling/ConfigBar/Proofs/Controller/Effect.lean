import ConfigBar.Proofs.Controller.Protocol
/-!
# The effect of requests from alike states

From alike states a request leads to alike states, gives the same results and raises the same
signals: it has the same effect. For single requests other than the selection of a locale it does
not matter which rebuilds are open; programs have the same effect in any two rebuilds.

* `sameEffect_single` — single requests
* `sameEffects_run` — programs in rebuilds
-/

namespace ConfigBar.Controller

/-- What a request raises depends on the open rebuilds only if it selects a locale. -/
theorem raised_single_congr {a b : Controller} (h : Alike a b) {r : Request}
    (hr : r.isRebuild = false)
    (hl : ∀ i, r = .selectLocale i → a.isRebuilding = b.isRebuilding) :
    a.raised r = b.raised r := by
  have hthemes : ∀ p, a.raisedByThemes p = b.raisedByThemes p := fun p => by
    rw [raisedByThemes, raisedByThemes, (h.updateResources p).theme?_eq, h.theme?_eq]
  cases r with
  | start p => rw [raised, raised, hthemes, h.resolver_eq]
  | updateResources p => rw [raised, raised, hthemes]
  | selectLocale i =>
    have hd : a.depth = 0 ↔ b.depth = 0 := by
      have hopen := hl i rfl
      simp only [isRebuilding, decide_eq_decide] at hopen
      omega
    obtain ⟨d, q, rfl⟩ := h
    rw [raised, raised]
    simp only [hd]
  | rebuild body broken => cases hr
  | _ =>
    obtain ⟨d, q, rfl⟩ := h
    rw [raised, raised]

/-- A request has the same effect from two states: it leads to alike states, gives the same results
and raises the same signals. -/
structure SameEffect (a b : Controller) (r : Request) : Prop where
  alike : Alike (a.step r) (b.step r)
  results_eq : a.results r = b.results r
  raised_eq : a.raised r = b.raised r

/-- A list of requests has the same effect from two states. -/
structure SameEffects (a b : Controller) (rs : List Request) : Prop where
  alike : Alike (a.run rs) (b.run rs)
  results_eq : a.resultsAll rs = b.resultsAll rs
  raised_eq : a.raisedAll rs = b.raisedAll rs

theorem sameEffect_single {a b : Controller} (h : Alike a b) {r : Request}
    (hr : r.isRebuild = false)
    (hl : ∀ i, r = .selectLocale i → a.isRebuilding = b.isRebuilding) : SameEffect a b r := by
  obtain ⟨halike, hresults⟩ := alike_single h hr hl
  exact ⟨halike, hresults, raised_single_congr h hr hl⟩

/-! ## Programs in rebuilds -/

theorem sameEffects_of_step {rs : List Request}
    (h : ∀ r ∈ rs, ∀ a b : Controller, Alike a b → a.isRebuilding → b.isRebuilding →
      SameEffect a b r)
    {a b : Controller} (hab : Alike a b) (ha : a.isRebuilding) (hb : b.isRebuilding) :
    SameEffects a b rs := by
  induction rs generalizing a b with
  | nil =>
    refine ⟨?_, ?_, ?_⟩
    · rwa [run_nil, run_nil]
    · rw [resultsAll_nil, resultsAll_nil]
    · rw [raisedAll, raisedAll]
  | cons r rs ih =>
    have hr := h r List.mem_cons_self a b hab ha hb
    have hrs := ih (fun r' hr' => h r' (List.mem_cons_of_mem _ hr')) hr.alike
      (isRebuilding_step ha r) (isRebuilding_step hb r)
    refine ⟨?_, ?_, ?_⟩
    · rw [run_cons, run_cons]
      exact hrs.alike
    · rw [resultsAll_cons, resultsAll_cons, hr.results_eq, hrs.results_eq]
    · rw [raisedAll, raisedAll, hr.raised_eq, hrs.raised_eq]

theorem SameEffects.rebuild {a b : Controller} {body : List Request}
    (h : SameEffects a.enter b.enter body) (broken : Bool) :
    SameEffect a b (.rebuild body broken) := by
  refine ⟨?_, ?_, ?_⟩
  · rw [step_rebuild, step_rebuild]
    exact (alike_close _ broken).symm.trans (h.alike.trans (alike_close _ broken))
  · rw [results_rebuild, results_rebuild, h.results_eq]
  · rw [raised, raised, h.raised_eq]

theorem Alike.enter {a b : Controller} (h : Alike a b) : Alike a.enter b.enter :=
  (alike_enter a).symm.trans (h.trans (alike_enter b))

theorem sameEffect_step (r : Request) : ∀ a b : Controller, Alike a b → a.isRebuilding →
    b.isRebuilding → SameEffect a b r := by
  induction r using Request.induction with
  | single r hr => exact fun a b h ha hb => sameEffect_single h hr fun _ _ => ha.trans hb.symm
  | rebuild body broken ih =>
    intro a b h _ _
    have hbody := sameEffects_of_step ih h.enter (isRebuilding_enter a) (isRebuilding_enter b)
    exact hbody.rebuild broken

/-- From alike states, programs have the same effect in rebuilds. -/
theorem sameEffects_run {a b : Controller} (h : Alike a b) (ha : a.isRebuilding)
    (hb : b.isRebuilding) (rs : List Request) : SameEffects a b rs :=
  sameEffects_of_step (fun r _ => sameEffect_step r) h ha hb

end ConfigBar.Controller
