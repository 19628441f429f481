import ConfigBar.Proofs.Controller.Effect
/-!
# A rebuild changes only when notices arrive

A list of requests is performed twice from the same state: in a rebuild, and plainly, one request
after another. In a rebuild the selection of a locale is ignored, so the plain run leaves nothing of
it but the check of the index. The two runs go hand in hand through alike states (`Mirrors`); what
the plain run delivers is what the rebuild raises, and the end of the rebuild delivers it in order.

* `mirrors_run` — the plain run and the rebuild go hand in hand
* `rebuild_defers` — results, callbacks, the last state and the notices of the two runs
-/

namespace ConfigBar

open Signal (notices callbacks)

/-- Is the request anything but a rebuild that breaks off? -/
def Request.endsNormally : Request → Bool
  | .rebuild _ broken => !broken
  | _ => true

namespace Controller

/-! ## The plain run -/

/-- The check of the index that comes before a locale is selected. -/
def checkLocale (c : Controller) (i : Nat) : Outcome Unit :=
  match c.locales.get? i with
  | none => c.failing (.selection (.outOfRange "locale" i c.locales.size))
  | some _ => c.silently

mutual

/-- Performs a request, but only the check of a locale that is selected. -/
def performPlain (c : Controller) : Request → Controller × Answer
  | .selectLocale i => (c.checkLocale i).answer fun _ => .done
  | .rebuild body broken =>
    let (inner, answers) := c.enter.performAllPlain body
    let (next, signals) := inner.close broken
    (next, .rebuilt answers signals next)
  | r => c.perform r

/-- Performs requests one after another, but only the checks of locales that are selected. -/
def performAllPlain (c : Controller) : List Request → Controller × List Answer
  | [] => (c, [])
  | r :: rs =>
    let (next, answer) := c.performPlain r
    let (last, answers) := next.performAllPlain rs
    (last, answer :: answers)

end

theorem selectLocale_of_isRebuilding {c : Controller} (hc : c.isRebuilding) (i : Nat) :
    c.selectLocale i = c.checkLocale i := by
  unfold selectLocale checkLocale
  cases c.locales.get? i with
  | none => rfl
  | some entry => exact if_pos hc

theorem performPlain_single (c : Controller) {r : Request} (hr : r.isRebuild = false)
    (hl : ∀ i, r ≠ .selectLocale i) : c.performPlain r = c.perform r := by
  rw [performPlain]
  · exact hl
  · rintro body broken rfl
    cases hr

theorem performAllPlain_of_step {rs : List Request}
    (h : ∀ r ∈ rs, ∀ c : Controller, c.isRebuilding → c.performPlain r = c.perform r) {c : Controller}
    (hc : c.isRebuilding) : c.performAllPlain rs = c.performAll rs := by
  induction rs generalizing c with
  | nil => rw [performAllPlain, performAll]
  | cons r rs ih =>
    have hopen := isRebuilding_step hc r
    rw [performAllPlain, performAll, h r List.mem_cons_self c hc]
    show ((c.step r).performAllPlain rs |>.1, _ :: ((c.step r).performAllPlain rs).2) = _
    rw [ih (fun r' hr' => h r' (List.mem_cons_of_mem _ hr')) hopen]
    rfl

/-- In a rebuild nothing but the check is left of the selection of a locale anyway. -/
theorem performPlain_of_isRebuilding (r : Request) :
    ∀ c : Controller, c.isRebuilding → c.performPlain r = c.perform r := by
  induction r using Request.induction with
  | single r hr =>
    intro c hc
    by_cases hl : ∃ i, r = .selectLocale i
    · obtain ⟨i, rfl⟩ := hl
      rw [performPlain, perform, selectLocale_of_isRebuilding hc]
    · exact performPlain_single c hr fun i hi => hl ⟨i, hi⟩
  | rebuild body broken ih =>
    intro c _
    rw [performPlain, perform, performAllPlain_of_step ih (isRebuilding_enter c)]

theorem performPlain_rebuild (c : Controller) (body : List Request) (broken : Bool) :
    c.performPlain (.rebuild body broken) = c.perform (.rebuild body broken) := by
  rw [performPlain, perform,
    performAllPlain_of_step (fun r _ => performPlain_of_isRebuilding r) (isRebuilding_enter c)]

theorem Alike.checkLocale {a b : Controller} (h : Alike a b) (i : Nat) :
    SameOutcome (a.checkLocale i) (b.checkLocale i) := by
  obtain ⟨d, q, rfl⟩ := h
  unfold Controller.checkLocale
  dsimp only
  split
  · exact Alike.failing ⟨d, q, rfl⟩ _
  · exact Alike.silently ⟨d, q, rfl⟩

/-! ## The two runs go hand in hand -/

/-- A plain run from `c` to `next`, outside of rebuilds, mirrors a run in a rebuild that leads to
`inner` and raises the signals `raised`. -/
structure Mirrors (c next inner : Controller) (raised signals : List Signal) : Prop where
  alike : Alike next inner
  listening_eq : next.listening = c.listening
  depth_eq : next.depth = 0
  quiet : next.Quiet
  callbacks_eq : callbacks signals = callbacks raised
  mem_notices : ∀ n, n ∈ notices signals ↔ c.listening ∧ n ∈ notices raised

theorem Mirrors.trans {c m next inner last : Controller} {xs ys first second : List Signal}
    (h : Mirrors c m inner xs first) (h' : Mirrors m next last ys second) :
    Mirrors c next last (xs ++ ys) (first ++ second) where
  alike := h'.alike
  listening_eq := h'.listening_eq.trans h.listening_eq
  depth_eq := h'.depth_eq
  quiet := h'.quiet
  callbacks_eq := by
    rw [Signal.callbacks_append, Signal.callbacks_append, h.callbacks_eq, h'.callbacks_eq]
  mem_notices n := by
    rw [Signal.notices_append, Signal.notices_append, List.mem_append, List.mem_append,
      h.mem_notices, h'.mem_notices, h.listening_eq, and_or_left]

section Step

variable {c inner : Controller}

/-- Outside of rebuilds a single request delivers what it raises. -/
theorem mirrors_single (h : Alike c inner) (hd : c.depth = 0) (hq : c.Quiet) {r : Request}
    (hr : r.isRebuild = false) (hl : ∀ i, r ≠ .selectLocale i) :
    Mirrors c (c.step r) (inner.step r) (inner.raised r) (c.signals r) := by
  have heffect := sameEffect_single h hr fun i hi => absurd hi (hl i)
  have hs := settles_single hq hr
  rw [heffect.raised_eq] at hs
  refine ⟨heffect.alike, hs.listening_eq, hs.depth_eq.trans hd, hs.quiet hq, hs.callbacks_eq, ?_⟩
  intro n
  have hclosed : c.isRebuilding = false := isRebuilding_eq_false_iff.mpr hd
  rw [hs.mem_notices]
  simp only [hclosed, and_true]

/-- A rebuild that ends normally delivers what is raised in it, whatever its inner rebuilds do. -/
theorem mirrors_rebuild (h : Alike c inner) (hd : c.depth = 0) (hq : c.Quiet)
    (body : List Request) :
    Mirrors c (c.step (.rebuild body false)) (inner.step (.rebuild body false))
      (inner.raised (.rebuild body false)) (c.signals (.rebuild body false)) := by
  have hbody := sameEffects_run h.enter (isRebuilding_enter c) (isRebuilding_enter inner) body
  have heffect := hbody.rebuild false
  refine ⟨heffect.alike, listening_step hq _, (depth_step hq _).trans hd,
    invariant_quiet.step _ c hq, ?_, ?_⟩
  · rw [callbacks_signals hq, heffect.raised_eq]
  · intro n
    rw [← heffect.raised_eq, signals_outermost hq hd, raised, deliver]
    cases hl : c.listening <;> simp

/-- The selection of a locale raises nothing in a rebuild, nor does the check of the index. -/
theorem mirrors_selectLocale (h : Alike c inner) (hd : c.depth = 0) (hq : c.Quiet)
    (hi : inner.isRebuilding) (i : Nat) :
    Mirrors c (c.checkLocale i).controller (inner.step (.selectLocale i))
      (inner.raised (.selectLocale i)) (c.checkLocale i).signals := by
  have hc : (c.checkLocale i).controller = c ∧ (c.checkLocale i).signals = [] := by
    unfold checkLocale
    split <;> exact ⟨rfl, rfl⟩
  have hs : (inner.step (.selectLocale i)) = (inner.checkLocale i).controller := by
    rw [← selectLocale_of_isRebuilding hi]
    rfl
  have hr : inner.raised (.selectLocale i) = [] := by
    rw [raised, if_neg fun h => isRebuilding_iff.mp hi h.2]
  rw [hs, hr, hc.2]
  have halike := (h.checkLocale i).alike
  rw [hc.1] at halike ⊢
  exact ⟨halike, rfl, hd, hq, rfl, fun n => by simp⟩

/-- One step of the two runs. -/
theorem mirrors_step (h : Alike c inner) (hd : c.depth = 0) (hq : c.Quiet)
    (hi : inner.isRebuilding) {r : Request} (hr : r.endsNormally = true) :
    Mirrors c (c.performPlain r).1 (inner.step r) (inner.raised r)
        (c.performPlain r).2.allSignals ∧
      (c.performPlain r).2.results = inner.results r := by
  by_cases hb : r.isRebuild = true
  · obtain ⟨body, broken, rfl⟩ := Request.exists_of_isRebuild hb
    have hbroken : broken = false := by simpa [Request.endsNormally] using hr
    subst hbroken
    -- in the rebuild the plain run is a run like any other
    rw [performPlain_rebuild]
    have hbody := sameEffects_run h.enter (isRebuilding_enter c) (isRebuilding_enter inner) body
    exact ⟨mirrors_rebuild h hd hq body, (hbody.rebuild false).results_eq⟩
  · have hb := Bool.eq_false_iff.mpr hb
    by_cases hl : ∃ i, r = .selectLocale i
    · obtain ⟨i, rfl⟩ := hl
      -- the run in the rebuild ignores the locale, and the plain run leaves it out
      have hresults : inner.results (.selectLocale i) =
          ((inner.checkLocale i).answer fun _ => Reply.done).2.results := by
        rw [← selectLocale_of_isRebuilding hi, results, perform]
      rw [performPlain, hresults]
      exact ⟨mirrors_selectLocale h hd hq hi i, ((h.checkLocale i).answer _).2⟩
    · have hl : ∀ i, r ≠ .selectLocale i := fun i hi => hl ⟨i, hi⟩
      rw [performPlain_single c hb hl]
      have heffect := sameEffect_single h hb fun i hi => absurd hi (hl i)
      exact ⟨mirrors_single h hd hq hb hl, heffect.results_eq⟩

end Step

theorem performAllPlain_cons (c : Controller) (r : Request) (rs : List Request) :
    c.performAllPlain (r :: rs) =
      (((c.performPlain r).1.performAllPlain rs).1,
        (c.performPlain r).2 :: ((c.performPlain r).1.performAllPlain rs).2) := by
  rw [performAllPlain]

/-- The two runs of a list. -/
theorem mirrors_run {rs : List Request} (hr : ∀ r ∈ rs, r.endsNormally = true)
    {c inner : Controller} (h : Alike c inner) (hd : c.depth = 0) (hq : c.Quiet)
    (hi : inner.isRebuilding) :
    Mirrors c (c.performAllPlain rs).1 (inner.run rs) (inner.raisedAll rs)
        (Answer.signalsOf (c.performAllPlain rs).2) ∧
      (c.performAllPlain rs).2.map Answer.results = inner.resultsAll rs := by
  induction rs generalizing c inner with
  | nil =>
    rw [performAllPlain, run_nil, raisedAll, resultsAll_nil]
    exact ⟨⟨h, rfl, hd, hq, rfl, fun n => by simp [Answer.signalsOf]⟩, rfl⟩
  | cons r rs ih =>
    obtain ⟨hstep, hresult⟩ := mirrors_step h hd hq hi (hr r List.mem_cons_self)
    obtain ⟨hrun, hresults⟩ := ih (fun r' hr' => hr r' (List.mem_cons_of_mem _ hr')) hstep.alike
      hstep.depth_eq hstep.quiet (isRebuilding_step hi r)
    rw [performAllPlain_cons, run_cons, raisedAll, resultsAll_cons]
    refine ⟨hstep.trans hrun, ?_⟩
    rw [List.map_cons, hresult, hresults]

/-! ## What a rebuild changes -/

theorem inOrder_congr {xs ys : List Notice} (h : ∀ n, n ∈ xs ↔ n ∈ ys) :
    Notice.inOrder xs = Notice.inOrder ys := by
  refine List.filter_congr fun n _ => ?_
  simp only [h]

/-- **A rebuild changes only when notices arrive.** Its requests give the results of the plain run,
the callbacks and the last state are those of the plain run, and the notices are those of the plain
run, each once and in order. -/
theorem rebuild_defers {c : Controller} (h : Reachable c) (hd : c.depth = 0) {rs : List Request}
    (hr : ∀ r ∈ rs, r.endsNormally = true) :
    (c.enter.performAll rs).2.map Answer.results =
        (c.performAllPlain rs).2.map Answer.results ∧
      callbacks (c.signals (.rebuild rs false)) =
        callbacks (Answer.signalsOf (c.performAllPlain rs).2) ∧
      c.step (.rebuild rs false) = (c.performAllPlain rs).1 ∧
      notices (c.signals (.rebuild rs false)) =
        Notice.all.filter (· ∈ notices (Answer.signalsOf (c.performAllPlain rs).2)) := by
  have hq := quiet_of_reachable h
  obtain ⟨hm, hresults⟩ := mirrors_run hr (alike_enter c) hd hq (isRebuilding_enter c)
  refine ⟨hresults.symm, ?_, ?_, ?_⟩
  · rw [callbacks_signals hq, raised, hm.callbacks_eq]
  · have halike : Alike (c.step (.rebuild rs false)) (c.performAllPlain rs).1 := by
      rw [step_rebuild]
      exact (alike_close _ false).symm.trans hm.alike.symm
    -- both runs end outside of rebuilds, where nothing waits
    have hdepth : (c.step (.rebuild rs false)).depth = 0 := (depth_step hq _).trans hd
    refine halike.eq (hdepth.trans hm.depth_eq.symm) ?_
    rw [invariant_quiet.step _ c hq hdepth, hm.quiet hm.depth_eq]
  · rw [signals_outermost hq hd, deliver]
    show _ = Notice.inOrder _
    cases hl : c.listening with
    | true =>
      have hsame : ∀ n, n ∈ notices (c.enter.raisedAll rs) ↔
          n ∈ notices (Answer.signalsOf (c.performAllPlain rs).2) := fun n => by
        rw [hm.mem_notices, hl]
        simp
      simpa using inOrder_congr hsame
    | false =>
      have hnone : ∀ n, n ∈ ([] : List Notice) ↔
          n ∈ notices (Answer.signalsOf (c.performAllPlain rs).2) := fun n => by
        rw [hm.mem_notices, hl]
        simp
      have hempty : [] = Notice.inOrder _ := inOrder_congr hnone
      rw [← hempty]
      simp

/-- Clipping is switched twice and the version is set in an inner rebuild and outside of it: plainly
four notices arrive, in a rebuild one of each kind. -/
theorem rebuild_defers_of_repeated_changes :
    notices ((initial true []).signals
        (.rebuild [.setClipping false, .rebuild [.setVersion (some 3)] false, .setClipping true,
          .setVersion none] false)) =
      [.configuration, .clipping] :=
  (rebuild_defers (.initial true []) rfl (by decide)).2.2.2.trans (by decide)

end Controller

end ConfigBar
