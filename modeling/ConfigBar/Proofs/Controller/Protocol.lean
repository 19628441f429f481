import ConfigBar.Proofs.Controller.Settled
/-!
# The protocol of rebuilds

When a listener is told what requests raise. `FollowsProtocol` states the protocol for a state with
a listener, `followsProtocol` that every reachable state follows it. The invariant behind it is
`Quiet`: nothing waits outside of rebuilds, so that the end of an outermost rebuild finds exactly
what was raised in it.

* `quiet_of_reachable`, `depth_step` — rebuilds are balanced and leave nothing behind
* `signals_outermost` — what the end of an outermost rebuild delivers
* `callbacks_signalsAll` — callbacks pass a program as they were raised
* `mem_raisedAll_of_mem_signalsAll` — nothing is delivered that was not raised since
-/

namespace ConfigBar.Controller

open Signal (notices callbacks)

/-! ## Rebuilds leave nothing behind -/

theorem quiet_enter (c : Controller) : c.enter.Quiet := quiet_of_isRebuilding (isRebuilding_enter c)

theorem quiet_close (c : Controller) (broken : Bool) : (c.close broken).1.Quiet := by
  intro hd
  unfold close at hd ⊢
  dsimp only at hd ⊢
  -- either another rebuild is still open, or what waited has been taken out
  split
  · next hopen =>
    rw [if_pos hopen] at hd
    exact absurd hd (isRebuilding_iff.mp hopen)
  · rfl

theorem invariant_quiet : Invariant Quiet where
  initial _ _ _ := rfl
  single _ _ hr hq := (settles_single hq hr).quiet hq
  enter c _ := quiet_enter c
  close c broken _ := quiet_close c broken

theorem quiet_of_reachable {c : Controller} (h : Reachable c) : c.Quiet :=
  invariant_quiet.of_reachable h

/-- **The end of an outermost rebuild** delivers what was raised in it, each notice once and in
order, or nothing if it was broken off. -/
theorem signals_outermost {c : Controller} (hq : c.Quiet) (hd : c.depth = 0) (body : List Request)
    (broken : Bool) :
    c.signals (.rebuild body broken) =
      callbacks (c.enter.raisedAll body) ++
        if broken then [] else c.deliver (Notice.inOrder (notices (c.enter.raisedAll body))) := by
  have hin := settles_run (isRebuilding_enter c) body
  obtain ⟨-, -, -, hsignals⟩ := close_of_depth_eq_zero hq hd hin broken
  rw [signals_rebuild, hin.signals_of_isRebuilding (isRebuilding_enter c), hsignals]

/-- Every request leaves as many rebuilds open as it found. -/
theorem depth_step {c : Controller} (hq : c.Quiet) (r : Request) : (c.step r).depth = c.depth := by
  cases hr : r.isRebuild with
  | false => exact (settles_single hq hr).depth_eq
  | true =>
    by_cases hd : c.depth = 0
    · obtain ⟨body, broken, rfl⟩ := Request.exists_of_isRebuild hr
      rw [step_rebuild, hd]
      exact (close_of_depth_eq_zero hq hd (settles_run (isRebuilding_enter c) body) broken).1
    · exact (settles_step r c (isRebuilding_iff.mpr hd)).depth_eq

theorem listening_step {c : Controller} (hq : c.Quiet) (r : Request) :
    (c.step r).listening = c.listening := by
  cases hr : r.isRebuild with
  | false => exact (settles_single hq hr).listening_eq
  | true =>
    obtain ⟨body, broken, rfl⟩ := Request.exists_of_isRebuild hr
    rw [step_rebuild, (alike_close _ broken).listening_eq]
    exact (settles_run (isRebuilding_enter c) body).listening_eq

/-! ## Programs outside of rebuilds -/

theorem Settles.callbacks_eq {c next : Controller} {xs first : List Signal}
    (h : Settles c xs next first) : callbacks first = callbacks xs := by
  rw [h.signals_eq, callbacks, callbacks, List.filter_filter]
  refine List.filter_congr fun s _ => ?_
  cases hs : s.notice?.isNone <;> simp [audible, hs]

theorem callbacks_signals {c : Controller} (hq : c.Quiet) (r : Request) :
    callbacks (c.signals r) = callbacks (c.raised r) := by
  cases hr : r.isRebuild with
  | false => exact (settles_single hq hr).callbacks_eq
  | true =>
    by_cases hd : c.depth = 0
    · obtain ⟨body, broken, rfl⟩ := Request.exists_of_isRebuild hr
      rw [signals_outermost hq hd, raised, deliver]
      split
      · simp
      · split <;> simp
    · exact (settles_step r c (isRebuilding_iff.mpr hd)).callbacks_eq

/-- Callbacks are neither deferred nor merged nor dropped. -/
theorem callbacks_signalsAll {c : Controller} (hq : c.Quiet) (rs : List Request) :
    callbacks (c.signalsAll rs) = callbacks (c.raisedAll rs) := by
  induction rs generalizing c with
  | nil => rw [signalsAll_nil, raisedAll]
  | cons r rs ih =>
    rw [signalsAll_cons, raisedAll, Signal.callbacks_append, Signal.callbacks_append,
      callbacks_signals hq r, ih (invariant_quiet.step r c hq)]

/-- A request delivers no notice that it did not raise: none has waited for it. -/
theorem mem_raised_of_mem_signals {c : Controller} (hq : c.Quiet) {r : Request} {n : Notice}
    (h : n ∈ notices (c.signals r)) : n ∈ notices (c.raised r) := by
  cases hr : r.isRebuild with
  | false => exact ((settles_single hq hr).mem_notices.mp h).2
  | true =>
    by_cases hd : c.depth = 0
    · obtain ⟨body, broken, rfl⟩ := Request.exists_of_isRebuild hr
      rw [signals_outermost hq hd, deliver, Signal.notices_append, Signal.notices_callbacks,
        List.nil_append] at h
      rw [raised]
      split at h
      · cases h
      · split at h
        · rwa [Signal.notices_map_notice, Notice.mem_inOrder] at h
        · cases h
    · -- an inner rebuild delivers no notice at all
      have hc := isRebuilding_iff.mpr hd
      rw [(settles_step r c hc).signals_of_isRebuilding hc, Signal.notices_callbacks] at h
      cases h

theorem mem_raisedAll_of_mem_signalsAll {c : Controller} (hq : c.Quiet) {rs : List Request}
    {n : Notice} (h : n ∈ notices (c.signalsAll rs)) : n ∈ notices (c.raisedAll rs) := by
  induction rs generalizing c with
  | nil =>
    rw [signalsAll_nil] at h
    cases h
  | cons r rs ih =>
    rw [signalsAll_cons, Signal.notices_append, List.mem_append] at h
    rw [raisedAll, Signal.notices_append, List.mem_append]
    rcases h with h | h
    · exact Or.inl (mem_raised_of_mem_signals hq h)
    · exact Or.inr (ih (invariant_quiet.step r c hq) h)

/-! ## The protocol -/

/-- The protocol of rebuilds from a state on, for every program that goes on from there. -/
structure FollowsProtocol (c : Controller) : Prop where
  /-- While a rebuild is open, the listener is told nothing. -/
  silent : 0 < c.depth → ∀ rs, notices (c.signalsAll rs) = []
  /-- The end of an outermost rebuild tells the listener exactly what was raised in it, also in
  inner rebuilds that broke off: each notice once, in the order of the kinds. -/
  told : c.depth = 0 → ∀ body,
    c.signals (.rebuild body false) = callbacks (c.enter.raisedAll body) ++
      (Notice.all.filter (· ∈ notices (c.enter.raisedAll body))).map .notice
  /-- An outermost rebuild that breaks off tells the listener nothing, and afterwards the listener
  is told only what is raised afterwards. -/
  dropped : c.depth = 0 → ∀ body,
    notices (c.signals (.rebuild body true)) = [] ∧
      ∀ rest n, n ∈ notices ((c.step (.rebuild body true)).signalsAll rest) →
        n ∈ notices ((c.step (.rebuild body true)).raisedAll rest)
  /-- Outside of rebuilds everything that is raised gets through at once and in order. -/
  atOnce : c.depth = 0 → ∀ r, r.isRebuild = false → c.signals r = c.raised r
  /-- The end of a rebuild finds one rebuild more than were open before it, and every request
  leaves as many open as it found. -/
  balanced : (∀ body, (c.enter.run body).depth = c.depth + 1) ∧ ∀ r, (c.step r).depth = c.depth
  /-- The rebuild in which a provider is taken over is no exception: it is silent and balanced. -/
  ownRebuild : ∀ p, notices (c.enter.updateThemes p).2 = [] ∧
    ((c.enter.updateThemes p).1.updateLocales p).depth = c.depth + 1
  /-- Notices wait only while a rebuild is open. -/
  waiting : c.depth = 0 → c.pending = ∅
  /-- The callbacks of toggles get through as they are raised, in rebuilds and outside. -/
  calledBack : ∀ rs, callbacks (c.signalsAll rs) = callbacks (c.raisedAll rs)

/-- **Every reachable state with a listener follows the protocol of rebuilds.** -/
theorem followsProtocol_of_reachable {c : Controller} (h : Reachable c)
    (hl : c.listening = true) : FollowsProtocol c where
  silent hd rs := by
    have hc := isRebuilding_iff.mpr (Nat.pos_iff_ne_zero.mp hd)
    rw [(settles_run hc rs).signals_of_isRebuilding hc, Signal.notices_callbacks]
  told hd body := by
    rw [signals_outermost (quiet_of_reachable h) hd, deliver, hl]
    rfl
  dropped hd body := by
    refine ⟨?_, fun rest n hn => ?_⟩
    · rw [signals_outermost (quiet_of_reachable h) hd]
      simp
    · exact mem_raisedAll_of_mem_signalsAll (quiet_of_reachable (h.step _)) hn
  atOnce hd r hr := (settles_single (quiet_of_reachable h) hr).signals_of_listening hl hd
  balanced :=
    ⟨fun body => (settles_run (isRebuilding_enter c) body).depth_eq,
      depth_step (quiet_of_reachable h)⟩
  ownRebuild p := by
    have hthemes := settles_updateThemes c p
    refine ⟨?_, hthemes.depth_eq⟩
    rw [hthemes.signals_of_isRebuilding (isRebuilding_enter c), Signal.notices_callbacks]
  waiting := quiet_of_reachable h
  calledBack rs := callbacks_signalsAll (quiet_of_reachable h) rs

/-- Clipping is switched off, an inner rebuild raises a change of the configuration and breaks off,
and clipping is switched on again: the listener is told of both, of each once. -/
theorem followsProtocol_of_inner_break :
    (initial true []).signals
        (.rebuild [.setClipping false, .rebuild [.setVersion (some 3)] true, .setClipping true]
          false) =
      [.notice .configuration, .notice .clipping] :=
  ((followsProtocol_of_reachable (.initial true []) rfl).told rfl _).trans (by decide)

end ConfigBar.Controller
