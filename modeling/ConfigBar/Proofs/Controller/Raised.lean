import ConfigBar.Proofs.Controller.Alike
/-!
# What requests raise

A request raises signals: a notice for each change that it makes, the callback of a toggle that it
switches. `raised` says which, without a word about rebuilds that are open. What becomes of them is
the same for every request (`Settles`): callbacks get through, notices get through to a listener
outside of rebuilds and wait inside of one.

* `Settles.trans` — steps one after another
* `settles_close_of_isRebuilding` — the end of an inner rebuild
* `close_of_depth_eq_zero` — the end of an outermost rebuild
-/

namespace ConfigBar

/-! ## Notices and callbacks -/

namespace Signal

/-- The notice of a signal that is not a callback. -/
def notice? : Signal → Option Notice
  | notice n => some n
  | toggled _ _ => none

/-- The notices among signals. -/
def notices (signals : List Signal) : List Notice := signals.filterMap notice?

/-- The callbacks of toggles among signals. -/
def callbacks (signals : List Signal) : List Signal := signals.filter (·.notice?.isNone)

@[simp] theorem notices_nil : notices [] = [] := rfl

@[simp] theorem notices_append (xs ys : List Signal) :
    notices (xs ++ ys) = notices xs ++ notices ys := List.filterMap_append

@[simp] theorem callbacks_append (xs ys : List Signal) :
    callbacks (xs ++ ys) = callbacks xs ++ callbacks ys := List.filter_append ..

@[simp] theorem notices_map_notice (ns : List Notice) : notices (ns.map notice) = ns := by
  induction ns with
  | nil => rfl
  | cons n ns ih => exact congrArg (n :: ·) ih

@[simp] theorem callbacks_map_notice (ns : List Notice) : callbacks (ns.map notice) = [] := by
  induction ns with
  | nil => rfl
  | cons n ns ih => exact ih

@[simp] theorem notices_callbacks (signals : List Signal) : notices (callbacks signals) = [] := by
  induction signals with
  | nil => rfl
  | cons s signals ih => cases s <;> exact ih

@[simp] theorem callbacks_callbacks (signals : List Signal) :
    callbacks (callbacks signals) = callbacks signals := by
  simp [callbacks]

theorem mem_notices {n : Notice} {signals : List Signal} :
    n ∈ notices signals ↔ notice n ∈ signals := by
  rw [notices, List.mem_filterMap]
  constructor
  · rintro ⟨s, hs, hn⟩
    cases s with
    | notice m => cases hn; exact hs
    | toggled i on => cases hn
  · exact fun h => ⟨_, h, rfl⟩

end Signal

namespace Notice

/-- All notices in the order of their delivery. -/
def all : List Notice := [configuration, theme, create, clipping]

/-- The notices of a list, each once, in the order of their delivery. -/
def inOrder (ns : List Notice) : List Notice := all.filter (· ∈ ns)

@[simp] theorem mem_all (n : Notice) : n ∈ all := by cases n <;> decide

@[simp] theorem mem_inOrder {n : Notice} {ns : List Notice} : n ∈ inOrder ns ↔ n ∈ ns := by
  simp [inOrder]

theorem ascending_inOrder (ns : List Notice) :
    (inOrder ns).Pairwise fun a b => compare a b = .lt := by
  have hall : all.Pairwise fun a b => compare a b = .lt := by decide
  exact hall.filter _

/-- A set of notices is delivered in the order of the kinds. -/
theorem toList_eq_inOrder {s : SortedSet Notice} {ns : List Notice} (h : ∀ n, n ∈ s ↔ n ∈ ns) :
    s.toList = inOrder ns :=
  SortedSet.eq_of_mem_iff s.ascending (ascending_inOrder ns) fun n =>
    (h n).trans mem_inOrder.symm

end Notice

open Signal (notices callbacks)

/-! ## What is raised -/

namespace Controller

/-- A variant that was applied is a change of the effective configuration. -/
def raisedByVariant (result : Except SelectionError (Resolver × Bool)) : List Signal :=
  match result with
  | .ok (_, true) => [.notice .configuration]
  | _ => []

/-- A selected device has its first variant applied. -/
def raisedByDevice (selection : Resolver × Option DeviceSelection) : List Signal :=
  match selection with
  | (resolver, some (.selected _ _)) => raisedByVariant resolver.applySelected
  | _ => []

/-- The themes of a provider are a change if the selected theme has another name among them. -/
def raisedByThemes (c : Controller) (p : Provider) : List Signal :=
  if (c.updateResources p).1.theme? = c.theme? then [] else [.notice .theme]

mutual

/-- The signals that a request raises, in their order. -/
def raised (c : Controller) : Request → List Signal
  | .start p => c.raisedByThemes p ++ raisedByDevice (c.resolver.reload p.devices)
  | .updateResources p => c.raisedByThemes p
  | .reloadDevices p => raisedByDevice (c.resolver.reload p.devices)
  | .selectDevice i => raisedByDevice ((c.resolver.selectDevice i).map id some)
  | .selectVariant name => raisedByVariant (c.resolver.applyVariant name)
  | .selectVariantAt i => raisedByVariant (c.resolver.applyVariantAt i)
  | .selectLocale i =>
    if (c.locales.get? i).isSome ∧ c.depth = 0 then [.notice .configuration] else []
  | .typeLocale text => if (Locale.parse text).isOk then [.notice .configuration] else []
  | .setVersion _ => [.notice .configuration]
  | .selectTheme i => if (c.themes.get? i).isSome then [.notice .theme] else []
  | .setClipping _ => if c.clippingSupported then [.notice .clipping] else []
  | .setClippingSupport _ => []
  | .setCreateEnabled _ => []
  | .requestCreate => if c.createEnabled then [.notice .create] else []
  | .setEditing _ => []
  | .setToggle i on => if c.toggles[i]?.isSome then [.toggled i on] else []
  | .rebuild body _ => c.enter.raisedAll body

/-- The signals that a list of requests raises, in their order. -/
def raisedAll (c : Controller) : List Request → List Signal
  | [] => []
  | r :: rs => c.raised r ++ (c.step r).raisedAll rs

end

/-! ## What becomes of it -/

theorem isRebuilding_iff {c : Controller} : c.isRebuilding = true ↔ c.depth ≠ 0 := by
  simp [isRebuilding, Nat.pos_iff_ne_zero]

theorem isRebuilding_eq_false_iff {c : Controller} : c.isRebuilding = false ↔ c.depth = 0 := by
  simp [isRebuilding]

/-- Does a signal get through at once? Callbacks do; notices need a listener and no open rebuild. -/
def audible (c : Controller) (s : Signal) : Bool :=
  s.notice?.isNone || (c.listening && !c.isRebuilding)

/-- Outside of rebuilds a delivery is a matter of the listener alone. -/
theorem deliver_eq_filter {c : Controller} (hr : c.isRebuilding = false) (ns : List Notice) :
    c.deliver ns = (ns.map .notice).filter c.audible := by
  unfold deliver
  cases hl : c.listening with
  | true => exact (List.filter_eq_self.mpr fun s _ => by simp [audible, hl, hr]).symm
  | false =>
    refine (List.filter_eq_nil_iff.mpr fun s hs => ?_).symm
    obtain ⟨n, -, rfl⟩ := List.mem_map.mp hs
    simp [audible, hl, Signal.notice?]

/-- What becomes of the signals that a step from one state to the next raises. -/
structure Settles (c : Controller) (raised : List Signal) (next : Controller)
    (signals : List Signal) : Prop where
  listening_eq : next.listening = c.listening
  depth_eq : next.depth = c.depth
  mem_pending : ∀ n, n ∈ next.pending ↔ n ∈ c.pending ∨ c.isRebuilding ∧ n ∈ notices raised
  signals_eq : signals = raised.filter c.audible

/-- The fields that decide what becomes of a notice. -/
def rebuildState (c : Controller) : Bool × Nat × SortedSet Notice :=
  (c.listening, c.depth, c.pending)

/-- Nothing waits outside of rebuilds. -/
def Quiet (c : Controller) : Prop := c.depth = 0 → c.pending = ∅

namespace Settles

variable {c d m next : Controller} {xs ys first last : List Signal}

theorem audible_eq (h : Settles c xs next first) : next.audible = c.audible := by
  funext s
  simp only [audible, isRebuilding, h.listening_eq, h.depth_eq]

theorem trans (h : Settles c xs m first) (h' : Settles m ys next last) :
    Settles c (xs ++ ys) next (first ++ last) where
  listening_eq := h'.listening_eq.trans h.listening_eq
  depth_eq := h'.depth_eq.trans h.depth_eq
  mem_pending n := by
    have hm : m.isRebuilding = c.isRebuilding := by simp only [isRebuilding, h.depth_eq]
    rw [h'.mem_pending, h.mem_pending, hm, Signal.notices_append, List.mem_append, and_or_left,
      or_assoc]
  signals_eq := by rw [h.signals_eq, h'.signals_eq, h.audible_eq, List.filter_append]

/-- A step that raises nothing. -/
theorem silent (h : d.rebuildState = c.rebuildState) : Settles c [] d [] := by
  simp only [rebuildState, Prod.mk.injEq] at h
  obtain ⟨hl, hd, hp⟩ := h
  exact ⟨hl, hd, fun n => by simp [hp], rfl⟩

/-- A step that changes other fields first and then raises a notice. -/
theorem tell (h : d.rebuildState = c.rebuildState) (n : Notice) :
    Settles c [.notice n] (d.tell n).1 (d.tell n).2 := by
  simp only [rebuildState, Prod.mk.injEq] at h
  obtain ⟨hl, hd, hp⟩ := h
  have hr : c.isRebuilding = d.isRebuilding := by simp only [isRebuilding, hd]
  unfold Controller.tell
  cases hb : d.isRebuilding with
  | true =>
    refine ⟨hl, hd, fun m => ?_, ?_⟩
    · simp [hr, hb, hp, notices, Signal.notice?, or_comm]
    · simp [audible, hr, hb, Signal.notice?]
  | false =>
    refine ⟨hl, hd, fun m => ?_, ?_⟩
    · simp [hr, hb, hp]
    · have hc : c.deliver [n] = d.deliver [n] := by simp only [deliver, hl]
      exact hc.symm.trans (deliver_eq_filter (hr.trans hb) [n])

/-- In a rebuild nothing but callbacks gets through. -/
theorem signals_of_isRebuilding (h : Settles c xs next first) (hc : c.isRebuilding) :
    first = callbacks xs := by
  rw [h.signals_eq, callbacks]
  refine List.filter_congr fun s _ => ?_
  simp [audible, hc]

/-- Outside of rebuilds a listener is told everything. -/
theorem signals_of_listening (h : Settles c xs next first) (hl : c.listening) (hd : c.depth = 0) :
    first = xs := by
  rw [h.signals_eq]
  refine List.filter_eq_self.mpr fun s _ => ?_
  simp [audible, hl, isRebuilding, hd]

/-- A notice gets through if it was raised, there is a listener and no rebuild is open. -/
theorem mem_notices (h : Settles c xs next first) {n : Notice} :
    n ∈ notices first ↔ (c.listening ∧ c.isRebuilding = false) ∧ n ∈ notices xs := by
  rw [h.signals_eq, Signal.mem_notices, Signal.mem_notices, List.mem_filter, and_comm]
  simp [audible, Signal.notice?]

theorem quiet (h : Settles c xs next first) (hq : c.Quiet) : next.Quiet := by
  intro hd
  rw [h.depth_eq] at hd
  refine SortedSet.ext fun n => ?_
  rw [h.mem_pending, hq hd]
  simp [isRebuilding, hd]

end Settles

/-! ## The end of a rebuild -/

theorem isRebuilding_enter (c : Controller) : c.enter.isRebuilding = true := by
  simp [isRebuilding, enter]

/-- The end of an inner rebuild delivers nothing and drops nothing. -/
theorem settles_close_of_isRebuilding {c inner : Controller} {xs first : List Signal}
    (hc : c.isRebuilding) (h : Settles c.enter xs inner first) (broken : Bool) :
    Settles c xs (inner.close broken).1 (first ++ (inner.close broken).2) := by
  -- the rebuild around this one is still open
  have hd : inner.depth - 1 = c.depth := by rw [h.depth_eq]; rfl
  have hopen : ({ inner with depth := inner.depth - 1 } : Controller).isRebuilding = true := by
    simpa only [isRebuilding, hd] using hc
  unfold close
  simp only [hopen, if_true, List.append_nil]
  refine ⟨h.listening_eq, hd, fun n => ?_, ?_⟩
  · rw [h.mem_pending, isRebuilding_enter, hc]
    rfl
  · rw [h.signals_eq]
    refine List.filter_congr fun s _ => ?_
    simp [audible, hc, isRebuilding_enter]

/-- The end of an outermost rebuild delivers what was raised in it, or drops it, and leaves nothing
behind. -/
theorem close_of_depth_eq_zero {c inner : Controller} {xs first : List Signal} (hq : c.Quiet)
    (hd : c.depth = 0) (h : Settles c.enter xs inner first) (broken : Bool) :
    (inner.close broken).1.depth = 0 ∧ (inner.close broken).1.pending = ∅ ∧
      (inner.close broken).1.listening = c.listening ∧
      (inner.close broken).2 = if broken then [] else c.deliver (Notice.inOrder (notices xs)) := by
  have hi : inner.depth - 1 = 0 := by rw [h.depth_eq]; exact hd
  have hl : inner.listening = c.listening := h.listening_eq
  -- nothing waited before the rebuild, so what waits was raised in it
  have hw : inner.pending.toList = Notice.inOrder (notices xs) := by
    refine Notice.toList_eq_inOrder fun n => ?_
    rw [h.mem_pending, isRebuilding_enter]
    show n ∈ c.pending ∨ _ ↔ _
    rw [hq hd]
    simp
  have hopen : ({ inner with depth := inner.depth - 1 } : Controller).isRebuilding = false := by
    simp [isRebuilding, hi]
  unfold close
  rw [if_neg (Bool.eq_false_iff.mp hopen)]
  refine ⟨hi, rfl, hl, ?_⟩
  simp only [deliver, hl, hw]

/-- The end of a rebuild in which notices were raised in order and once changes nothing about
them. -/
theorem settles_close_of_inOrder {c inner : Controller} {xs first : List Signal} (hq : c.Quiet)
    (h : Settles c.enter xs inner first) (hs : (Notice.inOrder (notices xs)).map .notice = xs) :
    Settles c xs (inner.close false).1 (first ++ (inner.close false).2) := by
  by_cases hd : c.depth = 0
  · obtain ⟨hdepth, hpending, hlistening, hsignals⟩ := close_of_depth_eq_zero hq hd h false
    have hr : c.isRebuilding = false := isRebuilding_eq_false_iff.mpr hd
    -- nothing but notices was raised, so the requests of the rebuild let nothing through
    have hfirst : first = [] := by
      rw [h.signals_of_isRebuilding (isRebuilding_enter c), ← hs, Signal.callbacks_map_notice]
    refine ⟨hlistening, hdepth.trans hd.symm, fun n => ?_, ?_⟩
    · rw [hpending, hq hd, hr]
      simp
    · have hdeliver := deliver_eq_filter hr (Notice.inOrder (notices xs))
      rw [hs] at hdeliver
      rw [hsignals, hfirst]
      exact hdeliver
  · exact settles_close_of_isRebuilding (isRebuilding_iff.mpr hd) h false

end Controller

end ConfigBar
