import ConfigBar.Proofs.Controller.Facets
import ConfigBar.Proofs.Controller.Protocol
/-!
# Independent requests

Requests about different facets are independent: in either order they lead to the same state, give
the same results and deliver the same signals. A rebuild is about every facet and so independent of
nothing.

* `agreeFor_step` — an independent request leaves all that a request asks about as it is
* `view_step_step`, `settles_step_step` — after both requests the facets agree, and what they raised
  has settled alike
* `independent_of_group?`, `independent_updateResources` — the choices of different groups are
  independent, whatever their arguments
* `run_perm` — programs of independent requests may be put in any order
* `commutes_of_independent` — independent requests commute
-/

namespace ConfigBar

theorem Request.exists_mem_facets (r : Request) : ∃ f, f ∈ r.facets := by
  cases r <;> exact ⟨_, List.mem_cons_self⟩

/-- Two requests are independent if they are about different facets. -/
def Request.Independent (a b : Request) : Prop := ∀ f ∈ a.facets, f ∉ b.facets

instance (a b : Request) : Decidable (a.Independent b) :=
  inferInstanceAs (Decidable (∀ f ∈ a.facets, f ∉ b.facets))

namespace Request.Independent

variable {a b : Request}

theorem symm (h : a.Independent b) : b.Independent a := fun f hb ha => h f ha hb

theorem isRebuild_eq_false (h : a.Independent b) : a.isRebuild = false := by
  cases a with
  | rebuild body broken =>
    -- a rebuild is about every facet, and so about one of the other request
    obtain ⟨f, hf⟩ := b.exists_mem_facets
    exact absurd hf (h f f.mem_all)
  | _ => rfl

end Request.Independent

/-! ## Groups of choices -/

/-- What is chosen in a configuration bar. -/
inductive ChoiceGroup where
  /-- A device or one of its variants. -/
  | device
  | locale
  | version
  | theme
  | clipping
  deriving DecidableEq, Repr

/-- The facet that the choices of a group are about. -/
def ChoiceGroup.facet : ChoiceGroup → Facet
  | device => .device
  | locale => .locale
  | version => .version
  | theme => .theme
  | clipping => .clipping

namespace Request

/-- The group of a request that is a choice, whether it succeeds or not. -/
def group? : Request → Option ChoiceGroup
  | .selectDevice _ | .selectVariant _ | .selectVariantAt _ | .reloadDevices _ => some .device
  | .selectLocale _ | .typeLocale _ => some .locale
  | .setVersion _ => some .version
  | .selectTheme _ => some .theme
  | .setClipping _ | .setClippingSupport _ => some .clipping
  | _ => none

variable {a b : Request} {g h : ChoiceGroup}

theorem facets_of_group? (ha : a.group? = some g) : a.facets = [g.facet] := by
  cases a <;> cases ha <;> rfl

/-- Choices of different groups are independent. -/
theorem independent_of_group? (ha : a.group? = some g) (hb : b.group? = some h) (hne : g ≠ h) :
    a.Independent b := by
  unfold Independent
  rw [facets_of_group? ha, facets_of_group? hb]
  revert hne
  cases g <;> cases h <;> decide

/-- Taking over resources is independent of the choices that are about neither locales nor themes. -/
theorem independent_updateResources (p : Provider) (hb : b.group? = some g)
    (hg : g ∈ [ChoiceGroup.device, .version, .clipping]) :
    (updateResources p).Independent b := by
  unfold Independent
  rw [facets_of_group? hb]
  show ∀ f ∈ [Facet.theme, Facet.locale], f ∉ [g.facet]
  revert hg
  cases g <;> decide

end Request

namespace Controller

variable {c : Controller} {a b : Request}

theorem isRebuilding_eq_of_step (hq : c.Quiet) (r : Request) :
    (c.step r).isRebuilding = c.isRebuilding := by
  simp only [isRebuilding, depth_step hq r]

/-- An independent request leaves alone what a request asks about. -/
theorem agreeFor_step (hq : c.Quiet) (h : a.Independent b) : AgreeFor a (c.step b) c where
  view_eq f hf := view_step h.symm.isRebuild_eq_false (h f hf)
  isRebuilding_eq := isRebuilding_eq_of_step hq b

/-- What the second request is not about is made by the first one, from either state. -/
theorem view_step_step_of_not_mem (hq : c.Quiet) (h : a.Independent b) {f : Facet}
    (hf : f ∉ b.facets) : ((c.step a).step b).view f = ((c.step b).step a).view f := by
  have hb := h.symm.isRebuild_eq_false
  calc ((c.step a).step b).view f
      = (c.step a).view f := view_step hb hf
    _ = ((c.step b).step a).view f :=
        (view_step_congr h.isRebuild_eq_false (agreeFor_step hq h) (view_step hb hf)).symm

/-- After independent requests in either order the facets agree. -/
theorem view_step_step (hq : c.Quiet) (h : a.Independent b) (f : Facet) :
    ((c.step a).step b).view f = ((c.step b).step a).view f := by
  by_cases hf : f ∈ b.facets
  · exact (view_step_step_of_not_mem hq h.symm (h.symm f hf)).symm
  · exact view_step_step_of_not_mem hq h hf

theorem listening_step_step (hq : c.Quiet) (a b : Request) :
    ((c.step a).step b).listening = c.listening := by
  rw [listening_step (invariant_quiet.step a c hq), listening_step hq]

/-- What independent requests raise settles as if both had been raised at once. -/
theorem settles_step_step (hq : c.Quiet) (h : a.Independent b) :
    Settles c (c.raised a ++ c.raised b) ((c.step a).step b)
      (c.signals a ++ (c.step a).signals b) := by
  have hb := h.symm.isRebuild_eq_false
  have hsecond := settles_single (invariant_quiet.step a c hq) hb
  rw [raised_congr hb (agreeFor_step hq h.symm)] at hsecond
  exact (settles_single hq h.isRebuild_eq_false).trans hsecond

/-- Signals that settle in another order lead to the same rebuilds and get through alike. -/
theorem Settles.perm {xs ys first last : List Signal} {d e : Controller}
    (h : Settles c xs d first) (h' : Settles c ys e last) (hp : xs.Perm ys) :
    d.depth = e.depth ∧ d.pending = e.pending ∧ first.Perm last := by
  refine ⟨h.depth_eq.trans h'.depth_eq.symm, SortedSet.ext fun n => ?_, ?_⟩
  · have hmem : n ∈ Signal.notices xs ↔ n ∈ Signal.notices ys :=
      (hp.filterMap Signal.notice?).mem_iff
    rw [h.mem_pending, h'.mem_pending, hmem]
  · rw [h.signals_eq, h'.signals_eq]
    exact hp.filter _

/-- Independent requests lead to the same state in either order, and the same signals get through. -/
theorem step_step_and_signals (hq : c.Quiet) (h : a.Independent b) :
    (c.step a).step b = (c.step b).step a ∧
      (c.signals a ++ (c.step a).signals b).Perm (c.signals b ++ (c.step b).signals a) := by
  have hlistening : ((c.step a).step b).listening = ((c.step b).step a).listening :=
    (listening_step_step hq a b).trans (listening_step_step hq b a).symm
  -- the facets agree, and so do the rebuilds and the notices that wait
  have halike := alike_of_view hlistening (view_step_step hq h)
  obtain ⟨hdepth, hpending, hsignals⟩ :=
    (settles_step_step hq h).perm (settles_step_step hq h.symm) List.perm_append_comm
  exact ⟨halike.eq hdepth hpending, hsignals⟩

/-- **Requests that are pairwise independent** lead to the same state in every order. -/
theorem run_perm {rs ss : List Request} (hp : rs.Perm ss) (hi : rs.Pairwise Request.Independent)
    {c : Controller} (hq : c.Quiet) : c.run rs = c.run ss := by
  induction hp generalizing c with
  | nil => rfl
  | cons r hp ih =>
    rw [run_cons, run_cons]
    exact ih (List.pairwise_cons.mp hi).2 (invariant_quiet.step r c hq)
  | swap a b rs =>
    have hab : b.Independent a := (List.pairwise_cons.mp hi).1 a List.mem_cons_self
    rw [run_cons, run_cons, run_cons, run_cons, (step_step_and_signals hq hab).1]
  | trans hp hp' ih ih' =>
    have hi' := (hp.pairwise_iff fun h => h.symm).mp hi
    exact (ih hi hq).trans (ih' hi' hq)

/-! ## Two requests -/

/-- Two requests commute from a state on. -/
structure Commutes (c : Controller) (a b : Request) : Prop where
  step_eq : (c.step a).step b = (c.step b).step a
  /-- Each request gives the result that it gives first. -/
  results_eq : (c.step b).results a = c.results a ∧ (c.step a).results b = c.results b
  /-- In both orders the same signals are delivered, as many times each. -/
  signals_perm :
    (c.signals a ++ (c.step a).signals b).Perm (c.signals b ++ (c.step b).signals a)

/-- **Requests about different facets commute.** A choice of the device or of its variant, of the
locale, of the version, of the theme and of clipping are about different facets. Taking over
resources is about themes and locales, so it commutes with the choices of the device, of the version
and of clipping. The order matters neither to the state, in every field of it, nor to the results,
be they failures, nor to the signals that are delivered, in rebuilds and outside. -/
theorem commutes_of_independent (h : Reachable c) (hi : a.Independent b) : c.Commutes a b := by
  have hq := quiet_of_reachable h
  obtain ⟨hstep, hsignals⟩ := step_step_and_signals hq hi
  refine ⟨hstep, ⟨?_, ?_⟩, hsignals⟩
  · exact results_congr (coherent_of_reachable (h.step b)) (coherent_of_reachable h)
      hi.isRebuild_eq_false (agreeFor_step hq hi)
  · exact results_congr (coherent_of_reachable (h.step a)) (coherent_of_reachable h)
      hi.symm.isRebuild_eq_false (agreeFor_step hq hi.symm)

/-- A device brings its own qualifiers, a typed locale stays beside them: both end up in effect,
whichever comes first. -/
theorem commutes_of_independent_device_and_locale :
    let c := (initial true []).run [.reloadDevices (deviceProvider [emptyDevice, doubledDevice])]
    let a : Request := .selectDevice 1
    let b : Request := .typeLocale "de_DE"
    a.Independent b ∧ c.signals a = [.notice .configuration] ∧
      ((c.step a).step b).resolver.current.orientation = some .portrait ∧
      ((c.step a).step b).resolver.current.language = some "de" ∧ c.Commutes a b := by
  intro c a b
  have hi : a.Independent b := Request.independent_of_group? rfl rfl (by decide)
  have hreachable : Reachable c := (Reachable.initial true []).run _
  exact ⟨hi, by decide +kernel, by decide +kernel, by decide +kernel,
    commutes_of_independent hreachable hi⟩

end Controller

end ConfigBar
