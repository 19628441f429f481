import ConfigBar.Proofs.Controller.Alike
import ConfigBar.Proofs.Resolver.History
import ConfigBar.Proofs.Resolver.Variants
/-!
# What single requests do

A request does something to the resolver, something to the lists and the buttons beside it, and it
tells the listener. Without the last, a single request comes to a function on states:

* `resolverOps` — the operations that the request performs on the resolver
* `beside` — what it does to everything else
* `alike_after` — both together are the state after the request, but for rebuilds and notices

Facts about what is shown follow from these by the cases of `beside` and the histories of resolvers;
no such proof asks what is told and when.
-/

namespace ConfigBar

namespace Controller

/-! ## What a request does -/

/-- The operations that a request performs on the resolver. A rebuild has none of its own. -/
def resolverOps (c : Controller) : Request → List Resolver.Op
  | .start p => [.reload p.devices, .applySelected]
  | .reloadDevices p => [.reload p.devices, .applySelected]
  | .selectDevice i =>
    if i < c.resolver.devices.length then [.selectDevice i, .applySelected] else []
  | .selectVariant name => [.applyVariant name]
  | .selectVariantAt i => [.applyVariantAt i]
  | .selectLocale i =>
    match c.locales.get? i with
    | some e =>
      if c.isRebuilding then [] else [.applyLocale (some e.languageQualifier) e.regionQualifier?]
    | none => []
  | .typeLocale text =>
    match Locale.parse text with
    | .ok l => [.applyLocale (some (.language l.language)) (l.region.map .region)]
    | .error _ => []
  | .setVersion version => [.applyVersion version]
  | _ => []

/-- Which operations on the resolver a request can perform. -/
inductive Operates : Request → Resolver.Op → Prop where
  | start (p : Provider) : Operates (.start p) (.reload p.devices)
  | startApply (p : Provider) : Operates (.start p) .applySelected
  | reload (p : Provider) : Operates (.reloadDevices p) (.reload p.devices)
  | reloadApply (p : Provider) : Operates (.reloadDevices p) .applySelected
  | selectDevice (i : Nat) : Operates (.selectDevice i) (.selectDevice i)
  | selectDeviceApply (i : Nat) : Operates (.selectDevice i) .applySelected
  | selectVariant (name : String) : Operates (.selectVariant name) (.applyVariant name)
  | selectVariantAt (i : Nat) : Operates (.selectVariantAt i) (.applyVariantAt i)
  | selectLocale (i : Nat) (language region : Option Qualifier) :
    Operates (.selectLocale i) (.applyLocale language region)
  | typeLocale (text : String) (language region : Option Qualifier) :
    Operates (.typeLocale text) (.applyLocale language region)
  | setVersion (version : Option UInt32) : Operates (.setVersion version) (.applyVersion version)

theorem operates_of_mem {c : Controller} {r : Request} {op : Resolver.Op}
    (h : op ∈ c.resolverOps r) : Operates r op := by
  -- the operations of a device come in pairs, all others alone
  cases r with
  | start p =>
    have hpair : op = .reload p.devices ∨ op = .applySelected := by simpa [resolverOps] using h
    rcases hpair with rfl | rfl
    · exact .start p
    · exact .startApply p
  | reloadDevices p =>
    have hpair : op = .reload p.devices ∨ op = .applySelected := by simpa [resolverOps] using h
    rcases hpair with rfl | rfl
    · exact .reload p
    · exact .reloadApply p
  | selectDevice i =>
    simp only [resolverOps] at h
    split at h
    · have hpair : op = .selectDevice i ∨ op = .applySelected := by simpa using h
      rcases hpair with rfl | rfl
      · exact .selectDevice i
      · exact .selectDeviceApply i
    · cases h
  | selectVariant name => cases List.mem_singleton.mp h; exact .selectVariant name
  | selectVariantAt i => cases List.mem_singleton.mp h; exact .selectVariantAt i
  | selectLocale i =>
    simp only [resolverOps] at h
    split at h
    · split at h
      · cases h
      · cases List.mem_singleton.mp h
        exact .selectLocale i _ _
    · cases h
  | typeLocale text =>
    simp only [resolverOps] at h
    split at h
    · cases List.mem_singleton.mp h
      exact .typeLocale text _ _
    · cases h
  | setVersion version => cases List.mem_singleton.mp h; exact .setVersion version
  | _ => cases h

/-- What a request does to the lists and the buttons beside the resolver. -/
def beside (c : Controller) : Request → Controller
  | .start p => (c.withThemes p).updateLocales p
  | .updateResources p => (c.withThemes p).updateLocales p
  | .selectLocale i =>
    if (c.locales.get? i).isSome && !c.isRebuilding then { c with localeIndex := some i } else c
  | .typeLocale text =>
    match Locale.parse text with
    | .ok l => { c with localeIndex := c.locales.position? (some l.language) l.region }
    | .error _ => c
  | .selectTheme i =>
    match c.themes.get? i with
    | some e => { c with themeIndex := some (if e.isSeparator then 0 else i) }
    | none => c
  | .setClipping on => if c.clippingSupported then { c with clipping := on } else c
  | .setClippingSupport supported =>
    { c with clippingSupported := supported, clipping := c.clipping || !supported }
  | .setCreateEnabled enabled => { c with createEnabled := enabled }
  | .setEditing config => { c with editingLabel := config.folder?.getD defaultLabel }
  | .setToggle i on =>
    match c.toggles[i]? with
    | some t => { c with toggles := c.toggles.set i { t with selected := on } }
    | none => c
  | _ => c

/-- The state after a single request, but for rebuilds and notices. -/
def after (c : Controller) (r : Request) : Controller :=
  { c.beside r with resolver := c.resolver.run (c.resolverOps r) }

/-! ## The state after a request -/

theorem alike_telling (c : Controller) (n : Notice) : Alike c (c.telling n).controller :=
  alike_tell c n

theorem alike_afterVariant (c : Controller) (resolver : Resolver)
    (result : Except SelectionError (Resolver × Bool)) :
    Alike { c with resolver := resolver.afterApplying result }
      (afterVariant { c with resolver } result).controller := by
  match result with
  | .error _ => exact .refl _
  | .ok (next, true) => exact alike_telling { c with resolver := next } .configuration
  | .ok (next, false) => exact .refl _

theorem alike_applyDevice (c : Controller) (resolver : Resolver) :
    Alike { c with resolver := resolver.step .applySelected }
      (applyDevice { c with resolver }).controller := by
  rw [Resolver.step_applySelected]
  exact alike_afterVariant c resolver resolver.applySelected

theorem alike_reloadDevices (c : Controller) (p : Provider) :
    Alike { c with resolver := c.resolver.run [.reload p.devices, .applySelected] }
      (c.reloadDevices p).controller := by
  rw [Resolver.run_cons, Resolver.run_cons, Resolver.run_nil, Resolver.step_reload]
  have hcases := c.resolver.reload_cases p.devices
  unfold reloadDevices
  revert hcases
  cases c.resolver.reload p.devices with
  | mk resolver selection =>
    rintro (⟨i, name, rfl⟩ | ⟨rfl, hv⟩)
    · exact alike_applyDevice c resolver
    · rw [Resolver.step_applySelected, Resolver.applySelected_of_variantIndex hv]
      exact .refl _

theorem alike_selectDevice (c : Controller) (i : Nat) :
    Alike (c.after (.selectDevice i)) (c.selectDevice i).controller := by
  show Alike { c with resolver := c.resolver.run (c.resolverOps (.selectDevice i)) } _
  simp only [selectDevice, resolverOps, Resolver.selectDevice]
  by_cases hi : i < c.resolver.devices.length
  · rw [if_pos hi, Resolver.run_cons, Resolver.run_cons, Resolver.run_nil,
      Resolver.step_selectDevice]
    simp only [List.getElem?_eq_getElem hi, Resolver.selectDevice]
    exact alike_applyDevice c _
  · rw [if_neg hi, Resolver.run_nil]
    simp only [List.getElem?_eq_none (Nat.le_of_not_lt hi)]
    exact .refl _

theorem alike_start (c : Controller) (p : Provider) :
    Alike (c.after (.start p)) (c.start p).controller := by
  have hresources := alike_updateResources c p
  have hreload := alike_reloadDevices (c.updateResources p).1 p
  refine Alike.trans ?_ hreload
  rw [resolver_updateResources]
  exact hresources.withResolver _

/-- **A single request does what `after` says**, and counts rebuilds and keeps notices. -/
theorem alike_after (c : Controller) {r : Request} (hr : r.isRebuild = false) :
    Alike (c.after r) (c.step r) := by
  unfold step
  cases r with
  | start p => exact alike_start c p
  | updateResources p => exact alike_updateResources c p
  | reloadDevices p => exact alike_reloadDevices c p
  | selectDevice i => exact alike_selectDevice c i
  | selectVariant name =>
    have happly := alike_afterVariant c c.resolver (c.resolver.applyVariant name)
    rw [← Resolver.step_applyVariant] at happly
    exact happly
  | selectVariantAt i =>
    have happly := alike_afterVariant c c.resolver (c.resolver.applyVariantAt i)
    rw [← Resolver.step_applyVariantAt] at happly
    exact happly
  | selectLocale i =>
    show Alike _ (c.selectLocale i).controller
    simp only [selectLocale, after, beside, resolverOps]
    cases c.locales.get? i with
    | none => exact .refl _
    | some e =>
      cases c.isRebuilding with
      | true => exact .refl _
      | false => exact alike_telling _ _
  | typeLocale text =>
    show Alike _ (c.typeLocale text).controller
    simp only [typeLocale, after, beside, resolverOps]
    cases Locale.parse text with
    | error e => exact .refl _
    | ok l => exact alike_telling _ _
  | setVersion version => exact alike_telling _ _
  | selectTheme i =>
    show Alike _ (c.selectTheme i).controller
    simp only [selectTheme, after, beside, resolverOps]
    cases c.themes.get? i with
    | none => exact .refl _
    | some e => exact alike_telling _ _
  | setClipping on =>
    show Alike _ (c.setClipping on).controller
    simp only [setClipping, after, beside, resolverOps]
    cases c.clippingSupported with
    | true => exact alike_telling _ _
    | false => exact .refl _
  | setClippingSupport supported => exact .refl _
  | setCreateEnabled enabled => exact .refl _
  | requestCreate =>
    show Alike _ c.requestCreate.controller
    unfold requestCreate
    cases c.createEnabled with
    | true => exact alike_telling _ _
    | false => exact .refl _
  | setEditing config => exact .refl _
  | setToggle i on =>
    show Alike _ (c.setToggle i on).controller
    simp only [setToggle, after, beside, resolverOps]
    cases c.toggles[i]? with
    | none => exact .refl _
    | some t => exact .refl _
  | rebuild body broken => cases hr

/-- What a single request makes of the resolver. -/
theorem resolver_step {c : Controller} {r : Request} (hr : r.isRebuild = false) :
    (c.step r).resolver = c.resolver.run (c.resolverOps r) :=
  (alike_after c hr).resolver_eq

end Controller

end ConfigBar
