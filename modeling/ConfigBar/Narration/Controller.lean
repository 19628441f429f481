import ConfigBar.Narration.Theme
import ConfigBar.Controller.Run
import ConfigBar.Text.Quoted
/-!
# What the controller tells the log

For each request, the records of what performing it does from a given state, in order. The records
follow from the state and the request alone; performing the request is left to
`Controller.perform`.
-/

namespace ConfigBar

namespace Resolver

/-- A record of the resolver. -/
def record (level : LogLevel) (message : String) (values : List (String × LogValue)) : LogRecord :=
  ⟨level, "layoutcfg_core::resolver", message, values⟩

/-- What selecting a device tells. -/
def narrateDevice (r : Resolver) (i : Nat) : List LogRecord :=
  match r.devices[i]? with
  | none => [record .debug "custom device slot selected" [("index", .number i)]]
  | some d =>
    [record .debug "device selected"
      [("device", .shown d.name), ("configs", .number d.variants.length)]]

/-- What taking over a catalog tells. -/
def narrateReload (r : Resolver) (devices : List Device) : List LogRecord :=
  record .info "device catalog loaded" [("count", .number devices.length)] ::
    if devices.isEmpty then []
    else narrateDevice { r with devices } (r.indexAfterReload devices)

/-- What applying a variant tells. -/
def narrateVariant (r : Resolver) (name : String) : List LogRecord :=
  match r.device?, r.applyVariant name with
  | some d, .error _ =>
    [record .error "unknown device config" [("device", .shown d.name), ("config", .text name)]]
  | some _, .ok (next, _) =>
    [record .debug "device config applied"
      [("config", .text name), ("current", .shown (Text.quotedOption next.current.folder?))]]
  | none, _ => []

/-- What applying the selected variant tells. -/
def narrateSelected (r : Resolver) : List LogRecord := r.variant?.elim [] r.narrateVariant

end Resolver

namespace Controller

/-- A record of the controller. -/
def record (level : LogLevel) (message : String) (values : List (String × LogValue)) : LogRecord :=
  ⟨level, "layoutcfg_core::controller", message, values⟩

/-- What delivering notices tells: without a listener they are dropped. -/
def narrateDelivery (c : Controller) (notices : List Notice) : List LogRecord :=
  if c.listening then []
  else notices.map fun n =>
    record .debug "no listener, notification dropped" [("event", .shown n.name)]

/-- What a notice tells. -/
def narrateNotice (c : Controller) (notice : Notice) : List LogRecord :=
  if c.isRebuilding then [] else c.narrateDelivery [notice]

/-- What closing the innermost rebuild tells. -/
def narrateClose (c : Controller) (broken : Bool) : List LogRecord :=
  if 1 < c.depth then []
  else if broken then
    [record .warn "rebuild unwound, pending notifications dropped"
      [("dropped", .number c.pending.toList.length)]]
  else c.narrateDelivery c.pending.toList

/-- What taking over the resources of a provider tells. -/
def narrateResources (c : Controller) (p : Provider) : List LogRecord :=
  let inner := (c.enter.updateThemes p).1.updateLocales p
  ThemeList.narrate p.frameworkStyles p.projectStyles ++
    record .info "resources reloaded"
      [("themes", .number inner.themes.size), ("locales", .number inner.locales.size)] ::
    inner.narrateClose false

/-- What the outcome of applying a variant tells. -/
def narrateApplied (c : Controller) (result : Except SelectionError (Resolver × Bool)) :
    List LogRecord :=
  match result with
  | .ok (_, true) => c.narrateNotice .configuration
  | _ => []

/-- What applying the selected variant tells. -/
def narrateApply (c : Controller) : List LogRecord :=
  c.resolver.narrateSelected ++ c.narrateApplied c.resolver.applySelected

/-- What taking over the devices of a provider tells. -/
def narrateDevices (c : Controller) (p : Provider) : List LogRecord :=
  c.resolver.narrateReload p.devices ++
    match c.resolver.reload p.devices with
    | (resolver, some (.selected _ _)) => narrateApply { c with resolver }
    | _ => []

mutual

/-- What a request tells. -/
def narrate (c : Controller) : Request → List LogRecord
  | .start p => c.narrateResources p ++ (c.updateResources p).1.narrateDevices p
  | .updateResources p => c.narrateResources p
  | .reloadDevices p => c.narrateDevices p
  | .selectDevice i =>
    c.resolver.narrateDevice i ++
      match c.resolver.selectDevice i with
      | (_, .custom) => []
      | (resolver, _) => narrateApply { c with resolver }
  | .selectVariant name =>
    c.resolver.narrateVariant name ++ c.narrateApplied (c.resolver.applyVariant name)
  | .selectVariantAt i =>
    c.resolver.variantNames[i]?.elim [] c.resolver.narrateVariant ++
      c.narrateApplied (c.resolver.applyVariantAt i)
  | .selectLocale i =>
    if (c.locales.get? i).isNone then []
    else if c.isRebuilding then
      [record .debug "locale selection ignored during rebuild" [("index", .number i)]]
    else c.narrateNotice .configuration
  | .typeLocale text =>
    match Locale.parse text with
    | .ok _ => c.narrateNotice .configuration
    | .error _ => []
  | .setVersion _ => c.narrateNotice .configuration
  | .selectTheme i => if (c.themes.get? i).isNone then [] else c.narrateNotice .theme
  | .setClipping _ =>
    if c.clippingSupported then c.narrateNotice .clipping
    else
      [record .warn "clipping cannot be changed, unclipped rendering is not supported" []]
  | .requestCreate => if c.createEnabled then c.narrateNotice .create else []
  | .setClippingSupport _ => []
  | .setCreateEnabled _ => []
  | .setEditing _ => []
  | .setToggle _ _ => []
  | .rebuild body broken =>
    c.enter.narrateAll body ++ (c.enter.run body).narrateClose broken

/-- What requests tell one after another. -/
def narrateAll (c : Controller) : List Request → List LogRecord
  | [] => []
  | r :: rs => c.narrate r ++ (c.step r).narrateAll rs

end

end Controller

end ConfigBar
