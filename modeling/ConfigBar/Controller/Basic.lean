import ConfigBar.Controller.Notice
import ConfigBar.Controller.Provider
import ConfigBar.Controller.Toggle
import ConfigBar.Resolver.Screen
import ConfigBar.Theme.List
import ConfigBar.Qualifier.Folder
/-!
# The controller

The controller of the configuration bar holds a resolver, the lists of themes and locales with the
selected entries, and the state of the buttons. An operation leads to an `Outcome`: the next state,
the signals that reach the host on the way, and the answer.

Notices go through `tell`. Inside a rebuild they are held back, each kind once; `close` delivers
them when the outermost rebuild ends and drops them if it was broken off. The callbacks of toggles
never wait.
-/

namespace ConfigBar

/-- Why a request to the controller fails. -/
inductive ControllerError where
  | selection (cause : SelectionError)
  | locale (cause : InvalidLocale)
  deriving DecidableEq, Repr

/-- The text of the error. -/
def ControllerError.message : ControllerError → String
  | selection cause => cause.message
  | locale cause => cause.message

/-- The label of a configuration without qualifiers. -/
def defaultLabel : String := "(Default)"

/-- The state of the controller. -/
structure Controller where
  resolver : Resolver
  themes : ThemeList
  themeIndex : Option Nat
  locales : LocaleCatalog
  localeIndex : Option Nat
  /-- Is the layout clipped to the screen? -/
  clipping : Bool
  /-- Can the layout be rendered without clipping? -/
  clippingSupported : Bool
  createEnabled : Bool
  /-- The label of the configuration of the edited file. -/
  editingLabel : String
  toggles : List Toggle
  /-- Is there a listener? -/
  listening : Bool
  /-- How many rebuilds are open. -/
  depth : Nat
  /-- The notices that wait for the end of the outermost rebuild. -/
  pending : SortedSet Notice
  deriving DecidableEq

/-- What an operation leads to. -/
structure Outcome (α : Type) where
  controller : Controller
  signals : List Signal
  result : Except ControllerError α

namespace Controller

/-- A controller without resources and devices. -/
def initial (listening : Bool) (toggles : List Toggle) : Controller where
  resolver := .initial
  themes := ∅
  themeIndex := none
  locales := .ofProject none
  localeIndex := none
  clipping := true
  clippingSupported := true
  createEnabled := false
  editingLabel := defaultLabel
  toggles := toggles
  listening := listening
  depth := 0
  pending := ∅

/-! ## What is shown -/

/-- Is a rebuild open? -/
def isRebuilding (c : Controller) : Bool := 0 < c.depth

/-- The name of the selected theme. -/
def theme? (c : Controller) : Option String :=
  (c.themeIndex.bind c.themes.get?).map ThemeEntry.label

/-- Does the selected theme come from the project? -/
def isProjectTheme (c : Controller) : Bool := c.themeIndex.any c.themes.isProjectTheme

/-- Is there a theme to choose? -/
def offersThemes (c : Controller) : Bool := !c.themes.isEmpty

/-- The tooltip of the button for clipping. -/
def clippingTooltip (c : Controller) : String :=
  if c.clippingSupported then "Toggles screen clipping on/off"
  else "Non clipped rendering is not supported"

/-! ## Notices and rebuilds -/

/-- Hands notices to the listener, if there is one. -/
def deliver (c : Controller) (notices : List Notice) : List Signal :=
  if c.listening then notices.map .notice else []

/-- Tells the listener of a change, at once or when the rebuild ends. -/
def tell (c : Controller) (notice : Notice) : Controller × List Signal :=
  if c.isRebuilding then ({ c with pending := c.pending.insert notice }, [])
  else (c, c.deliver [notice])

/-- Opens a rebuild. -/
def enter (c : Controller) : Controller := { c with depth := c.depth + 1 }

/-- Closes the innermost rebuild. The end of the outermost one delivers the notices that wait, in
their order, or drops them if it was broken off. -/
def close (c : Controller) (broken : Bool) : Controller × List Signal :=
  let outer := { c with depth := c.depth - 1 }
  if outer.isRebuilding then (outer, [])
  else ({ outer with pending := ∅ }, if broken then [] else outer.deliver outer.pending.toList)

/-- The outcome of an operation that changes the state and tells the listener. -/
def telling (c : Controller) (notice : Notice) : Outcome Unit :=
  let (next, signals) := c.tell notice
  ⟨next, signals, .ok ()⟩

/-- The outcome of an operation that tells nothing. -/
def silently (c : Controller) : Outcome Unit := ⟨c, [], .ok ()⟩

/-- The outcome of an operation that fails. -/
def failing {α : Type} (c : Controller) (e : ControllerError) : Outcome α := ⟨c, [], .error e⟩

/-! ## Resources -/

/-- Takes over the themes of a provider. A theme of another name in the selection is a change. -/
def updateThemes (c : Controller) (p : Provider) : Controller × List Signal :=
  let themes := ThemeList.ofStyles p.frameworkStyles p.projectStyles
  let next := { c with themes := themes, themeIndex := themes.restore c.themeIndex }
  if next.theme? = c.theme? then (next, []) else next.tell .theme

/-- Takes over the locales of a provider and finds the effective locale among them. -/
def updateLocales (c : Controller) (p : Provider) : Controller :=
  let locales := LocaleCatalog.ofProject p.project
  let current := c.resolver.current
  { c with locales := locales, localeIndex := locales.position? current.language current.region }

/-- Takes over the themes and the locales of a provider, in a rebuild of its own. -/
def updateResources (c : Controller) (p : Provider) : Controller × List Signal :=
  let (c, first) := c.enter.updateThemes p
  let (c, last) := (c.updateLocales p).close false
  (c, first ++ last)

/-! ## Devices and variants -/

/-- Goes on with what an operation of the resolver answers: a change of the effective configuration
is told. -/
def afterVariant (c : Controller) (result : Except SelectionError (Resolver × Bool)) :
    Outcome Unit :=
  match result with
  | .error e => c.failing (.selection e)
  | .ok (resolver, true) => telling { c with resolver } .configuration
  | .ok (resolver, false) => silently { c with resolver }

/-- Applies the selected variant. -/
def applyDevice (c : Controller) : Outcome Unit := c.afterVariant c.resolver.applySelected

/-- Takes over the devices of a provider and applies the variant that is then selected. -/
def reloadDevices (c : Controller) (p : Provider) : Outcome Unit :=
  match c.resolver.reload p.devices with
  | (resolver, some (.selected _ _)) => applyDevice { c with resolver }
  | (resolver, _) => silently { c with resolver }

/-- Takes over everything of a provider. -/
def start (c : Controller) (p : Provider) : Outcome Unit :=
  let (c, first) := c.updateResources p
  let last := c.reloadDevices p
  { last with signals := first ++ last.signals }

/-- Selects the device at an index and applies its first variant. -/
def selectDevice (c : Controller) (i : Nat) : Outcome DeviceSelection :=
  match c.resolver.selectDevice i with
  | (resolver, .custom) => ⟨{ c with resolver }, [], .ok .custom⟩
  | (resolver, selection) =>
    let applied := applyDevice { c with resolver }
    { applied with result := applied.result.map fun _ => selection }

/-- Applies the variant with a name. -/
def selectVariant (c : Controller) (name : String) : Outcome Unit :=
  c.afterVariant (c.resolver.applyVariant name)

/-- Applies the variant at an index. -/
def selectVariantAt (c : Controller) (i : Nat) : Outcome Unit :=
  c.afterVariant (c.resolver.applyVariantAt i)

/-! ## Locale, version and theme -/

/-- Applies the locale at an index. A rebuild ignores it, since filling a list selects entries. -/
def selectLocale (c : Controller) (i : Nat) : Outcome Unit :=
  match c.locales.get? i with
  | none => c.failing (.selection (.outOfRange "locale" i c.locales.size))
  | some entry =>
    if c.isRebuilding then c.silently
    else
      let resolver := c.resolver.applyLocale (some entry.languageQualifier) entry.regionQualifier?
      telling { c with resolver, localeIndex := some i } .configuration

/-- Applies a locale that is typed and need not be in the list. -/
def typeLocale (c : Controller) (text : String) : Outcome Unit :=
  match Locale.parse text with
  | .error e => c.failing (.locale e)
  | .ok l =>
    let resolver := c.resolver.applyLocale (some (.language l.language)) (l.region.map .region)
    telling { c with resolver, localeIndex := c.locales.position? (some l.language) l.region }
      .configuration

/-- Sets or clears the version of the platform. -/
def setVersion (c : Controller) (version : Option UInt32) : Outcome Unit :=
  telling { c with resolver := c.resolver.applyVersion version } .configuration

/-- Selects the theme at an index; the separator stands for the first theme. -/
def selectTheme (c : Controller) (i : Nat) : Outcome Unit :=
  match c.themes.get? i with
  | none => c.failing (.selection (.outOfRange "theme" i c.themes.size))
  | some entry => telling { c with themeIndex := some (if entry.isSeparator then 0 else i) } .theme

/-! ## Buttons -/

/-- Switches clipping, unless the layout can only be rendered clipped. -/
def setClipping (c : Controller) (on : Bool) : Outcome Unit :=
  if c.clippingSupported then telling { c with clipping := on } .clipping else c.silently

/-- Says whether the layout can be rendered without clipping. If not, it is clipped. -/
def setClippingSupport (c : Controller) (supported : Bool) : Outcome Unit :=
  silently { c with clippingSupported := supported, clipping := c.clipping || !supported }

/-- Enables or disables the button for creating a device. -/
def setCreateEnabled (c : Controller) (enabled : Bool) : Outcome Unit :=
  silently { c with createEnabled := enabled }

/-- Forwards the request to create a device, if it is enabled. -/
def requestCreate (c : Controller) : Outcome Bool :=
  if c.createEnabled then
    let told := c.telling .create
    { told with result := .ok true }
  else ⟨c, [], .ok false⟩

/-- Shows the configuration of the edited file. -/
def setEditing (c : Controller) (config : QualifierSet) : Outcome Unit :=
  silently { c with editingLabel := config.folder?.getD defaultLabel }

/-- Switches the toggle at an index and calls it back. -/
def setToggle (c : Controller) (i : Nat) (on : Bool) : Outcome Unit :=
  match c.toggles[i]? with
  | none => c.failing (.selection (.outOfRange "toggle" i c.toggles.length))
  | some t =>
    ⟨{ c with toggles := c.toggles.set i { t with selected := on } }, [.toggled i on], .ok ()⟩

end Controller

end ConfigBar
