import ConfigBar.Controller.Run
/-!
# Selections

A selection says what is to be chosen in a configuration bar: a device, a variant, a locale, a
version, a theme and clipping, each only if it is given. The choices are made in this order, and
each becomes a request to the controller; the first one that cannot be made ends the selection.
-/

namespace ConfigBar

/-- What is to be chosen. -/
structure Selection where
  device : Option String
  variant : Option String
  /-- The label of a locale in the list, or else the text of a locale. -/
  locale : Option String
  theme : Option String
  version : Option UInt32
  clipping : Option Bool
  deriving DecidableEq, Repr

/-- One thing that is to be chosen. -/
inductive Choice where
  | device (name : String)
  | variant (name : String)
  | locale (text : String)
  | version (level : UInt32)
  | theme (name : String)
  | clipping (on : Bool)
  deriving DecidableEq, Repr

/-- Why a selection cannot be made. -/
inductive SelectionFault where
  /-- The controller refuses the resources. -/
  | start (cause : ControllerError)
  | unknownDevice (name : String)
  | unknownTheme (name : String)
  /-- The controller refuses a choice. -/
  | refused (choice : Choice) (cause : ControllerError)
  deriving DecidableEq, Repr

/-- What was being done when a choice was refused. -/
def Choice.context? : Choice → Option String
  | device name => some ("select device " ++ name)
  | variant name => some ("select config " ++ name)
  | locale text => some ("parse locale " ++ text)
  | _ => none

/-- The text of a fault. -/
def SelectionFault.message : SelectionFault → String
  | start cause => "initialize configuration: " ++ cause.message
  | unknownDevice name => "unknown device: " ++ name
  | unknownTheme name => "unknown theme: " ++ name
  | refused choice cause =>
    match choice.context? with
    | some context => context ++ ": " ++ cause.message
    | none => cause.message

namespace Selection

/-- The selection of nothing. -/
def none : Selection := ⟨.none, .none, .none, .none, .none, .none⟩

/-- The choices in their order. -/
def choices (s : Selection) : List Choice :=
  (s.device.map Choice.device).toList ++ (s.variant.map Choice.variant).toList ++
    (s.locale.map Choice.locale).toList ++ (s.version.map Choice.version).toList ++
    (s.theme.map Choice.theme).toList ++ (s.clipping.map Choice.clipping).toList

end Selection

/-- The request that makes a choice. -/
def Choice.request (c : Controller) : Choice → Except SelectionFault Request
  | device name =>
    match c.resolver.deviceNames.findIdx? (· == name) with
    | some i => .ok (.selectDevice i)
    | none => .error (.unknownDevice name)
  | variant name => .ok (.selectVariant name)
  | locale text =>
    match c.locales.labels.findIdx? (· == text) with
    | some i => .ok (.selectLocale i)
    | none => .ok (.typeLocale text)
  | version level => .ok (.setVersion (some level))
  | theme name =>
    match c.themes.position? name with
    | some i => .ok (.selectTheme i)
    | none => .error (.unknownTheme name)
  | clipping on => .ok (.setClipping on)

namespace Controller

/-- The state after a request that succeeds. -/
def attempt (c : Controller) (r : Request) : Except ControllerError Controller :=
  match c.perform r with
  | (_, .single (.error e) _ _) => .error e
  | (next, _) => .ok next

/-- Makes a choice. -/
def choose (c : Controller) (choice : Choice) : Except SelectionFault Controller :=
  match choice.request c with
  | .error fault => .error fault
  | .ok r => (c.attempt r).mapError (.refused choice)

/-- Makes choices one after another. -/
def chooseAll (c : Controller) : List Choice → Except SelectionFault Controller
  | [] => .ok c
  | choice :: rest =>
    match c.choose choice with
    | .error fault => .error fault
    | .ok next => next.chooseAll rest

/-- The requests by which choices are made, each with the state before it, up to the first choice
that cannot become a request or is refused. -/
def trail (c : Controller) : List Choice → List (Controller × Request)
  | [] => []
  | choice :: rest =>
    match choice.request c with
    | .error _ => []
    | .ok r =>
      match c.attempt r with
      | .error _ => [(c, r)]
      | .ok next => (c, r) :: next.trail rest

/-- The controller without a listener and without toggles that takes over a provider. -/
def ofProvider (p : Provider) : Except SelectionFault Controller :=
  ((initial false []).attempt (.start p)).mapError .start

/-- The controller after a selection from the resources of a provider. -/
def select (p : Provider) (s : Selection) : Except SelectionFault Controller :=
  match ofProvider p with
  | .error fault => .error fault
  | .ok c => c.chooseAll s.choices

end Controller

end ConfigBar
