import ConfigBar.Controller.Basic
/-!
# Runs of the controller

The operations of the controller as a type. A rebuild is a request that holds other requests, so a
program of nested rebuilds is a tree; it is performed by structural recursion, and what it answers
is a tree of the same shape. A rebuild that breaks off performs its requests, but its end drops the
notices that wait.
-/

namespace ConfigBar

/-- A request to the controller. -/
inductive Request where
  | start (provider : Provider)
  | updateResources (provider : Provider)
  | reloadDevices (provider : Provider)
  | selectDevice (index : Nat)
  | selectVariant (name : String)
  | selectVariantAt (index : Nat)
  | selectLocale (index : Nat)
  | typeLocale (text : String)
  | setVersion (version : Option UInt32)
  | selectTheme (index : Nat)
  | setClipping (on : Bool)
  | setClippingSupport (supported : Bool)
  | setCreateEnabled (enabled : Bool)
  | requestCreate
  | setEditing (config : QualifierSet)
  | setToggle (index : Nat) (on : Bool)
  /-- Performs a list of requests in a rebuild, which ends or breaks off after them. -/
  | rebuild (body : List Request) (broken : Bool)

/-- What a request answers if it succeeds. -/
inductive Reply where
  | done
  | device (selection : DeviceSelection)
  /-- Was the request forwarded? -/
  | forwarded (accepted : Bool)
  deriving DecidableEq, Repr

/-- The answer to a request, with the signals since the answer before and the state after it. -/
inductive Answer where
  | single (result : Except ControllerError Reply) (signals : List Signal) (after : Controller)
  /-- The answers to the requests in a rebuild come before its own signals. -/
  | rebuilt (body : List Answer) (signals : List Signal) (after : Controller)

namespace Outcome

/-- The outcome as an answer. -/
def answer {α : Type} (o : Outcome α) (reply : α → Reply) : Controller × Answer :=
  (o.controller, .single (o.result.map reply) o.signals o.controller)

end Outcome

namespace Controller

mutual

/-- Performs a request. -/
def perform (c : Controller) : Request → Controller × Answer
  | .start p => (c.start p).answer fun _ => .done
  | .updateResources p =>
    let (next, signals) := c.updateResources p
    (next, .single (.ok .done) signals next)
  | .reloadDevices p => (c.reloadDevices p).answer fun _ => .done
  | .selectDevice i => (c.selectDevice i).answer .device
  | .selectVariant name => (c.selectVariant name).answer fun _ => .done
  | .selectVariantAt i => (c.selectVariantAt i).answer fun _ => .done
  | .selectLocale i => (c.selectLocale i).answer fun _ => .done
  | .typeLocale text => (c.typeLocale text).answer fun _ => .done
  | .setVersion version => (c.setVersion version).answer fun _ => .done
  | .selectTheme i => (c.selectTheme i).answer fun _ => .done
  | .setClipping on => (c.setClipping on).answer fun _ => .done
  | .setClippingSupport supported => (c.setClippingSupport supported).answer fun _ => .done
  | .setCreateEnabled enabled => (c.setCreateEnabled enabled).answer fun _ => .done
  | .requestCreate => c.requestCreate.answer .forwarded
  | .setEditing config => (c.setEditing config).answer fun _ => .done
  | .setToggle i on => (c.setToggle i on).answer fun _ => .done
  | .rebuild body broken =>
    let (inner, answers) := c.enter.performAll body
    let (next, signals) := inner.close broken
    (next, .rebuilt answers signals next)

/-- Performs requests one after another. -/
def performAll (c : Controller) : List Request → Controller × List Answer
  | [] => (c, [])
  | r :: rs =>
    let (next, answer) := c.perform r
    let (last, answers) := next.performAll rs
    (last, answer :: answers)

end

/-- The state after a request. -/
def step (c : Controller) (r : Request) : Controller := (c.perform r).1

/-- The state after a list of requests. -/
def run (c : Controller) (rs : List Request) : Controller := (c.performAll rs).1

theorem run_nil (c : Controller) : c.run [] = c := by simp [run, performAll]

theorem run_cons (c : Controller) (r : Request) (rs : List Request) :
    c.run (r :: rs) = (c.step r).run rs := by simp [run, step, performAll]

end Controller

mutual

/-- The signals of an answer in their order. -/
def Answer.allSignals : Answer → List Signal
  | .single _ signals _ => signals
  | .rebuilt body signals _ => Answer.signalsOf body ++ signals

/-- The signals of a list of answers in their order. -/
def Answer.signalsOf : List Answer → List Signal
  | [] => []
  | a :: as => a.allSignals ++ Answer.signalsOf as

end

end ConfigBar
