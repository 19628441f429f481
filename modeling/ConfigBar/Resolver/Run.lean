import ConfigBar.Resolver.Basic
/-!
# Runs of the resolver

The operations as a type, and the states that a resolver goes through when a list of them is
performed. A failed operation leaves the state as it is.
-/

namespace ConfigBar.Resolver

/-- An operation on a resolver. -/
inductive Op where
  | selectDevice (index : Nat)
  | reload (devices : List Device)
  | applySelected
  | applyVariant (name : String)
  | applyVariantAt (index : Nat)
  | applyLocale (language region : Option Qualifier)
  | applyVersion (version : Option UInt32)
  deriving DecidableEq, Repr

/-- What an operation answers. -/
inductive Reply where
  | done
  | applied (changed : Bool)
  | device (selection : DeviceSelection)
  /-- The catalog is empty. -/
  | noDevice
  deriving DecidableEq, Repr

/-- Performs one operation. -/
def perform (r : Resolver) : Op → Except SelectionError (Resolver × Reply)
  | .selectDevice i => .ok ((r.selectDevice i).map id .device)
  | .reload devices => .ok ((r.reload devices).map id fun s => s.elim .noDevice .device)
  | .applySelected => r.applySelected.map fun p => p.map id .applied
  | .applyVariant name => (r.applyVariant name).map fun p => p.map id .applied
  | .applyVariantAt i => (r.applyVariantAt i).map fun p => p.map id .applied
  | .applyLocale language region => .ok (r.applyLocale language region, .done)
  | .applyVersion version => .ok (r.applyVersion version, .done)

/-- The state after an operation. -/
def step (r : Resolver) (op : Op) : Resolver :=
  match r.perform op with
  | .ok (next, _) => next
  | .error _ => r

/-- The state after a list of operations. -/
def run (r : Resolver) (ops : List Op) : Resolver := ops.foldl step r

end ConfigBar.Resolver
