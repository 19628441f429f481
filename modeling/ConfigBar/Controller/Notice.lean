import ConfigBar.Order.SortedSet
/-!
# Notices

What the controller tells its listener. Notices are ordered as they are delivered at the end of a
rebuild; callbacks of custom toggles are signals too, but never wait.
-/

namespace ConfigBar

/-- Something that a listener is told. -/
inductive Notice where
  | configuration
  | theme
  | create
  | clipping
  deriving DecidableEq, Repr

namespace Notice

/-- The place of a notice in the order of delivery. -/
def index : Notice → Nat
  | configuration => 0
  | theme => 1
  | create => 2
  | clipping => 3

/-- The name of a notice in log records. -/
def name : Notice → String
  | configuration => "ConfigurationChange"
  | theme => "ThemeChange"
  | create => "Create"
  | clipping => "ClippingChange"

theorem index_injective {a b : Notice} (h : a.index = b.index) : a = b := by
  cases a <;> cases b <;> first | rfl | cases h

instance : Ord Notice := ⟨compareOn index⟩

instance : Std.TransOrd Notice := inferInstanceAs (Std.TransCmp (compareOn index))

instance : Std.LawfulEqOrd Notice where
  eq_of_compare h := index_injective (Std.LawfulEqOrd.eq_of_compare (α := Nat) h)
  compare_self := Std.ReflOrd.compare_self (α := Nat)

end Notice

/-- What reaches the host: a notice for the listener, or the callback of a toggle. -/
inductive Signal where
  | notice (notice : Notice)
  | toggled (index : Nat) (on : Bool)
  deriving DecidableEq, Repr

end ConfigBar
