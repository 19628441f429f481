import ConfigBar.Resolver.Basic
/-!
# The screen of the effective configuration

The density, the dots per inch and the bounds with which a layout is rendered. What the effective
set does not say has a default: medium density, portrait, 480 by 320.
-/

namespace ConfigBar

open ConfigBar.Number (Single)

/-- The size of the rendered screen in pixels. -/
structure Bounds where
  width : UInt32
  height : UInt32
  deriving DecidableEq, Repr

/-- The density of a configuration. Bitmaps that are not scaled have medium density. -/
def QualifierSet.screenDensity (s : QualifierSet) : Density :=
  match s.density with
  | some .low => .low
  | some .high => .high
  | _ => .medium

/-- The bounds of the screen: the second size is the width in portrait, the first one in landscape,
and a square has the first size twice. -/
def QualifierSet.bounds (s : QualifierSet) : Bounds :=
  let d := s.dimension.getD .default
  match s.orientation.getD .portrait with
  | .portrait => ⟨d.size2, d.size1⟩
  | .landscape => ⟨d.size1, d.size2⟩
  | .square => ⟨d.size1, d.size1⟩

namespace Resolver

/-- The density of the effective configuration. -/
def density (r : Resolver) : Density := r.current.screenDensity

/-- The nominal dots per inch of the density. -/
def nominalDpi (r : Resolver) : Single := .ofNat r.density.dotsPerInch

/-- The horizontal dots per inch: those of the device, else the nominal ones. -/
def xdpi (r : Resolver) : Single := (r.device?.bind Device.finiteXdpi).getD r.nominalDpi

/-- The vertical dots per inch: those of the device, else the nominal ones. -/
def ydpi (r : Resolver) : Single := (r.device?.bind Device.finiteYdpi).getD r.nominalDpi

/-- The bounds of the screen. -/
def bounds (r : Resolver) : Bounds := r.current.bounds

end Resolver

end ConfigBar
