import ConfigBar.Resolver.Screen
/-!
# The screen case by case

What the density, the bounds and the dots per inch of a screen are, apart from the functions that
compute them: by what the configuration names, and by what holds where it names nothing.

* `hasDensity_screenDensity` — low and high density as they are named, else medium
* `hasBounds_bounds` — the two sizes as the orientation turns them
* `hasDpi_getD` — the dots per inch of the device if they are finite, else those of the density
-/

namespace ConfigBar

open ConfigBar.Number (Single)

/-! ## Density -/

/-- The density of a screen, by the density that the configuration names. -/
inductive HasDensity : Option Density → Density → Prop where
  | low : HasDensity (some .low) .low
  | medium : HasDensity (some .medium) .medium
  | high : HasDensity (some .high) .high
  | unscaled : HasDensity (some .none) .medium
  | unnamed : HasDensity none .medium

theorem hasDensity_screenDensity (s : QualifierSet) : HasDensity s.density s.screenDensity := by
  unfold QualifierSet.screenDensity
  cases s.density with
  | none => exact .unnamed
  | some density =>
    cases density with
    | low => exact .low
    | medium => exact .medium
    | high => exact .high
    | none => exact .unscaled

/-! ## Bounds -/

/-- The bounds of a screen with a dimension, by the orientation that the configuration names. -/
inductive HasBounds (d : Dimension) : Option Orientation → Bounds → Prop where
  | portrait : HasBounds d (some .portrait) ⟨d.size2, d.size1⟩
  | landscape : HasBounds d (some .landscape) ⟨d.size1, d.size2⟩
  | square : HasBounds d (some .square) ⟨d.size1, d.size1⟩
  | unnamed : HasBounds d none ⟨d.size2, d.size1⟩

theorem hasBounds_bounds (s : QualifierSet) :
    HasBounds (s.dimension.getD ⟨480, 320⟩) s.orientation s.bounds := by
  unfold QualifierSet.bounds
  cases s.orientation with
  | none => exact .unnamed
  | some orientation =>
    cases orientation with
    | portrait => exact .portrait
    | landscape => exact .landscape
    | square => exact .square

/-! ## Dots per inch -/

/-- Does a floating-point number stand for a natural number? -/
def Number.Single.IsNat (x : Single) (n : Nat) : Prop :=
  ∃ m, x.decode = .finite false m ∧ m.numerator = n * m.denominator

theorem Number.Single.isFinite_iff {x : Single} :
    x.isFinite = true ↔ ∃ negative m, x.decode = .finite negative m := by
  unfold isFinite
  cases x.decode <;> simp

/-- The nominal dots per inch of a density. Bitmaps that are not scaled have none. -/
inductive IsNominal : Density → Nat → Prop where
  | low : IsNominal .low 120
  | medium : IsNominal .medium 160
  | high : IsNominal .high 240

/-- The dots per inch of a screen of a density, by those that the device names. -/
inductive HasDpi (named : Option Single) (density : Density) : Single → Prop where
  | ofDevice {x : Single} {negative : Bool} {m : Number.Magnitude} :
      named = some x → x.decode = .finite negative m → HasDpi named density x
  | nominal {x : Single} {n : Nat} :
      (∀ y ∈ named, ∀ negative m, y.decode ≠ .finite negative m) → IsNominal density n →
        x.IsNat n → HasDpi named density x

theorem exists_isNominal_of_hasDensity {named : Option Density} {density : Density}
    (h : HasDensity named density) :
    ∃ n, IsNominal density n ∧ (Single.ofNat density.dotsPerInch).IsNat n := by
  cases h with
  | low => exact ⟨120, .low, ⟨0xF00000, -17⟩, by decide, by decide⟩
  | medium | unscaled | unnamed => exact ⟨160, .medium, ⟨0xA00000, -16⟩, by decide, by decide⟩
  | high => exact ⟨240, .high, ⟨0xF00000, -16⟩, by decide, by decide⟩

/-- Only finite numbers of the device count. -/
theorem hasDpi_getD {named : Option Density} {density : Density} (h : HasDensity named density)
    (dpi : Option Single) :
    HasDpi dpi density ((dpi.filter Single.isFinite).getD (.ofNat density.dotsPerInch)) := by
  obtain ⟨n, hn, hvalue⟩ := exists_isNominal_of_hasDensity h
  cases dpi with
  | none => exact .nominal nofun hn hvalue
  | some x =>
    cases hx : x.isFinite with
    | true =>
      obtain ⟨negative, m, hdecode⟩ := Number.Single.isFinite_iff.mp hx
      rw [Option.filter_some_pos hx]
      exact .ofDevice rfl hdecode
    | false =>
      rw [Option.filter_some_neg (by simp [hx])]
      refine .nominal (fun y hy negative m hdecode => ?_) hn hvalue
      cases Option.mem_some.mp hy
      rw [Number.Single.isFinite_iff.mpr ⟨negative, m, hdecode⟩] at hx
      cases hx

end ConfigBar
