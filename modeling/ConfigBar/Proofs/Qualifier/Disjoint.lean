import ConfigBar.Proofs.Qualifier.Shape
/-!
# The order in which the kinds are tried

No text is a segment of two kinds, so the order in which the kinds are tried does not matter. It
does not matter either that the number of a country or a network settles the kind before it is known
to fit into a code: such a number that is too large is no segment at all.

* `Kind.attempt?`, `Qualifier.tryKinds` — trying kinds in a given order, up to the one that settles
  the text
* `findSome?_read?_eq`, `tryKinds_eq` — all orders come to the same, with and without settling
* `ofSegment?_of_any_order` — and no two readers accept the same text
-/

namespace ConfigBar

/-! ## Trying kinds -/

/-- What a kind does with a text when its turn comes: `none` passes the text on to the next kind. A
number behind the letters of a country or a network is not passed on, even if it is no code. -/
def Kind.attempt? (k : Kind) (s : String) : Option (Option Qualifier) :=
  if k.claims s then some (k.read? s) else none

/-- Tries kinds in the given order. -/
def Qualifier.tryKinds (order : List Kind) (s : String) : Option Qualifier :=
  (order.findSome? fun k => k.attempt? s).join

variable {k : Kind} {s : String} {q : Qualifier} {order : List Kind}

namespace Kind

theorem attempt?_eq_some_iff {answer : Option Qualifier} :
    k.attempt? s = some answer ↔ k.claims s = true ∧ k.read? s = answer := by
  unfold attempt?
  split
  · next h => rw [Option.some_inj, and_iff_right h]
  · next h => exact ⟨nofun, fun ha => absurd ha.1 h⟩

/-- The first reader that accepts a text is the only one. -/
theorem findSome?_read?_eq_some_iff :
    (order.findSome? fun k => k.read? s) = some q ↔ q.kind ∈ order ∧ q.kind.read? s = some q := by
  constructor
  · intro h
    obtain ⟨k, hk, hread⟩ := List.exists_of_findSome?_eq_some h
    rw [kind_of_read? hread]
    exact ⟨hk, hread⟩
  · rintro ⟨hk, hread⟩
    exact findSome?_of_claims (fun k q => claims_of_read?) hk hread

/-- A text that belongs to a kind but is not read by it is read by no kind. -/
theorem read?_eq_none_of_claims {l : Kind} (hl : l.claims s = true) (hread : l.read? s = none)
    (k : Kind) : k.read? s = none := by
  cases hk : k.read? s with
  | none => rfl
  | some q =>
    obtain rfl := claims_unique (claims_of_read? hk) hl
    exact hk.symm.trans hread

/-- The number of a country or a network that is no code is read by no kind. -/
theorem read?_eq_none_of_code? {n : UInt32}
    (h : numberAfter? "mcc" s = some n ∨ numberAfter? "mnc" s = some n) (hn : code? n = none)
    (k : Kind) : k.read? s = none := by
  rcases h with h | h
  · have hclaims : countryCode.claims s = true := Option.isSome_of_eq_some h
    exact read?_eq_none_of_claims hclaims (by simp [read?, h, hn]) k
  · have hclaims : networkCode.claims s = true := Option.isSome_of_eq_some h
    exact read?_eq_none_of_claims hclaims (by simp [read?, h, hn]) k

end Kind

namespace Qualifier

theorem tryKinds_eq_some_iff :
    tryKinds order s = some q ↔ q.kind ∈ order ∧ q.kind.read? s = some q := by
  unfold tryKinds
  rw [Option.join_eq_some_iff]
  constructor
  · intro h
    obtain ⟨k, hk, hattempt⟩ := List.exists_of_findSome?_eq_some h
    have hread := (Kind.attempt?_eq_some_iff.mp hattempt).2
    rw [Kind.kind_of_read? hread]
    exact ⟨hk, hread⟩
  · rintro ⟨hk, hread⟩
    have hattempt := Kind.attempt?_eq_some_iff.mpr ⟨Kind.claims_of_read? hread, hread⟩
    exact Kind.findSome?_of_claims (fun k a ha => (Kind.attempt?_eq_some_iff.mp ha).1) hk hattempt

/-! ## Any order -/

/-- Any order of the kinds leads to the same qualifier. -/
theorem findSome?_read?_eq (horder : ∀ k, k ∈ order) (s : String) :
    (order.findSome? fun k => k.read? s) = ofSegment? s :=
  Option.ext fun q => by
    rw [Kind.findSome?_read?_eq_some_iff, and_iff_right (horder q.kind), ofSegment?_eq_some_iff]

/-- It does so, too, if a number that is no code is not passed on. -/
theorem tryKinds_eq (horder : ∀ k, k ∈ order) (s : String) :
    tryKinds order s = ofSegment? s :=
  Option.ext fun q => by
    rw [tryKinds_eq_some_iff, and_iff_right (horder q.kind), ofSegment?_eq_some_iff]

/-- **At most one of the readers accepts a text, so the kinds may be tried in any order**, whether
or not a number that is no code is passed on to the next kind: no other kind reads it. -/
theorem ofSegment?_of_any_order (s : String) :
    (∀ k l : Kind, (k.read? s).isSome = true → (l.read? s).isSome = true → k = l) ∧
      (∀ order : List Kind, (∀ k, k ∈ order) →
        (order.findSome? fun k => k.read? s) = ofSegment? s ∧ tryKinds order s = ofSegment? s) ∧
      ∀ n, numberAfter? "mcc" s = some n ∨ numberAfter? "mnc" s = some n → code? n = none →
        ∀ k : Kind, k.read? s = none := by
  refine ⟨fun k l hk hl => ?_, fun order horder => ?_, fun n => Kind.read?_eq_none_of_code?⟩
  · obtain ⟨q, hq⟩ := Option.isSome_iff_exists.mp hk
    obtain ⟨p, hp⟩ := Option.isSome_iff_exists.mp hl
    exact Kind.claims_unique (Kind.claims_of_read? hq) (Kind.claims_of_read? hp)
  · exact ⟨findSome?_read?_eq horder s, tryKinds_eq horder s⟩

/-- A number that is no code, and a word with the letter of dimensions in it, with all kinds tried
backwards. -/
theorem ofSegment?_of_any_order_of_large_code :
    numberAfter? "mcc" "mcc65536" = some 65536 ∧ code? 65536 = none ∧
      (∀ k, Kind.read? k "mcc65536" = none) ∧
      (Kind.all.reverse.findSome? fun k => k.read? "keysexposed") =
        some (.keyboard .exposed) ∧
      tryKinds Kind.all.reverse "keysexposed" = some (.keyboard .exposed) := by
  have hnumber : numberAfter? "mcc" "mcc65536" = some 65536 := by decide
  have hcode : code? 65536 = none := by decide
  have hword : ofSegment? "keysexposed" = some (.keyboard .exposed) := by decide
  obtain ⟨-, -, hlarge⟩ := ofSegment?_of_any_order "mcc65536"
  obtain ⟨-, horder, -⟩ := ofSegment?_of_any_order "keysexposed"
  obtain ⟨hread, htry⟩ := horder Kind.all.reverse fun k =>
    List.mem_reverse.mpr (Kind.mem_all k)
  exact ⟨hnumber, hcode, hlarge 65536 (Or.inl hnumber) hcode, hread.trans hword, htry.trans hword⟩

end Qualifier

end ConfigBar
