import TrustGate.Value.Basic

/-!
# The order of doubles

Doubles are ordered as the numbers they stand for, and NaN is not ordered at all:

    a.compare b = (b.compare a).map swap     (compare_swap)

So a double that is at or below another is not above it (not_lt_of_le), and neither holds of
NaN: a bound that is checked one way round is kept when it is checked the other way round.
-/

namespace TrustGate.Decimal

open Float.Model (UnpackedFloat)

theorem compare_magnitudes (e e' : Int) (m m' : Nat) :
    (compare e e').then (compare m m') = ((compare e' e).then (compare m' m)).swap := by
  rw [Ordering.swap_then, ← Std.OrientedOrd.eq_swap, ← Std.OrientedOrd.eq_swap]

/-- Exchanging the sides turns the order round; with NaN on either side there is none. -/
theorem compare_swap (a b : UnpackedFloat) : a.compare b = (b.compare a).map Ordering.swap := by
  have hsign (s t : UnpackedFloat.Sign) : compare s t = (compare t s).swap := by
    cases s <;> cases t <;> rfl
  cases a with
  | notANumber => cases b <;> rfl
  | infinity s =>
    cases b with
    | infinity t => exact congrArg some (hsign s t)
    | _ => cases s <;> rfl
  | zero s =>
    cases b with
    | infinity t => cases t <;> rfl
    | finite t m e hm => cases t <;> rfl
    | _ => rfl
  | finite s m e hm =>
    cases b with
    | infinity t => cases t <;> rfl
    | notANumber => rfl
    | zero t => cases s <;> rfl
    | finite t m' e' hm' =>
      cases s <;> cases t
      -- below zero the order of the magnitudes is turned round once more
      · exact congrArg (fun o => some o.swap) (compare_magnitudes e e' m m')
      · rfl
      · rfl
      · exact congrArg some (compare_magnitudes e e' m m')

theorem le_iff (x y : Float) :
    x ≤ y ↔ (x.toModel.unpack.compare y.toModel.unpack).any Ordering.isLE = true := by
  show decide (x.toModel ≤ y.toModel) = true ↔ _
  exact decide_eq_true_iff

theorem lt_iff (x y : Float) :
    x < y ↔ x.toModel.unpack.compare y.toModel.unpack = some .lt := by
  show decide (x.toModel < y.toModel) = true ↔ _
  rw [decide_eq_true_iff]
  exact beq_iff_eq

theorem not_lt_of_le {x y : Float} (h : x ≤ y) : ¬y < x := by
  rw [le_iff, compare_swap] at h
  rw [lt_iff]
  intro hlt
  rw [hlt] at h
  cases h

end TrustGate.Decimal
