import Mathlib.Algebra.Order.Field.Rat
import Mathlib.Algebra.Order.Ring.Cast
import Mathlib.Tactic.Linarith
import SensorGateway.Number.Scalar

/-!
# The measuring formulas over the rationals

Over the rationals the operations of the measuring formulas are the usual ones, and rounding keeps the
order.  Rounded to a number of decimal places, a half going away from zero, the greater of two
rationals is not the smaller one (`Scalar.monotone_roundTo`).  Away from zero means down for negative
numbers and up for the others, so the two sides are rounded by different formulas, and they meet at
zero.
-/

namespace SensorGateway.Scalar

/-- Over the rationals an integer stands for itself, -/
@[simp] theorem ofInt_rat (n : Int) : (ofInt n : Rat) = n := rfl

/-- and so does a natural number. -/
@[simp] theorem ofNat_rat (n : Nat) : (ofNat n : Rat) = n := rfl

/-! ## Rounding -/

/-- The positive part is the number or zero, whichever is greater. -/
theorem positivePart_rat (x : Rat) : positivePart x = max x 0 := by
  show (if 0 < x then x else 0) = max x 0
  split
  next hpos => exact (max_eq_left hpos.le).symm
  next hneg => exact (max_eq_right (not_lt.mp hneg)).symm

/-- Rounding away from zero is rounding down or up, by the sign. -/
theorem roundAway_rat (x : Rat) :
    roundAway x = if x < 0 then -((-x + 1 / 2).floor : Rat) else ((x + 1 / 2).floor : Rat) :=
  rfl

/-- Half a unit above a number that is not negative there is no negative integer below. -/
theorem floor_half_nonneg {x : Rat} (h : 0 ≤ x) : (0 : Rat) ≤ (x + 1 / 2).floor := by
  have hhalf : ((0 : Int) : Rat) ≤ x + 1 / 2 := by
    rw [Int.cast_zero]
    linarith
  exact Int.cast_nonneg (Rat.le_floor_iff.mpr hhalf)

/-- Rounding keeps numbers from being negative. -/
theorem roundAway_nonneg {x : Rat} (h : 0 ≤ x) : 0 ≤ roundAway x := by
  rw [roundAway_rat, if_neg h.not_gt]
  exact floor_half_nonneg h

/-- Rounding to an integer keeps the order. -/
theorem monotone_roundAway : Monotone (roundAway : Rat → Rat) := by
  intro x y hxy
  rw [roundAway_rat, roundAway_rat]
  by_cases hx : x < 0
  · by_cases hy : y < 0
    · rw [if_pos hx, if_pos hy]
      apply neg_le_neg
      apply Int.cast_le.mpr
      apply Rat.floor_monotone
      linarith
    · -- zero is between them
      rw [if_pos hx, if_neg hy]
      have hbelow := floor_half_nonneg (neg_nonneg.mpr hx.le)
      have habove := floor_half_nonneg (not_lt.mp hy)
      linarith
  · have hy : ¬ y < 0 := fun hy => hx (hxy.trans_lt hy)
    rw [if_neg hx, if_neg hy]
    apply Int.cast_le.mpr
    apply Rat.floor_monotone
    linarith

/-- The scale of decimal places is positive. -/
theorem scale_pos (places : Nat) : (0 : Rat) < ofNat (tenTo places) := by
  rw [ofNat_rat]
  exact Nat.cast_pos.mpr (Nat.pow_pos (by decide))

/-- Rounding to decimal places keeps the order. -/
theorem monotone_roundTo (places : Nat) : Monotone fun x : Rat => roundTo x places := by
  intro x y hxy
  have hscale := (scale_pos places).le
  show roundAway (x * ofNat (tenTo places)) / ofNat (tenTo places)
    ≤ roundAway (y * ofNat (tenTo places)) / ofNat (tenTo places)
  apply div_le_div_of_nonneg_right _ hscale
  exact monotone_roundAway (mul_le_mul_of_nonneg_right hxy hscale)

/-- Rounding to decimal places keeps numbers from being negative. -/
theorem roundTo_nonneg {x : Rat} (h : 0 ≤ x) (places : Nat) : 0 ≤ roundTo x places := by
  have hscale := (scale_pos places).le
  exact div_nonneg (roundAway_nonneg (mul_nonneg h hscale)) hscale

end SensorGateway.Scalar
