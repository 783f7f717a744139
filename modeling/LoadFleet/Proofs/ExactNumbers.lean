import LoadFleet.Stats.Samples
import Mathlib.Algebra.BigOperators.Group.List.Basic
import Mathlib.Algebra.Order.Floor.Semiring
import Mathlib.Data.Rat.Floor
/-!
# Statistics over exact numbers

Statistics are written over any `Scalar`, and the program computes them with floating point
numbers.  Read over rational numbers, the same definitions compute without rounding; a floating
point number stands for its exact value.

* `Samples.total_eq_sum`: a sum from left to right is the sum.
-/

namespace LoadFleet

/-- The exact value as a rational number. -/
def Dyadic.value (d : Dyadic) : ℚ :=
  (if d.negative then -1 else 1) * d.mantissa * 2 ^ d.exponent

/-- The rational number that a floating point number stands for, zero if it is not finite. -/
def exactValue (x : Float) : ℚ := ((Dyadic.ofFloat? x).map Dyadic.value).getD 0

instance : Scalar ℚ where
  ofNat n := n
  ofFloat := exactValue
  atMost x y := decide (x ≤ y)
  ceil x := ⌈x⌉₊

@[simp] theorem scalar_ofNat (n : Nat) : (Scalar.ofNat n : ℚ) = n := rfl

/-- The negative zero is zero. -/
theorem exactValue_negative_zero : exactValue (-0.0) = 0 := by
  have : Dyadic.ofFloat? (-0.0) = some ⟨true, 0, -1074⟩ := by decide
  simp [exactValue, this, Dyadic.value]

theorem Samples.total_eq_sum (l : List ℚ) : Samples.total l = l.sum := by
  have zero : (Scalar.ofFloat (-0.0) : ℚ) = 0 := exactValue_negative_zero
  rw [Samples.total, zero, List.sum_eq_foldl]

end LoadFleet
