import LoadFleet.Number.Dyadic
/-!
# The numbers that latencies are averaged with

Moments, ranks and rates are written once, over any `Scalar`. The program computes them with
floating point numbers; the same definitions can be read over exact numbers.
-/

namespace LoadFleet

/-- The arithmetic that statistics need. -/
class Scalar (R : Type) extends Add R, Sub R, Mul R, Div R where
  /-- The number of things counted. -/
  ofNat : Nat → R
  /-- The number that a floating point number stands for. -/
  ofFloat : Float → R
  /-- Whether the first number is known to be at most the second. -/
  atMost : R → R → Bool
  /-- The least natural number not below a number. -/
  ceil : R → Nat

/-- The floating point number nearest to `n`. A 64-bit word is converted in one rounding. -/
def floatOfCount (n : Nat) : Float :=
  if n ≤ wordMax then n.toUInt64.toFloat else Float.ofNat n

instance : Scalar Float where
  ofNat := floatOfCount
  ofFloat x := x
  atMost x y := decide (x ≤ y)
  ceil := Dyadic.clampWord Dyadic.ceil

end LoadFleet
