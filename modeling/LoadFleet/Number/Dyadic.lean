/-!
# The exact value of a binary floating point number

A finite `Float` is a whole number times a power of two. `Dyadic` holds that value exactly, so
rounding to whole numbers and writing decimal digits are arithmetic on natural numbers.
-/

namespace LoadFleet

/-- The exact value `± mantissa * 2 ^ exponent` of a finite floating point number. -/
structure Dyadic where
  negative : Bool
  mantissa : Nat
  exponent : Int
  deriving DecidableEq

namespace Dyadic

/-- The exact value of `x`, if `x` is finite. -/
def ofFloat? (x : Float) : Option Dyadic :=
  let bits : Nat := x.toBits.toNat
  let fraction : Nat := bits % 0x10000000000000
  let biased : Nat := bits / 0x10000000000000 % 0x800
  let negative := decide (0x8000000000000000 ≤ bits)
  if biased = 2047 then none
  else if biased = 0 then some ⟨negative, fraction, -1074⟩
  else some ⟨negative, 0x10000000000000 + fraction, (biased : Int) - 1075⟩

/-- The magnitude as a quotient of natural numbers. -/
def quotient (d : Dyadic) : Nat × Nat :=
  if 0 ≤ d.exponent then (d.mantissa <<< d.exponent.toNat, 1)
  else (d.mantissa, 1 <<< (-d.exponent).toNat)

/-- The least natural number that is not below the value. -/
def ceil (d : Dyadic) : Nat :=
  if d.negative then 0 else (d.quotient.1 + (d.quotient.2 - 1)) / d.quotient.2

/-- The nearest natural number; a half goes away from zero, and a negative value to zero. -/
def round (d : Dyadic) : Nat :=
  if d.negative then 0 else (2 * d.quotient.1 + d.quotient.2) / (2 * d.quotient.2)

end Dyadic

/-- The largest 64-bit word. -/
def wordMax : Nat := 0xffffffffffffffff

/-- Applies a rounding to a floating point number, clamped to the 64-bit words: what is not a
number goes to zero and infinity to the largest word. -/
def Dyadic.clampWord (rounding : Dyadic → Nat) (x : Float) : Nat :=
  match ofFloat? x with
  | some d => min (rounding d) wordMax
  | none => if x > 0 then wordMax else 0

end LoadFleet
