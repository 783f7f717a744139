import LoadFleet.Number.Dyadic
/-!
# Decimal texts of floating point numbers

* `Decimal.shortest?` finds the fewest digits that read back as the same number, and of those the
  nearest to it.
* `Decimal.scientific` writes them the way a data file holds a number, `Decimal.plain` without an
  exponent.
* `fixedPlaces` rounds the exact value to a number of decimal places, a half to the even neighbour.
-/

namespace LoadFleet

/-- The number `± digits * 10 ^ exponent`. -/
structure Decimal where
  negative : Bool
  digits : Nat
  exponent : Int
  deriving DecidableEq

namespace Dyadic

/-- Four times the mantissa and the ends of the interval of reals that round to the value, in the
same unit. Just above a power of two the lower neighbour is half as far away. -/
def bounds (d : Dyadic) : Nat × Nat × Nat :=
  let below := if d.mantissa = 0x10000000000000 ∧ -1074 < d.exponent then 1 else 2
  (4 * d.mantissa, 4 * d.mantissa - below, 4 * d.mantissa + 2)

/-- Factors `(p, q)` such that a quarter unit of the mantissa is `p / q` steps of `10 ^ grid`. -/
def gridScale (d : Dyadic) (grid : Int) : Nat × Nat :=
  let quarter := d.exponent - 2
  (Nat.pow 10 (-grid).toNat <<< quarter.toNat, Nat.pow 10 grid.toNat <<< (-quarter).toNat)

/-- The point of the grid `10 ^ grid` that reads back as the value and is nearest to it. -/
def onGrid? (d : Dyadic) (grid : Int) : Option Nat :=
  let (value, low, high) := d.bounds
  let (p, q) := d.gridScale grid
  let inside (c : Nat) : Bool :=
    if d.mantissa % 2 = 0 then low * p ≤ c * q && c * q ≤ high * p
    else low * p < c * q && c * q < high * p
  let below := value * p / q
  let above := below + 1
  match inside below, inside above with
  | false, false => none
  | true, false => some below
  | false, true => some above
  | true, true =>
    let shortfall := value * p - below * q
    let excess := above * q - value * p
    if shortfall < excess then some below
    else if excess < shortfall then some above
    else some (if below % 2 = 0 then below else above)

/-- Searches ever finer grids for the first that holds a number reading back as the value. -/
def search (d : Dyadic) : Nat → Int → Decimal
  | 0, grid => ⟨d.negative, 0, grid⟩
  | steps + 1, grid =>
    match d.onGrid? grid with
    | some c => ⟨d.negative, c, grid⟩
    | none => search d steps (grid - 1)

/-- The fewest digits that read back as the value; the nearest of them. -/
def shortest (d : Dyadic) : Decimal :=
  if d.mantissa = 0 then ⟨d.negative, 0, 0⟩
  else
    let magnitude := ((d.mantissa.log2 : Int) + d.exponent) * 30103 / 100000
    d.search 22 (magnitude + 2)

end Dyadic

namespace Decimal

/-- The fewest digits that read back as `x`, if `x` is finite. -/
def shortest? (x : Float) : Option Decimal := (Dyadic.ofFloat? x).map Dyadic.shortest

/-- The sign before a number. -/
def sign (d : Decimal) : String := if d.negative then "-" else ""

/-- Digits without an exponent; a whole number has no point. -/
def positional (digits : String) (exponent : Int) : String :=
  let point := (digits.length : Int) + exponent
  if 0 ≤ exponent then digits ++ String.ofList (List.replicate exponent.toNat '0')
  else if 0 < point then
    String.ofList (digits.toList.take point.toNat) ++ "." ++
      String.ofList (digits.toList.drop point.toNat)
  else "0." ++ String.ofList (List.replicate (-point).toNat '0') ++ digits

/-- The number without an exponent. -/
def plain (d : Decimal) : String :=
  d.sign ++ positional (Nat.repr d.digits) (if d.digits = 0 then 0 else d.exponent)

/-- The number as data files hold it: a whole number ends in `.0`, and an exponent is used from
`1e16` on and below `1e-5`. -/
def scientific (d : Decimal) : String :=
  let digits := Nat.repr d.digits
  let point := (digits.length : Int) + d.exponent
  d.sign ++
    if d.digits = 0 then "0.0"
    else if 0 ≤ d.exponent ∧ point ≤ 16 then positional digits d.exponent ++ ".0"
    else if -5 < point ∧ point ≤ 16 then positional digits d.exponent
    else
      let exponent := toString (point - 1)
      if digits.length = 1 then digits ++ "e" ++ exponent
      else String.ofList (digits.toList.take 1) ++ "." ++
        String.ofList (digits.toList.drop 1) ++ "e" ++ exponent

end Decimal

/-- The text of a number that is not finite, if `x` is one. -/
def nonFinite? (x : Float) : Option String :=
  if x.isNaN then some "NaN"
  else if x.isInf then some (if x < 0 then "-inf" else "inf")
  else none

/-- The shortest text without an exponent. -/
def plainText (x : Float) : String :=
  match Decimal.shortest? x with
  | some d => d.plain
  | none => (nonFinite? x).getD ""

/-- `p / q` to the nearest natural number, a half to the even one. -/
def divRoundEven (p q : Nat) : Nat :=
  let whole := p / q
  let twice := 2 * (p % q)
  if twice < q then whole
  else if q < twice then whole + 1
  else if whole % 2 = 0 then whole else whole + 1

/-- A natural number of units of `10 ^ -places`, with that many digits after the point. -/
def pointText (units places : Nat) : String :=
  if places = 0 then Nat.repr units
  else
    let fraction := Nat.repr (units % Nat.pow 10 places)
    Nat.repr (units / Nat.pow 10 places) ++ "." ++
      String.ofList (List.replicate (places - fraction.length) '0') ++ fraction

/-- The exact value rounded to `places` decimal places, a half to the even neighbour; the sign of
a negative zero is kept. -/
def fixedPlaces (places : Nat) (x : Float) : String :=
  match Dyadic.ofFloat? x with
  | none => (nonFinite? x).getD ""
  | some d =>
    let units := divRoundEven (d.quotient.1 * Nat.pow 10 places) d.quotient.2
    (if d.negative then "-" else "") ++ pointText units places

end LoadFleet
