import LoadFleet.Time.Span
import LoadFleet.Number.Decimal
/-!
# Spans in messages

Messages show a span as one decimal number in the largest unit of which it holds a whole one:
`1.5s`, `100ms`, `7ns`.
-/

namespace LoadFleet.Span

/-- The unit in which a span is shown: its length in nanoseconds, the number of digits that a
fraction of it can have, and its name. -/
def briefUnit (a : Span) : Nat × Nat × String :=
  if nanosPerSecond ≤ a.nanos then (nanosPerSecond, 9, "s")
  else if 1000000 ≤ a.nanos then (1000000, 6, "ms")
  else if 1000 ≤ a.nanos then (1000, 3, "µs")
  else (1, 0, "ns")

/-- Drops the zeros at the end of a text. -/
def dropTrailingZeros (text : String) : String :=
  String.ofList (text.toList.reverse.dropWhile (· = '0')).reverse

/-- One number in the largest unit that fits, without superfluous digits. -/
def brief (a : Span) : String :=
  let (unit, places, name) := a.briefUnit
  if a.nanos % unit = 0 then Nat.repr (a.nanos / unit) ++ name
  else dropTrailingZeros (pointText a.nanos places) ++ name

/-- One number in the largest unit that fits, rounded to `places` digits after the point, a half
to the even neighbour. Rounding never changes the unit. -/
def briefFixed (places : Nat) (a : Span) : String :=
  let (unit, _, name) := a.briefUnit
  pointText (divRoundEven (a.nanos * Nat.pow 10 places) unit) places ++ name

end LoadFleet.Span
