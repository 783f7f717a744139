import LoadFleet.Number.Dyadic
import LoadFleet.Text.Blank
import LoadFleet.Time.Span
/-!
# Spans as people write them

A span is written as a sequence of numbers with units, such as `1h 30m`. `Span.readable` writes
every part that is not zero, largest unit first; `Span.read?` accepts any order, repetition and
spacing, and a fraction where it comes out exact.
-/

namespace LoadFleet

/-- A unit of time. -/
inductive TimeUnit where
  | nanosecond | microsecond | millisecond | second | minute | hour | day | week | month | year
  deriving DecidableEq

namespace TimeUnit

/-- The unit of a name; names are case sensitive. -/
def ofName? (name : String) : Option TimeUnit :=
  if ["nanos", "nsec", "ns"].contains name then some nanosecond
  else if ["usec", "us", "µs"].contains name then some microsecond
  else if ["millis", "msec", "ms"].contains name then some millisecond
  else if ["seconds", "second", "secs", "sec", "s"].contains name then some second
  else if ["minutes", "minute", "min", "mins", "m"].contains name then some minute
  else if ["hours", "hour", "hr", "hrs", "h"].contains name then some hour
  else if ["days", "day", "d"].contains name then some day
  else if ["weeks", "week", "wk", "wks", "w"].contains name then some week
  else if ["months", "month", "M"].contains name then some month
  else if ["years", "year", "yr", "yrs", "y"].contains name then some year
  else none

/-- The length of the unit in nanoseconds. A year is 365.25 days and a month 30.44 days. -/
def nanos : TimeUnit → Nat
  | nanosecond => 1
  | microsecond => 1000
  | millisecond => 1000000
  | second => nanosPerSecond
  | minute => 60 * nanosPerSecond
  | hour => 3600 * nanosPerSecond
  | day => 86400 * nanosPerSecond
  | week => 604800 * nanosPerSecond
  | month => 2630016 * nanosPerSecond
  | year => 31557600 * nanosPerSecond

/-- What whole numbers of the unit are counted in: nanoseconds below a second, else seconds. -/
def wholeGrain : TimeUnit → Nat
  | nanosecond | microsecond | millisecond => 1
  | _ => nanosPerSecond

/-- What a fraction of the unit is counted in: nanoseconds up to a minute, else seconds. -/
def fractionGrain : TimeUnit → Nat
  | nanosecond | microsecond | millisecond | second | minute => 1
  | _ => nanosPerSecond

end TimeUnit

namespace Span

/-! ### Reading -/

/-- Whether a character belongs to a unit name. -/
def isUnitChar (c : Char) : Bool := c.isAlpha || c = 'µ'

/-- A number that fits a 64-bit word. -/
def word? (n : Nat) : Option Nat := if n ≤ wordMax then some n else none

/-- A fraction in lowest decimal form: its digits as a number, and the power of ten below them. -/
structure Fraction where
  numerator : Nat
  denominator : Nat

/-- Adds a digit to a fraction. -/
def Fraction.push? (f : Fraction) (digit : Nat) : Option Fraction := do
  let denominator ← word? (f.denominator * 10)
  let numerator ← word? (f.numerator * 10 + digit)
  return ⟨numerator, denominator⟩

/-- Reads the digits of a fraction up to its unit or the end; at least one has to be there. -/
def readFraction? : Fraction → List Char → Option (Fraction × List Char)
  | f, [] => if f.denominator = 1 then none else some (f, [])
  | f, c :: r =>
    if c.isDigit then
      match f.push? (c.toNat - 48) with
      | some g => readFraction? g r
      | none => none
    else if isBlank c then readFraction? f r
    else if isUnitChar c then (if f.denominator = 1 then none else some (f, c :: r))
    else none

/-- Reads the rest of a number whose digits so far are `n`, up to its unit or the end. -/
def readNumber? : Nat → List Char → Option (Nat × Option Fraction × List Char)
  | n, [] => some (n, none, [])
  | n, c :: r =>
    if c.isDigit then
      match word? (n * 10 + (c.toNat - 48)) with
      | some m => readNumber? m r
      | none => none
    else if isBlank c then readNumber? n r
    else if isUnitChar c then some (n, none, c :: r)
    else if c = '.' then
      match readFraction? ⟨0, 1⟩ r with
      | some (f, rest) => some (n, some f, rest)
      | none => none
    else none

/-- Adds a number of grains of time to the seconds and nanoseconds read so far. -/
def addPart? (total : Nat) (amount grain : Nat) : Option Nat := do
  if grain = 1 then
    let nanos ← word? (total % nanosPerSecond + amount)
    let seconds ← word? (total / nanosPerSecond + nanos / nanosPerSecond)
    return seconds * nanosPerSecond + nanos % nanosPerSecond
  else
    let seconds ← word? (total / nanosPerSecond + amount)
    return seconds * nanosPerSecond + total % nanosPerSecond

/-- Adds `n` units and a fraction of a unit. Both are computed in 64-bit words, and the fraction
has to come out as a whole number. -/
def addUnits? (total n : Nat) (fraction : Option Fraction) (unit : TimeUnit) : Option Nat := do
  let whole ← word? (n * (unit.nanos / unit.wholeGrain))
  let total ← addPart? total whole unit.wholeGrain
  match fraction with
  | none => return total
  | some f =>
    if unit = .nanosecond then none
    else
      let scaled ← word? (f.numerator * (unit.nanos / unit.fractionGrain))
      if scaled % f.denominator = 0 then
        addPart? total (scaled / f.denominator) unit.fractionGrain
      else none

/-- Reads a sequence of numbers with units and adds them up. The step count bounds the number of
parts; every part takes at least one character. -/
def readParts? : Nat → Nat → List Char → Option Nat
  | 0, _, _ => none
  | steps + 1, total, text => do
    match text with
    | [] => none
    | c :: r =>
      if !c.isDigit then none
      else
        let (n, fraction, rest) ← readNumber? (c.toNat - 48) r
        let unit ← TimeUnit.ofName? (String.ofList (rest.takeWhile isUnitChar))
        let rest := rest.dropWhile isUnitChar
        let total ← addUnits? total n fraction unit
        match rest with
        | [] => return total
        | d :: _ =>
          if isBlank d || d.isDigit then
            match rest.dropWhile isBlank with
            | [] => return total
            | rest => readParts? steps total rest
          else none

/-- Reads a span as people write it; a lone `0` needs no unit. -/
def read? (text : String) : Option Span :=
  if text = "0" then some zero
  else
    match text.toList.dropWhile isBlank with
    | [] => none
    | cs => (readParts? cs.length 0 cs).bind ofNanos?

/-! ### Writing -/

/-- A part of a written span, unless it is zero. -/
def part (n : Nat) (name : String) : List String := if n = 0 then [] else [Nat.repr n ++ name]

/-- A part whose unit takes a plural. -/
def pluralPart (n : Nat) (name : String) : List String :=
  part n (if n > 1 then name ++ "s" else name)

/-- Writes every part that is not zero, largest unit first. -/
def readable (a : Span) : String :=
  if a.nanos = 0 then "0s"
  else
    let seconds := a.seconds
    let inYear := seconds % 31557600
    let inMonth := inYear % 2630016
    let inDay := inMonth % 86400
    let nanos := a.subsecond
    " ".intercalate <|
      pluralPart (seconds / 31557600) "year" ++ pluralPart (inYear / 2630016) "month" ++
      pluralPart (inMonth / 86400) "day" ++ part (inDay / 3600) "h" ++
      part (inDay % 3600 / 60) "m" ++ part (inDay % 60) "s" ++ part (nanos / 1000000) "ms" ++
      part (nanos / 1000 % 1000) "us" ++ part (nanos % 1000) "ns"

end Span

end LoadFleet
