/-!
# Spans and points of time

A `Span` is a length of time in whole nanoseconds, up to the longest one whose seconds fill a
64-bit word. A `WallTime` is a point of the calendar, as a span since the epoch. The clock that
stages run by is a plain count of nanoseconds since the start of the run.
-/

namespace LoadFleet

/-- Nanoseconds in a second. -/
def nanosPerSecond : Nat := 1000000000

/-- A length of time in nanoseconds. -/
structure Span where
  nanos : Nat
  bounded : nanos < 0x10000000000000000 * nanosPerSecond
  deriving DecidableEq

namespace Span

@[ext] theorem ext {a b : Span} (h : a.nanos = b.nanos) : a = b := by
  cases a; cases b; cases h; rfl

/-- The span of length zero. -/
def zero : Span := ⟨0, by decide⟩

instance : Inhabited Span := ⟨zero⟩

/-- The longest span. -/
def max : Span := ⟨0x10000000000000000 * nanosPerSecond - 1, by decide⟩

/-- A span of `n` nanoseconds, if there is one that long. -/
def ofNanos? (n : Nat) : Option Span :=
  if h : n < 0x10000000000000000 * nanosPerSecond then some ⟨n, h⟩ else none

/-- A span of `n` nanoseconds, or the longest one. -/
def ofNanos (n : Nat) : Span := (ofNanos? n).getD max

/-- A span of `n` seconds, or the longest one. -/
def ofSeconds (n : Nat) : Span := ofNanos (n * nanosPerSecond)

/-- The sum of two spans, or the longest span. -/
def add (a b : Span) : Span := ofNanos (a.nanos + b.nanos)

instance : Add Span := ⟨add⟩

theorem nanos_add (a b : Span) : (a + b).nanos = min (a.nanos + b.nanos) max.nanos := by
  show (ofNanos (a.nanos + b.nanos)).nanos = _
  by_cases h : a.nanos + b.nanos < 0x10000000000000000 * nanosPerSecond <;>
    simp only [ofNanos, ofNanos?, h, ↓reduceDIte, Option.getD_some, Option.getD_none, max] <;>
    omega

/-- Whether nothing passes during the span. -/
def isZero (a : Span) : Bool := a.nanos = 0

/-- The whole seconds of a span. -/
def seconds (a : Span) : Nat := a.nanos / nanosPerSecond

/-- The nanoseconds of a span beyond its whole seconds. -/
def subsecond (a : Span) : Nat := a.nanos % nanosPerSecond

end Span

/-- A point of the calendar, in nanoseconds since the epoch. -/
structure WallTime where
  nanos : Nat
  bounded : nanos < 0x8000000000000000 * nanosPerSecond
  deriving DecidableEq

namespace WallTime

@[ext] theorem ext {a b : WallTime} (h : a.nanos = b.nanos) : a = b := by
  cases a; cases b; cases h; rfl

/-- The point `n` nanoseconds after the epoch, if the calendar reaches that far. -/
def ofNanos? (n : Nat) : Option WallTime :=
  if h : n < 0x8000000000000000 * nanosPerSecond then some ⟨n, h⟩ else none

/-- The point `n` nanoseconds after the epoch, or the last one. -/
def ofNanos (n : Nat) : WallTime :=
  (ofNanos? n).getD ⟨0x8000000000000000 * nanosPerSecond - 1, by decide⟩

/-- The span from one point to a later one; nothing passes when it is not later. -/
def spanTo (a b : WallTime) : Span := Span.ofNanos (b.nanos - a.nanos)

end WallTime

/-- A reading of the clock that stages run by, in nanoseconds. -/
abbrev Instant := Nat

namespace Instant

/-- The first reading that the clock cannot represent. -/
def limit : Nat := 0x8000000000000000 * nanosPerSecond

/-- The reading a span later, if the clock can represent it. -/
def after? (t : Instant) (s : Span) : Option Instant :=
  if t + s.nanos < limit then some (t + s.nanos) else none

/-- How long a sleep lasts that would end beyond what the clock can represent. -/
def farAway : Nat := 86400 * 365 * 30 * nanosPerSecond

/-- The span from one reading of the clock to a later one. -/
def spanTo (a b : Instant) : Span := Span.ofNanos (b - a)

end Instant

end LoadFleet
