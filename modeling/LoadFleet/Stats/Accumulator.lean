import LoadFleet.Stats.Moments
import LoadFleet.Stats.Samples
import LoadFleet.Stats.Sketch
import LoadFleet.Time.Span
/-!
# Accumulators of one operation

An accumulator counts requests and failures of an operation and keeps its latencies in one of
three ways. Failed requests count as requests too, and their latencies are kept. Counters are
words, and what they have no room for is an overflow.
-/

namespace LoadFleet

/-- What was recorded for one operation. -/
inductive Accumulator (R : Type) where
  | basic (moments : Moments R)
  | recording (samples : Samples)
  | sketch (sketch : Sketch) (errors : UInt64)

/-- The accumulators of a run, with floating point moments. -/
abbrev OperationStats := Accumulator Float

/-- A span in whole nanoseconds, as far as a word can hold it. -/
def Span.toWord (a : Span) : UInt64 := (min a.nanos wordMax).toUInt64

namespace Accumulator

variable {R : Type} [Scalar R]

/-- An accumulator that holds nothing yet. -/
def empty : StatsKind → Accumulator R
  | .basic => basic .empty
  | .recording => recording .empty
  | .sketch => sketch .empty 0

omit [Scalar R] in
/-- How the accumulator keeps latencies. -/
def kind : Accumulator R → StatsKind
  | basic _ => .basic
  | recording _ => .recording
  | sketch _ _ => .sketch

omit [Scalar R] in
/-- The number of requests, failed ones included. -/
def requests : Accumulator R → UInt64
  | basic m => m.requests
  | recording s => s.count.toUInt64
  | sketch s _ => s.count

omit [Scalar R] in
/-- The number of failed requests. -/
def errors : Accumulator R → UInt64
  | basic m => m.errors
  | recording s => s.errors
  | sketch _ errors => errors

omit [Scalar R] in
/-- Whether the counters have room for so many requests more, so many of them failed. -/
def HasRoom (a : Accumulator R) (requests errors : Nat) : Prop :=
  a.requests.toNat + requests ≤ wordMax ∧ a.errors.toNat + errors ≤ wordMax

instance (a : Accumulator R) (requests errors : Nat) : Decidable (a.HasRoom requests errors) :=
  inferInstanceAs (Decidable (_ ∧ _))

/-! ### Recording and merging -/

/-- What recording one request comes to while the counters have room for it. -/
def record (a : Accumulator R) (latency : Span) (success : Bool) : Accumulator R :=
  match a with
  | basic m => basic (m.record latency.toWord success)
  | recording s => recording (s.record latency.toWord success)
  | sketch s errors =>
    sketch (s.add latency.toWord.toFloat) (if success then errors else errors + 1)

/-- Records one request, if the counters have room for it. -/
def record? (a : Accumulator R) (latency : Span) (success : Bool) :
    Except StatsError (Accumulator R) :=
  if a.HasRoom 1 (if success then 0 else 1) then .ok (a.record latency success)
  else .error .overflow

/-- What two accumulators of the same kind come to while their counters have room for each other. -/
def combine? (a b : Accumulator R) : Except StatsError (Accumulator R) :=
  match a, b with
  | basic m, basic n => .ok (basic (m.merge n))
  | recording s, recording t => .ok (recording (s.merge t))
  | sketch s errors, sketch t others => (s.merge? t).map fun u => sketch u (errors + others)
  | a, b => .error (.incompatibleKinds a.kind b.kind)

/-- Combines two accumulators of the same kind, if their counters have room for each other. -/
def merge? (a b : Accumulator R) : Except StatsError (Accumulator R) :=
  (a.combine? b).bind fun c =>
    if a.HasRoom b.requests.toNat b.errors.toNat then .ok c else .error .overflow

/-! ### Figures -/

omit [Scalar R] in
/-- Whether nothing was recorded. -/
def isEmpty (a : Accumulator R) : Bool := a.requests = 0

/-- The mean latency in nanoseconds, zero when nothing was recorded. -/
def mean : Accumulator R → R
  | basic m => m.mean
  | recording s => s.mean
  | sketch s _ => Scalar.ofFloat s.mean

omit [Scalar R] in
/-- The largest latency in nanoseconds, zero when nothing was recorded. -/
def largest : Accumulator R → UInt64
  | basic m => m.largest
  | recording s => s.largest
  | sketch s _ => s.largest

end Accumulator

end LoadFleet
