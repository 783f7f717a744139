import LoadFleet.Number.Scalar
/-!
# Counters and moments

`Moments` summarises latencies in fixed memory. The mean and the sum of squared deviations from it
are kept up to date one sample at a time, and two summaries are combined pairwise.

Counters are 64-bit words. What is said here of recording and merging holds as long as words have
room for the counters; an accumulator sees to that. The sum of latencies stops at the largest word.
-/

namespace LoadFleet

/-- The sum of two words, or the largest word. -/
def addSaturating (a b : UInt64) : UInt64 :=
  if a.toNat + b.toNat ≤ wordMax then a + b else wordMax.toUInt64

/-- A latency summary of fixed size, with moments in `R`. -/
@[ext] structure Moments (R : Type) where
  requests : UInt64
  errors : UInt64
  /-- The largest latency. -/
  largest : UInt64
  /-- The sum of all latencies, as far as a word can hold it. -/
  sum : UInt64
  /-- The mean latency. -/
  mean : R
  /-- The sum of the squared deviations from the mean. -/
  deviation : R
  deriving DecidableEq

namespace Moments

variable {R : Type} [Scalar R]

/-- The summary of no samples. -/
def empty : Moments R := ⟨0, 0, 0, 0, Scalar.ofNat 0, Scalar.ofNat 0⟩

/-- Adds one sample of `nanos` nanoseconds, for which the counters have room. -/
def record (s : Moments R) (nanos : UInt64) (success : Bool) : Moments R :=
  let requests := s.requests + 1
  let value : R := Scalar.ofNat nanos.toNat
  let delta := value - s.mean
  let mean := s.mean + delta / Scalar.ofNat requests.toNat
  { requests
    errors := if success then s.errors else s.errors + 1
    largest := max s.largest nanos
    sum := addSaturating s.sum nanos
    mean
    deviation := s.deviation + delta * (value - mean) }

/-- Combines two summaries, whose counters have room for each other. -/
def merge (s t : Moments R) : Moments R :=
  let total := s.requests + t.requests
  let own : R := Scalar.ofNat s.requests.toNat
  let theirs : R := Scalar.ofNat t.requests.toNat
  let all : R := Scalar.ofNat total.toNat
  let delta := t.mean - s.mean
  { requests := total
    errors := s.errors + t.errors
    largest := max s.largest t.largest
    sum := addSaturating s.sum t.sum
    mean := if 0 < total then (s.mean * own + t.mean * theirs) / all else s.mean
    deviation :=
      if 0 < total then s.deviation + (t.deviation + delta * delta * own * theirs / all)
      else s.deviation }

/-- The sample variance, zero for fewer than two samples. -/
def variance (s : Moments R) : R :=
  if s.requests < 2 then Scalar.ofNat 0
  else s.deviation / Scalar.ofNat (s.requests - 1).toNat

end Moments

end LoadFleet
