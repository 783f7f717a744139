import LoadFleet.Number.Scalar
/-!
# Recorded samples

`Samples` keeps every latency in the order of recording. Merging appends, and every figure is
computed from the samples when it is asked for. The number of failures is a word; that it has room
for what is added is seen to by an accumulator.
-/

namespace LoadFleet

/-- All latencies of an operation, in nanoseconds. -/
structure Samples where
  latencies : Array UInt64
  errors : UInt64
  deriving DecidableEq

namespace Samples

/-- No samples. -/
def empty : Samples := ⟨#[], 0⟩

/-- Adds one sample, for which there is room. -/
def record (s : Samples) (nanos : UInt64) (success : Bool) : Samples :=
  ⟨s.latencies.push nanos, if success then s.errors else s.errors + 1⟩

/-- Appends the samples of another recording, for which there is room. -/
def merge (s t : Samples) : Samples := ⟨s.latencies ++ t.latencies, s.errors + t.errors⟩

/-- The latencies in the order of recording. -/
def toList (s : Samples) : List UInt64 := s.latencies.toList

/-- The number of samples. -/
def count (s : Samples) : Nat := s.latencies.size

/-- The latencies in ascending order. -/
def sorted (s : Samples) : List UInt64 := s.toList.mergeSort fun a b => decide (a ≤ b)

/-- The largest latency, zero when there is none. -/
def largest (s : Samples) : UInt64 := s.toList.foldl max 0

variable {R : Type} [Scalar R]

/-- The sum of numbers from left to right. An empty sum is the negative zero, which changes no
number that is added to it. -/
def total (xs : List R) : R := xs.foldl (· + ·) (Scalar.ofFloat (-0.0))

/-- The mean latency, zero when there is none. -/
def mean (s : Samples) : R :=
  if s.count = 0 then Scalar.ofNat 0
  else total (s.toList.map fun n => (Scalar.ofNat n.toNat : R)) / Scalar.ofNat s.count

/-- The sample variance, zero for fewer than two samples. -/
def variance (s : Samples) : R :=
  if s.count < 2 then Scalar.ofNat 0
  else
    let mean : R := s.mean
    total (s.toList.map fun n =>
      (Scalar.ofNat n.toNat - mean) * (Scalar.ofNat n.toNat - mean)) /
      Scalar.ofNat (s.count - 1)

end Samples

end LoadFleet
