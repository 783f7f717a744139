import LoadFleet.Number.Decimal
import LoadFleet.Stats.Accumulator
/-!
# Views of a latency distribution

Views are computed from an accumulator when they are asked for. A view is absent when the kind of
the accumulator cannot tell.

* `rank` and `atPercentile?`: the smallest sample such that at least the given share of all
  samples is not above it.
* `Histogram.ofSorted?`: counts between boundaries that grow by a constant factor.
* `BoxPlot`: five percentiles, or their estimates from mean and deviation.
-/

namespace LoadFleet

/-- Counters with the mean and the largest latency. -/
structure Outcome (R : Type) where
  requests : UInt64
  errors : UInt64
  mean : R
  largest : UInt64

namespace Accumulator

/-- The counters of an accumulator with its mean and largest latency. -/
def outcome {R : Type} [Scalar R] (a : Accumulator R) : Outcome R :=
  ⟨a.requests, a.errors, a.mean, a.largest⟩

/-- The sample variance of the latencies. -/
def variance? {R : Type} [Scalar R] : Accumulator R → Option R
  | basic m => some m.variance
  | recording s => some s.variance
  | sketch _ _ => none

/-- The sample standard deviation of the latencies. -/
def deviation? (a : OperationStats) : Option Float := a.variance?.map Float.sqrt

end Accumulator

/-! ### Percentiles -/

/-- Whether a percentile lies between zero and a hundred. -/
def isPercentile {R : Type} [Scalar R] (p : R) : Bool :=
  Scalar.atMost (Scalar.ofNat 0) p && Scalar.atMost p (Scalar.ofNat 100)

/-- A percentile that lies between zero and a hundred. -/
def checkPercentile (p : Float) : Except StatsError Unit :=
  if isPercentile p then .ok () else .error (.invalidPercentile (plainText p))

/-- How many of `n` samples make up the share `p`, rounded up. -/
def rank {R : Type} [Scalar R] (p : R) (n : Nat) : Nat :=
  Scalar.ceil (p * Scalar.ofNat n / Scalar.ofNat 100)

/-- The sample at a percentile of samples in ascending order. -/
def atPercentile? {R : Type} [Scalar R] (sorted : List UInt64) (p : R) : Option UInt64 :=
  sorted[min (rank p sorted.length - 1) (sorted.length - 1)]?

/-- The latency at a percentile; sketches estimate it. -/
def Accumulator.percentile? (a : OperationStats) (p : Float) :
    Except StatsError (Option Float) := do
  checkPercentile p
  match a with
  | basic _ => return none
  | recording s => return (atPercentile? s.sorted p).map UInt64.toFloat
  | sketch s _ => s.quantile? (p / 100)

/-! ### Histograms -/

/-- Counts of samples between ascending boundaries. Every bucket holds the samples from its lower
boundary up to, but without, its upper one; the last holds its upper boundary too. -/
structure Histogram where
  boundaries : List UInt64
  counts : List UInt64
  deriving DecidableEq

namespace Histogram

/-- The number of buckets unless another is asked for. -/
def defaultBuckets : Nat := 32

/-- The percentile above which samples are left out, unless another is asked for. -/
def defaultCutoff : Float := 99

/-- The number of samples in all buckets. -/
def total (h : Histogram) : UInt64 := h.counts.foldl (· + ·) 0

/-- The boundaries inside the range of a histogram, from the proposals for them: each is moved
between the one before it and the upper end. -/
def innerBoundaries (high : UInt64) : UInt64 → List UInt64 → List UInt64
  | _, [] => []
  | low, b :: r =>
    let b := max low (min b high)
    b :: innerBoundaries high b r

/-- A power with a whole exponent, by repeated squaring. -/
def powNat (x : Float) (n : Nat) : Float :=
  let rec go : Nat → Float → Nat → Float → Float
    | 0, _, _, r => r
    | steps + 1, x, n, r =>
      let r := if n % 2 = 1 then r * x else r
      if n / 2 = 0 then r else go steps (x * x) (n / 2) r
  go (n.log2 + 1) x n 1

/-- Proposals for the inner boundaries, which grow by a constant factor. -/
def proposals (low high : UInt64) (buckets : Nat) : List UInt64 :=
  let first := (max low 1).toFloat
  let factor := ((max high 1).toFloat / first).pow (1 / floatOfCount buckets)
  (List.range (buckets - 1)).map fun i =>
    (Dyadic.clampWord Dyadic.round (first * powNat factor (i + 1))).toUInt64

/-- The bucket of a sample: the number of inner boundaries that are not above it. -/
def bucket (inner : List UInt64) (sample : UInt64) : Nat :=
  (inner.takeWhile fun b => b ≤ sample).length

/-- Counts samples by bucket. -/
def countBuckets (inner : List UInt64) (buckets : Nat) (samples : List UInt64) : List UInt64 :=
  (samples.foldl (fun counts s => counts.modify (bucket inner s) (· + 1))
    (Array.replicate buckets (0 : UInt64))).toList

/-- The histogram of samples in ascending order up to the cutoff value, with proposals for the
inner boundaries. -/
def ofSorted? (proposals : UInt64 → UInt64 → Nat → List UInt64) (sorted : List UInt64)
    (high : Option UInt64) (buckets : Nat) : Option Histogram :=
  match sorted, high with
  | low :: _, some high =>
    let inner := innerBoundaries high low (proposals low high buckets)
    let kept := sorted.takeWhile fun s => s ≤ high
    some ⟨low :: inner ++ [high], countBuckets inner buckets kept⟩
  | _, _ => none

end Histogram

/-- The histogram of the samples up to a cutoff percentile. -/
def Accumulator.histogram? (a : OperationStats) (buckets : Nat) (cutoff : Float) :
    Except StatsError (Option Histogram) :=
  if buckets = 0 then .error .noBuckets
  else
    (checkPercentile cutoff).map fun _ =>
      match a with
      | recording s =>
        Histogram.ofSorted? Histogram.proposals s.sorted (atPercentile? s.sorted cutoff) buckets
      | _ => none

/-! ### Box plots -/

/-- A box plot of a distribution. -/
structure BoxPlot where
  maxRegular : Float
  upperQuartile : Float
  midpoint : Float
  lowerQuartile : Float
  minRegular : Float

namespace BoxPlot

/-- The distance from the mean, in deviations, of the ends of the middle 95 percent of a normal
distribution. -/
def whisker : Float := 1.96

/-- The distance from the mean, in deviations, of the quartiles of a normal distribution. -/
def quartile : Float := 0.67448

/-- The box plot of a normal distribution. -/
def normal (mean deviation : Float) : BoxPlot :=
  ⟨mean + whisker * deviation, mean + quartile * deviation, mean, mean - quartile * deviation,
    mean - whisker * deviation⟩

end BoxPlot

/-- The box plot of the latencies; moments stand for a normal distribution. -/
def Accumulator.boxPlot? (a : OperationStats) : Except StatsError (Option BoxPlot) :=
  match a with
  | basic m => .ok (some (BoxPlot.normal m.mean m.variance.sqrt))
  | a => do
    let high ← a.percentile? 97.5
    let upper ← a.percentile? 75
    let middle ← a.percentile? 50
    let lower ← a.percentile? 25
    let low ← a.percentile? 2.5
    return match high, upper, middle, lower, low with
    | some high, some upper, some middle, some lower, some low =>
      some ⟨high, upper, middle, lower, low⟩
    | _, _, _, _, _ => none

end LoadFleet
