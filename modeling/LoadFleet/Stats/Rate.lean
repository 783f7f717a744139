import LoadFleet.Number.Scalar
import LoadFleet.Time.Span
/-!
# Rates

Requests and bytes per second of wall clock time. A rate is absent when no time passed, so nothing
is divided by zero.
-/

namespace LoadFleet

/-- Requests per second: what a number of units would reach if every request took the mean
latency, and what was reached. -/
structure Throughput (R : Type) where
  theoretical : R
  actual : R

/-- The requests per second of `units` concurrent units, from the mean latency in nanoseconds and
the span in which the requests were made. -/
def Throughput.compute? {R : Type} [Scalar R] (requests : UInt64) (mean : R) (units : UInt64)
    (span : Span) : Option (Throughput R) :=
  let zero : R := Scalar.ofNat 0
  let nanos : R := Scalar.ofNat span.nanos
  let second : R := Scalar.ofNat nanosPerSecond
  if Scalar.atMost nanos zero || Scalar.atMost mean zero then none
  else some
    { theoretical := second * Scalar.ofNat units.toNat / mean
      actual := second * Scalar.ofNat requests.toNat / nanos }

/-- A span in seconds. -/
def Span.inSeconds {R : Type} [Scalar R] (a : Span) : R :=
  Scalar.ofNat a.seconds + Scalar.ofNat a.subsecond / Scalar.ofNat nanosPerSecond

/-- Bytes per second, from the bytes of each request. -/
def bytesPerSecond? {R : Type} [Scalar R] (requests bytes : UInt64) (span : Span) : Option R :=
  let seconds : R := span.inSeconds
  if Scalar.atMost seconds (Scalar.ofNat 0) then none
  else some (Scalar.ofNat requests.toNat * Scalar.ofNat bytes.toNat / seconds)

end LoadFleet
