import LoadFleet.Stats.Statistics
import LoadFleet.Wire.Record
/-!
# Statistics in JSON

Accumulators are written as choices with the tag `kind`, statistics as records. Points of time are
split into whole seconds since the epoch and nanoseconds.

A sketch of no values has infinite bounds, for which JSON has no number; it is written, but cannot
be read.
-/

namespace LoadFleet

open Json (Place)

/-! ### Points of time -/

namespace WallTime

/-- A point of time as seconds and nanoseconds. -/
def toJson (t : WallTime) : Json :=
  .obj [("secs_since_epoch", .nat (t.nanos / nanosPerSecond).toUInt64),
    ("nanos_since_epoch", .nat (t.nanos % nanosPerSecond).toUInt64)]

/-- The fields of a point of time. -/
def fields : List String := ["secs_since_epoch", "nanos_since_epoch"]

/-- Whether a value has no other fields than those of a point of time. -/
def onlyFields : Json → Bool
  | .obj members => members.all fun m => fields.contains m.1
  | .keyed _ => false
  | _ => true

/-- The nanoseconds since the epoch from the fields of a point of time. Nanoseconds beyond a second
are carried over. -/
def nanos? : List Slot → Option Nat
  | [seconds, nanos] => do
    return (← seconds.required Json.word?).toNat * nanosPerSecond +
      (← nanos.required Json.halfWord?).toNat
  | _ => none

/-- Reads a point of time; unlike in other records, an unknown field is an error. -/
def ofJson? (j : Json) : Option WallTime :=
  if onlyFields j then ((j.record? fields).bind nanos?).bind ofNanos? else none

end WallTime

/-! ### Accumulators -/

/-- The kind of a name. -/
def StatsKind.ofJson? (place : Place) : Json → Option StatsKind :=
  Json.name? StatsKind.all StatsKind.ofName? place

/-- A kind by its name. -/
def StatsKind.toJson (k : StatsKind) : Json := .str k.name

namespace Moments

/-- The fields of a summary. -/
def fields : List String := ["requests", "errors", "max", "sum", "mean", "m2"]

/-- The members of a written summary. -/
def members (m : Moments Float) : List (String × Json) :=
  [("requests", .nat m.requests), ("errors", .nat m.errors), ("max", .nat m.largest),
    ("sum", .nat m.sum), ("mean", .float m.mean), ("m2", .float m.deviation)]

/-- Reads a summary. -/
def ofJson? (j : Json) : Option (Moments Float) := do
  let [requests, errors, largest, sum, mean, deviation] ← j.record? fields | none
  return {
    requests := ← requests.required Json.word?
    errors := ← errors.required Json.word?
    largest := ← largest.required Json.word?
    sum := ← sum.required Json.word?
    mean := ← mean.required Json.float?
    deviation := ← deviation.required Json.float? }

end Moments

namespace Samples

/-- The fields of a recording. -/
def fields : List String := ["samples", "errors"]

/-- The members of a written recording. -/
def members (s : Samples) : List (String × Json) :=
  [("samples", .arr (s.toList.map .nat)), ("errors", .nat s.errors)]

/-- Reads a recording. -/
def ofJson? (j : Json) : Option Samples := do
  let [samples, errors] ← j.record? fields | none
  return ⟨(← samples.required (Json.list? Json.word?)).toArray, ← errors.required Json.word?⟩

end Samples

namespace BinStore

/-- The fields of a window of bins. -/
def fields : List String :=
  ["bins", "count", "min_key", "max_key", "offset", "bin_limit", "is_collapsed"]

/-- Writes a window of bins. -/
def toJson (s : BinStore) : Json :=
  .obj [("bins", .arr (s.bins.toList.map .nat)), ("count", .nat s.count),
    ("min_key", .int s.minKey), ("max_key", .int s.maxKey), ("offset", .int s.offset),
    ("bin_limit", .nat s.binLimit.toUInt64), ("is_collapsed", .bool s.isCollapsed)]

/-- Reads a window of bins. -/
def ofJson? (j : Json) : Option BinStore := do
  let [bins, count, minKey, maxKey, offset, binLimit, isCollapsed] ← j.record? fields | none
  return {
    bins := (← bins.required (Json.list? Json.word?)).toArray
    count := ← count.required Json.word?
    minKey := ← minKey.required Json.signedHalfWord?
    maxKey := ← maxKey.required Json.signedHalfWord?
    offset := ← offset.required Json.signedHalfWord?
    binLimit := (← binLimit.required Json.word?).toNat
    isCollapsed := ← isCollapsed.required Json.bool? }

end BinStore

namespace SketchConfig

/-- The fields of the settings of a sketch. -/
def fields : List String := ["max_num_bins", "gamma", "gamma_ln", "min_value", "offset"]

/-- Writes the settings of a sketch. -/
def toJson (c : SketchConfig) : Json :=
  .obj [("max_num_bins", .nat c.maxBins.toUInt64), ("gamma", .float c.gamma),
    ("gamma_ln", .float c.gammaLn), ("min_value", .float c.minValue), ("offset", .int c.offset)]

/-- Reads the settings of a sketch. -/
def ofJson? (j : Json) : Option SketchConfig := do
  let [maxBins, gamma, gammaLn, minValue, offset] ← j.record? fields | none
  return {
    maxBins := ← maxBins.required Json.halfWord?
    gamma := ← gamma.required Json.float?
    gammaLn := ← gammaLn.required Json.float?
    minValue := ← minValue.required Json.float?
    offset := ← offset.required Json.signedHalfWord? }

end SketchConfig

namespace Sketch

/-- The fields of a sketch. -/
def fields : List String :=
  ["config", "store", "negative_store", "min", "max", "sum", "zero_count"]

/-- Writes a sketch. -/
def toJson (s : Sketch) : Json :=
  .obj [("config", s.config.toJson), ("store", s.store.toJson),
    ("negative_store", s.negativeStore.toJson), ("min", .float s.least),
    ("max", .float s.greatest), ("sum", .float s.sum), ("zero_count", .nat s.zeroCount)]

/-- Reads a sketch. -/
def ofJson? (j : Json) : Option Sketch := do
  let [config, store, negativeStore, least, greatest, sum, zeroCount] ← j.record? fields | none
  return {
    config := ← config.required SketchConfig.ofJson?
    store := ← store.required BinStore.ofJson?
    negativeStore := ← negativeStore.required BinStore.ofJson?
    least := ← least.required Json.float?
    greatest := ← greatest.required Json.float?
    sum := ← sum.required Json.float?
    zeroCount := ← zeroCount.required Json.word? }

end Sketch

namespace Accumulator

/-- The members of a written accumulator after its kind. -/
def members : OperationStats → List (String × Json)
  | basic m => m.members
  | recording s => s.members
  | sketch s errors => [("sketch", s.toJson), ("errors", .nat errors)]

/-- Writes an accumulator. -/
def toJson (a : OperationStats) : Json := .obj (("kind", a.kind.toJson) :: a.members)

/-- Reads a sketch with its count of failures. -/
def sketchOfJson? (j : Json) : Option OperationStats := do
  let [s, errors] ← j.record? ["sketch", "errors"] | none
  return sketch (← s.required Sketch.ofJson?) (← errors.required Json.word?)

/-- Reads an accumulator. -/
def ofJson? (place : Place) (j : Json) : Option OperationStats := do
  let (kind, rest) ← j.choice? "kind" (StatsKind.all.map StatsKind.name) place
  match ← StatsKind.ofName? kind with
  | .basic => (Moments.ofJson? rest).map basic
  | .recording => (Samples.ofJson? rest).map recording
  | .sketch => sketchOfJson? rest

end Accumulator

/-! ### Statistics -/

namespace Statistics

/-- The fields of statistics. -/
def fields : List String := ["kind", "begin", "end", "operations"]

/-- Writes statistics. -/
def toJson (s : RunStatistics) : Json :=
  .obj [("kind", s.kind.toJson), ("begin", .option WallTime.toJson s.begun),
    ("end", .option WallTime.toJson s.ended), ("operations", .map Accumulator.toJson s.operations)]

/-- Reads statistics. -/
def ofJson? (place : Place) (j : Json) : Option RunStatistics := do
  let [kind, begun, ended, operations] ← j.record? fields | none
  return {
    kind := ← kind.required (StatsKind.ofJson? place)
    begun := ← begun.optional WallTime.ofJson?
    ended := ← ended.optional WallTime.ofJson?
    operations := ← operations.required (Json.map? (Accumulator.ofJson? (place.deeper 2))) }

/-- Reads statistics that stand by themselves. -/
def read? (text : String) : Option RunStatistics := (Json.read? text).bind (ofJson? .json)

end Statistics

/-- Reads an accumulator that stands by itself. -/
def Accumulator.read? (text : String) : Option OperationStats :=
  (Json.read? text).bind (ofJson? .json)

end LoadFleet
