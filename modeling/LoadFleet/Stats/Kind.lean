/-!
# Kinds of accumulators

Latencies are kept in one of three ways, which differ in memory and in what can be asked later.
-/

namespace LoadFleet

/-- How the latencies of an operation are kept. -/
inductive StatsKind where
  /-- Fixed memory: counters and moments only. -/
  | basic
  /-- Every sample. -/
  | recording
  /-- A quantile sketch of bounded relative error. -/
  | sketch
  deriving DecidableEq, Inhabited

namespace StatsKind

/-- All kinds, in their order. -/
def all : List StatsKind := [basic, recording, sketch]

/-- The name of a kind in texts and messages. -/
def name : StatsKind → String
  | basic => "basic"
  | recording => "recording"
  | sketch => "sketch"

/-- The kind of a name. -/
def ofName? (name : String) : Option StatsKind := all.find? fun k => k.name = name

end StatsKind

/-- Why statistics could not be filled, merged or asked. -/
inductive StatsError where
  | incompatibleKinds (left right : StatsKind)
  | invalidPercentile (percentile : String)
  | noBuckets
  | sketch (reason : String)
  /-- A counter has no room for what is added to it. Nobody handles this one: the program crashes,
  and says so. -/
  | overflow
  deriving DecidableEq

/-- The wording of an error. -/
def StatsError.message : StatsError → String
  | incompatibleKinds left right =>
    s!"cannot merge {right.name} statistics into {left.name} statistics"
  | invalidPercentile percentile => s!"percentile {percentile} is outside of [0, 100]"
  | noBuckets => "histogram requires at least one bucket"
  | sketch reason => s!"sketch error: {reason}"
  | overflow => "attempt to add with overflow"

end LoadFleet
