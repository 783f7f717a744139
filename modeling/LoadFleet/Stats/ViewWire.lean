import LoadFleet.Stats.Distribution
import LoadFleet.Stats.Rate
import LoadFleet.Stats.Wire
/-!
# Views in JSON

What is computed from statistics is written as records. It is for people and other programs, and is
never read back.
-/

namespace LoadFleet

/-- Writes counters. -/
def Outcome.toJson (o : Outcome Float) : Json :=
  .obj [("requests", .nat o.requests), ("errors", .nat o.errors), ("mean", .float o.mean),
    ("max", .nat o.largest)]

/-- Writes the mean and the standard deviation of an accumulator, if it has one. -/
def Accumulator.spreadToJson (a : OperationStats) : Json :=
  .option (fun d => .obj [("mean", .float a.mean), ("dev", .float d)]) a.deviation?

/-- What a log line shows of an accumulator that keeps a sketch. -/
def Accumulator.sketchText (a : OperationStats) : String :=
  s!"Sketch(SketchStats \x7b count: {a.requests}, errors: {a.errors}, .. \x7d)"

/-- Writes a box plot. -/
def BoxPlot.toJson (b : BoxPlot) : Json :=
  .obj [("max_regular", .float b.maxRegular), ("upper_quartile", .float b.upperQuartile),
    ("midpoint", .float b.midpoint), ("lower_quartile", .float b.lowerQuartile),
    ("min_regular", .float b.minRegular)]

/-- Writes the latency at a percentile. -/
def percentileToJson (p value : Float) : Json :=
  .obj [("percentile", .float p), ("value", .float value)]

/-- Writes a histogram. -/
def Histogram.toJson (h : Histogram) : Json :=
  .obj [("ranges", .arr (h.boundaries.map .nat)), ("counts", .arr (h.counts.map .nat)),
    ("total", .nat h.total)]

/-- Writes requests per second. -/
def Throughput.toJson (t : Throughput Float) : Json :=
  .obj [("theoretical", .float t.theoretical), ("actual", .float t.actual)]

/-- Writes bytes per second. -/
def bytesPerSecondToJson (bytes : Float) : Json := .obj [("bytes_per_sec", .float bytes)]

end LoadFleet
