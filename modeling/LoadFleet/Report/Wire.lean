import LoadFleet.Ack.Wire
import LoadFleet.Report.Report
/-!
# Reports in JSON
-/

namespace LoadFleet

open Json (Place)

namespace WorkerResult

/-- Writes the value of a result for a worker. -/
def toJson (r : WorkerResult) : Json :=
  .obj [("value", .str r.value), ("suspicious", .bool r.suspicious)]

/-- Reads the value of a result for a worker. -/
def ofJson? (j : Json) : Option WorkerResult := do
  let [value, suspicious] ← j.record? ["value", "suspicious"] | none
  return ⟨← value.required Json.str?, ← suspicious.required Json.bool?⟩

end WorkerResult

namespace TestResult

/-- Writes a result. -/
def toJson (r : TestResult) : Json :=
  .obj [("name", .str r.name), ("workers", .wordMap WorkerResult.toJson r.workers),
    ("aggregated", .str r.aggregated), ("suspicious", .bool r.suspicious)]

/-- Reads a result. -/
def ofJson? (j : Json) : Option TestResult := do
  let [name, workers, aggregated, suspicious] ←
    j.record? ["name", "workers", "aggregated", "suspicious"] | none
  return {
    name := ← name.required Json.str?
    workers := ← workers.required (Json.wordMap? WorkerResult.ofJson?)
    aggregated := ← aggregated.required Json.str?
    suspicious := ← suspicious.required Json.bool? }

end TestResult

namespace TestIteration

/-- Writes an iteration. -/
def toJson (i : TestIteration) : Json :=
  .obj [("index", .nat i.index), ("stage", .str i.stage),
    ("statistics", .wordMap (fun threads => .arr (threads.map Statistics.toJson)) i.statistics),
    ("results", .map TestResult.toJson i.results)]

/-- Reads an iteration. -/
def ofJson? (place : Place) (j : Json) : Option TestIteration := do
  let [index, stage, statistics, results] ←
    j.record? ["index", "stage", "statistics", "results"] | none
  return {
    index := ← index.required Json.word?
    stage := ← stage.required Json.str?
    statistics := ← statistics.required
      (Json.wordMap? (Json.list? (Statistics.ofJson? (place.deeper 3))))
    results := ← results.required (Json.map? TestResult.ofJson?) }

end TestIteration

namespace Test

/-- Writes a test. -/
def toJson (t : Test) : Json :=
  .obj [("name", .str t.name), ("iterations", .arr (t.iterations.map TestIteration.toJson))]

/-- Reads a test. -/
def ofJson? (place : Place) (j : Json) : Option Test := do
  let [name, iterations] ← j.record? ["name", "iterations"] | none
  return ⟨← name.required Json.str?,
    ← iterations.required (Json.list? (TestIteration.ofJson? (place.deeper 2)))⟩

end Test

namespace Report

/-- Writes a report. -/
def toJson (r : Report) : Json := .obj [("tests", .arr (r.tests.map Test.toJson))]

/-- Reads a report. -/
def ofJson? (place : Place) (j : Json) : Option Report := do
  let [tests] ← j.record? ["tests"] | none
  return ⟨← tests.required (Json.list? (Test.ofJson? (place.deeper 2)))⟩

/-- Reads a report that stands by itself. -/
def read? (text : String) : Option Report := (Json.read? text).bind (ofJson? .json)

end Report

end LoadFleet
