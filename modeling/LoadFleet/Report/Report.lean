import LoadFleet.Ack.Acknowledgement
import LoadFleet.Coordinator.Error
/-!
# Reports

A report is a list of tests with different names. Every recorded stage adds one iteration to a
test, numbered from zero: the statistics of all stressors by worker, and named results.

`Report.recordIteration?` adds an iteration or leaves the report as it is; nothing else changes a
report.
-/

namespace LoadFleet

/-- The value of a result for one worker. -/
structure WorkerResult where
  value : String
  /-- Whether the value points to trouble. -/
  suspicious : Bool
  deriving DecidableEq

/-- A named result of an iteration. -/
structure TestResult where
  name : String
  workers : OrderedMap WorkerIndex WorkerResult
  /-- The value for all workers together. -/
  aggregated : String
  suspicious : Bool
  deriving DecidableEq

/-- What one stage recorded. -/
structure TestIteration where
  /-- The position among the iterations of the test. -/
  index : UInt64
  stage : String
  /-- The statistics of the stressors of each worker. -/
  statistics : OrderedMap WorkerIndex (List RunStatistics)
  results : OrderedMap String TestResult

namespace TestIteration

/-- Adds the statistics of stressors of a worker. -/
def addStatistics (i : TestIteration) (worker : WorkerIndex) (threads : List RunStatistics) :
    TestIteration :=
  let known := (i.statistics.find? worker).getD []
  { i with statistics := i.statistics.insert worker (known ++ threads) }

/-- Adds a result under its name, which has to be new. -/
def addResult? (i : TestIteration) (test : String) (result : TestResult) :
    Except CoordinatorError TestIteration :=
  if i.results.contains result.name then .error (.duplicateResult test result.name)
  else .ok { i with results := i.results.insert result.name result }

/-- The statistics of all stressors of a worker together. -/
def workerStatistics? (i : TestIteration) (worker : WorkerIndex) :
    Except StatsError (Option RunStatistics) :=
  match i.statistics.find? worker with
  | some threads => Statistics.mergeAll threads
  | none => .ok none

/-- The statistics of all stressors of all workers together. -/
def mergedStatistics? (i : TestIteration) : Except StatsError (Option RunStatistics) :=
  Statistics.mergeAll i.statistics.values.flatten

end TestIteration

/-- A test: the iterations that were recorded under its name. -/
structure Test where
  name : String
  iterations : List TestIteration

/-- The tests of a run, in the order in which they were recorded first. -/
structure Report where
  tests : List Test

namespace Report

/-- A report of nothing. -/
def empty : Report := ⟨[]⟩

/-- The test of a name. -/
def test? (r : Report) (name : String) : Option Test := r.tests.find? fun t => t.name = name

/-- Adds an iteration to the first test of a name. -/
def append (name : String) (iteration : TestIteration) : List Test → List Test
  | [] => []
  | t :: r =>
    if t.name = name then { t with iterations := t.iterations ++ [iteration] } :: r
    else t :: append name iteration r

/-- Records an iteration of a test, which is created if the report does not have it. A test that
exists is only added to if `amend` says so, and nothing is recorded when filling the iteration
fails. -/
def recordIteration? (r : Report) (name stage : String) (amend : Bool)
    (fill : TestIteration → Except CoordinatorError TestIteration) :
    Except CoordinatorError (Report × TestIteration) :=
  match r.test? name with
  | some test =>
    if amend then do
      let iteration ← fill ⟨test.iterations.length.toUInt64, stage, .empty, .empty⟩
      return (⟨append name iteration r.tests⟩, iteration)
    else .error (.duplicateTest name)
  | none => do
    let iteration ← fill ⟨0, stage, .empty, .empty⟩
    return (⟨r.tests ++ [⟨name, [iteration]⟩]⟩, iteration)

end Report

end LoadFleet
