import LoadFleet.Number.Decimal
import LoadFleet.Report.Report
import LoadFleet.Stats.Rate
/-!
# Verdicts on stages

`aggregate` turns the acknowledgements of a stage into a verdict and into an iteration of the
report.

The checks of an iteration stage yield findings, whatever the policy of the stage is. The policy
only decides which findings fail the stage and which are warnings. Errors of workers, and of
recording, always fail it.
-/

namespace LoadFleet

/-- How a stage ended. -/
inductive StageStatus where
  | passed
  | failed
  | skipped
  deriving DecidableEq

/-- The name of a status in texts. -/
def StageStatus.name : StageStatus → String
  | passed => "passed"
  | failed => "failed"
  | skipped => "skipped"

/-- How a stage of a plan ended, and why. -/
structure StageOutcome where
  stage : String
  status : StageStatus
  failures : List String
  warnings : List String
  deriving DecidableEq

namespace StageOutcome

/-- The outcome of a stage that was not run. -/
def skipped (stage : String) : StageOutcome := ⟨stage, .skipped, [], []⟩

/-- The outcome of a stage that failed for one reason. -/
def failed (stage reason : String) : StageOutcome := ⟨stage, .failed, [reason], []⟩

/-- Whether the stage passed. -/
def passed (o : StageOutcome) : Bool := o.status = .passed

/-- A stage passes when nothing fails it. -/
def ofFindings (stage : String) (failures warnings : List String) : StageOutcome :=
  ⟨stage, if failures.isEmpty then .passed else .failed, failures, warnings⟩

end StageOutcome

/-- All acknowledgements of a stage, by worker. -/
abbrev Acknowledgements := OrderedMap WorkerIndex Acknowledgement

/-! ### Checks of an iteration -/

/-- What a check of an iteration looks at. -/
inductive Rule where
  /-- Every pass over the entries succeeds. -/
  | completeIteration
  /-- All passes find the same number of entries. -/
  | evenElements
  /-- Every pass finds as many entries as the container holds. -/
  | totalSize
  deriving DecidableEq

/-- A violation of a rule. -/
structure Finding where
  rule : Rule
  message : String
  deriving DecidableEq

/-- Whether the settings let a violation of the rule fail the stage. -/
def IterateSettings.enforces (s : IterateSettings) : Rule → Bool
  | .completeIteration => s.failOnFailedIteration
  | .evenElements => s.failOnUnevenElements
  | .totalSize => s.requiresTotalSize

/-- The numbers of entries that a stressor found: the least and the greatest. -/
structure ElementRange where
  least : UInt64
  greatest : UInt64
  deriving DecidableEq

namespace ElementRange

/-- The range that covers two ranges. -/
def join (a b : ElementRange) : ElementRange := ⟨min a.least b.least, max a.greatest b.greatest⟩

/-- Whether the range holds one number only, this one. -/
def isExactly (r : ElementRange) (n : UInt64) : Bool := r.least = n && r.greatest = n

/-- The text of a range; a single number stands for itself. -/
def text (r : ElementRange) : String :=
  if r.least = r.greatest then s!"{r.least}" else s!"{r.least} .. {r.greatest}"

/-- The range that covers a list of ranges. -/
def joinAll? : List ElementRange → Option ElementRange
  | [] => none
  | r :: rs => some (rs.foldl join r)

end ElementRange

/-- The numbers of entries of a result, if passes were completed. -/
def IterationResult.range? (r : IterationResult) : Option ElementRange := do
  return ⟨← r.minElements, ← r.maxElements⟩

/-- The result of one stressor of a worker, with the size that the worker saw. -/
structure StressorResult where
  worker : WorkerIndex
  stressor : Nat
  result : IterationResult
  totalSize : Option UInt64

namespace Acknowledgements

/-- The iteration results of each worker that sent some, with the size that it saw. -/
def iterations (acks : Acknowledgements) :
    List (WorkerIndex × List IterationResult × Option UInt64) :=
  acks.entries.filterMap fun (worker, ack) =>
    match ack.payload with
    | .iteration results totalSize => some (worker, results, totalSize)
    | _ => none

/-- The statistics of the stressors of each worker that sent some. -/
def statistics (acks : Acknowledgements) : List (WorkerIndex × List RunStatistics) :=
  acks.entries.filterMap fun (worker, ack) =>
    match ack.payload with
    | .statistics threads => some (worker, threads)
    | _ => none

/-- All results of stressors, in the order of workers and stressors. -/
def stressors (acks : Acknowledgements) : List StressorResult :=
  acks.iterations.flatMap fun (worker, results, totalSize) =>
    results.zipIdx.map fun (result, i) => ⟨worker, i, result, totalSize⟩

/-- The size of the container that each worker saw, if it saw one. -/
def totalSizes (acks : Acknowledgements) : List (WorkerIndex × UInt64) :=
  acks.iterations.filterMap fun (worker, _, totalSize) => totalSize.map fun n => (worker, n)

end Acknowledgements

/-- The stressor whose number of entries the later ones are compared with. -/
structure Reference where
  worker : WorkerIndex
  stressor : Nat
  elements : UInt64

/-- A finding, if the rule is violated. -/
def Finding.unless (condition : Bool) (rule : Rule) (message : String) : List Finding :=
  if condition then [] else [⟨rule, message⟩]

namespace StressorResult

/-- The stressor as the one to compare with, given its range. -/
def asReference (s : StressorResult) (range : ElementRange) : Reference :=
  ⟨s.worker, s.stressor, range.greatest⟩

/-- What there is to say about one stressor, given the one to compare with. -/
def findings (s : StressorResult) (reference : Option Reference) : List Finding :=
  let who := s!"worker {s.worker} stressor {s.stressor} saw"
  let failed := match s.result.failure with
    | some failure => [⟨.completeIteration, s!"worker {s.worker}: {failure}"⟩]
    | none => []
  match s.result.range? with
  | none => failed
  | some range =>
    let seen := s!"{who} {range.least} to {range.greatest} elements"
    failed ++
      Finding.unless (range.least = range.greatest) .evenElements
        s!"{who} between {range.least} and {range.greatest} elements" ++
      (match reference with
        | some other =>
          Finding.unless (range.isExactly other.elements) .evenElements
            s!"{seen}, but worker {other.worker} stressor {other.stressor} saw {other.elements}"
        | none => []) ++
      (match s.totalSize with
        | some size =>
          Finding.unless (range.isExactly size) .totalSize s!"{seen}, but the store holds {size}"
        | none => [])

end StressorResult

/-- What there is to say about a list of stressors. The first one with a range is what all later
ones are compared with. -/
def stressorFindings : Option Reference → List StressorResult → List Finding
  | _, [] => []
  | reference, s :: r =>
    let next := reference.orElse fun _ => s.result.range?.map s.asReference
    s.findings reference ++ stressorFindings next r

/-- The sizes that workers saw, in a message. -/
def sizesText (sizes : List (WorkerIndex × UInt64)) : String :=
  "\x7b" ++ ", ".intercalate (sizes.map fun (worker, n) => s!"{worker}: {n}") ++ "\x7d"

/-- All workers see a container of the same size. -/
def sizeFindings (sizes : List (WorkerIndex × UInt64)) : List Finding :=
  match sizes with
  | [] => []
  | (_, first) :: r =>
    Finding.unless (r.all fun e => e.2 = first) .totalSize
      s!"workers report different total sizes: {sizesText sizes}"

/-- What there is to say about an iteration, in order. -/
def iterationFindings (acks : Acknowledgements) : List Finding :=
  stressorFindings none acks.stressors ++ sizeFindings acks.totalSizes

/-! ### Results -/

/-- The name of the result that tells how many entries were found. -/
def elementsName : String := "Elements"

/-- The name of the result that tells requests per second. -/
def throughputName : String := "Throughput"

/-- The name of the result that tells bytes per second. -/
def dataThroughputName : String := "Data throughput"

/-- The numbers of entries that the stressors of each worker found together. -/
def workerRanges (acks : Acknowledgements) : List (WorkerIndex × ElementRange) :=
  acks.iterations.filterMap fun (worker, results, _) =>
    (ElementRange.joinAll? (results.filterMap IterationResult.range?)).map fun r => (worker, r)

/-- The value of a range of one worker; different numbers are suspicious. -/
def ElementRange.toResult (r : ElementRange) : WorkerResult :=
  ⟨r.text, r.least ≠ r.greatest⟩

/-- The result that tells how many entries were found, if passes were completed. -/
def elementsResult? (acks : Acknowledgements) : Option TestResult :=
  let ranges := workerRanges acks
  (ElementRange.joinAll? (ranges.map (·.2))).map fun all =>
    { name := elementsName
      workers := .ofList (ranges.map fun (worker, r) => (worker, r.toResult))
      aggregated := all.text
      suspicious := ranges.any (fun e => e.2.least ≠ e.2.greatest) || all.least ≠ all.greatest }

/-- Adds a result if there is one. -/
def TestIteration.addIfAny? (test : String) (result : Option TestResult) (i : TestIteration) :
    Except CoordinatorError TestIteration :=
  match result with
  | some result => i.addResult? test result
  | none => .ok i

/-- Fills an iteration of the report from an iteration stage. -/
def fillIteration? (test : String) (acks : Acknowledgements) (i : TestIteration) :
    Except CoordinatorError TestIteration :=
  (acks.iterations.foldl
    (fun i (worker, results, _) => i.addStatistics worker (results.map (·.stats))) i).addIfAny?
    test (elementsResult? acks)

/-- What the stressors of a worker come to: their statistics together, and the requests per second
that they reached if there is such a rate. -/
abbrev WorkerTotal := RunStatistics × Option (Throughput Float)

/-- What the stressors of a worker come to, if there are any. -/
def workerTotal? (threads : List RunStatistics) : Except StatsError (Option WorkerTotal) := do
  match ← Statistics.mergeAll threads with
  | some s => return some (s, ← s.totalThroughput? threads.length.toUInt64)
  | none => return none

/-- What each worker that ran stressors comes to. -/
def mergeWorkers? : List (WorkerIndex × List RunStatistics) →
    Except StatsError (List (WorkerIndex × WorkerTotal))
  | [] => .ok []
  | (worker, threads) :: r => do
    let total ← workerTotal? threads
    let rest ← mergeWorkers? r
    return match total with
      | some t => (worker, t) :: rest
      | none => rest

/-- The requests per second of a worker, or of all workers, as a text. -/
def Throughput.text (t : Throughput Float) : String :=
  s!"{fixedPlaces 2 t.actual} reqs/s (theoretical {fixedPlaces 2 t.theoretical} reqs/s)"

/-- The bytes per second of a worker, or of all workers, as a text. -/
def bytesText (bytes : Float) : String := s!"{fixedPlaces 2 bytes} B/s"

/-- The payload bytes per second that a worker read and wrote. -/
def transferred (entrySize : UInt64) (s : RunStatistics) : Float :=
  Samples.total (["GET", "PUT"].filterMap fun operation => s.dataThroughput? operation entrySize)

/-- The result that tells requests per second, if some worker has a value. -/
def throughputResult? (workers : List (WorkerIndex × WorkerTotal)) : Option TestResult :=
  let values := workers.filterMap fun (worker, _, rate) => rate.map fun t => (worker, t)
  let total : Throughput Float :=
    values.foldl (fun sum (_, t) => ⟨sum.theoretical + t.theoretical, sum.actual + t.actual⟩)
      ⟨0, 0⟩
  if values.isEmpty then none
  else some
    { name := throughputName
      workers := .ofList (values.map fun (worker, t) => (worker, ⟨t.text, false⟩))
      aggregated := total.text
      suspicious := false }

/-- The result that tells bytes per second, if some worker ran stressors. -/
def dataThroughputResult? (entrySize : UInt64) (workers : List (WorkerIndex × WorkerTotal)) :
    Option TestResult :=
  let values := workers.map fun (worker, s, _) => (worker, transferred entrySize s)
  let total := values.foldl (fun sum e => sum + e.2) 0
  if values.isEmpty then none
  else some
    { name := dataThroughputName
      workers := .ofList (values.map fun (worker, bytes) => (worker, ⟨bytesText bytes, false⟩))
      aggregated := bytesText total
      suspicious := false }

/-- Fills an iteration of the report from a stress test. -/
def fillStress? (settings : StressSettings) (acks : Acknowledgements) (i : TestIteration) :
    Except CoordinatorError TestIteration := do
  let i := acks.statistics.foldl (fun i (worker, threads) => i.addStatistics worker threads) i
  let workers ← (mergeWorkers? acks.statistics).mapError .stats
  let i ← i.addIfAny? settings.test.name (throughputResult? workers)
  i.addIfAny? settings.test.name (dataThroughputResult? settings.entrySize workers)

/-! ### Aggregation -/

/-- What of the acknowledgements a stage records in an iteration. -/
def StageKind.fill? : StageKind → Acknowledgements → TestIteration →
    Except CoordinatorError TestIteration
  | .iterate s, acks, i => fillIteration? s.test.name acks i
  | .stress s, acks, i => fillStress? s acks i
  | _, _, i => .ok i

/-- Records the acknowledgements of a stage, if its test is one to record. -/
def record? (stage : Stage) (acks : Acknowledgements) (report : Report) :
    Except CoordinatorError Report :=
  match stage.kind.test? with
  | some test =>
    if test.isRecorded then
      (report.recordIteration? test.name stage.name test.amend (stage.kind.fill? acks)).map (·.1)
    else .ok report
  | none => .ok report

/-- The errors of the workers, in the order of the workers. -/
def workerErrors (acks : Acknowledgements) : List String :=
  acks.values.filterMap fun ack => ack.error.map AckError.text

/-- The findings of a stage. -/
def StageKind.findings : StageKind → Acknowledgements → List Finding
  | .iterate _, acks => iterationFindings acks
  | _, _ => []

/-- Whether a stage lets a violation of a rule fail it. -/
def StageKind.enforces : StageKind → Rule → Bool
  | .iterate s, rule => s.enforces rule
  | _, _ => false

/-- The verdict on a stage, and the report after it. Nothing is recorded when recording fails; an
overflow is such a failure too, and with it the program crashes. -/
def aggregate (stage : Stage) (acks : Acknowledgements) (report : Report) :
    StageOutcome × Report :=
  let findings := stage.kind.findings acks
  let enforced := findings.filter fun f => stage.kind.enforces f.rule
  let ignored := findings.filter fun f => !stage.kind.enforces f.rule
  let checked := workerErrors acks ++ enforced.map (·.message)
  let warnings := ignored.map (·.message)
  match record? stage acks report with
  | .ok recorded => (.ofFindings stage.name checked warnings, recorded)
  | .error e =>
    (.ofFindings stage.name (checked ++ [s!"failed to record results: {e.message}"]) warnings,
      report)

end LoadFleet
