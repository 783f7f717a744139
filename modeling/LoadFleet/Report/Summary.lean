import LoadFleet.Report.Verdict
import LoadFleet.Report.Wire
import LoadFleet.Stats.Distribution
import LoadFleet.Time.Brief
/-!
# Summaries of runs

A run of a plan leaves one outcome for every stage, and a report. `RunSummary.text` is what people
get to see of it, on a terminal with colours.
-/

namespace LoadFleet

/-- The outcomes of the stages of a plan and the report of the run. -/
structure RunSummary where
  report : Report
  outcomes : List StageOutcome

namespace RunSummary

/-- The summary of a run before its first stage. -/
def empty : RunSummary := ⟨.empty, []⟩

/-- Whether all stages passed. -/
def passed (s : RunSummary) : Bool := s.outcomes.all StageOutcome.passed

/-- Adds the outcome of a stage. -/
def addOutcome (s : RunSummary) (o : StageOutcome) : RunSummary :=
  { s with outcomes := s.outcomes ++ [o] }

end RunSummary

/-! ### JSON -/

/-- Writes the outcome of a stage. -/
def StageOutcome.toJson (o : StageOutcome) : Json :=
  .obj [("stage", .str o.stage), ("status", .str o.status.name),
    ("failures", .arr (o.failures.map .str)), ("warnings", .arr (o.warnings.map .str))]

/-- Writes a summary. -/
def RunSummary.toJson (s : RunSummary) : Json :=
  .obj [("report", s.report.toJson), ("outcomes", .arr (s.outcomes.map StageOutcome.toJson))]

/-! ### Text -/

/-- How a terminal shows a text. -/
inductive Emphasis where
  | bold | red | yellow | boldGreen | boldYellow | boldRed | boldBlue
  deriving DecidableEq

/-- The code that switches an emphasis on. -/
def Emphasis.code : Emphasis → String
  | bold => "1"
  | red => "31"
  | yellow => "33"
  | boldGreen => "1;32"
  | boldYellow => "1;33"
  | boldRed => "1;31"
  | boldBlue => "1;34"

/-- A text with an emphasis, which is switched off after it. -/
def Emphasis.on (e : Emphasis) (text : String) : String :=
  "\x1b[" ++ e.code ++ "m" ++ text ++ "\x1b[0m"

/-- The lines that tell how a stage ended. -/
def StageOutcome.lines (o : StageOutcome) : List String :=
  let head := match o.status with
    | .passed => ["  " ++ Emphasis.boldGreen.on "PASSED" ++ " " ++ o.stage]
    | .skipped => ["  " ++ Emphasis.boldYellow.on "SKIPPED" ++ " " ++ o.stage]
    | .failed =>
      ("  " ++ Emphasis.boldRed.on "FAILED" ++ " " ++ o.stage) :: o.failures.map ("    " ++ ·)
  head ++ o.warnings.map fun w => "    " ++ Emphasis.yellow.on "warning:" ++ " " ++ w

/-- A latency in whole nanoseconds, with two places in the largest unit that fits. -/
def latencyText (nanos : Float) : String := (Span.ofNanos nanos.toUInt64.toNat).briefFixed 2

/-- The percentiles that a summary shows. -/
def shownPercentiles : List Float := [50, 90, 99]

/-- The line that sums up an operation. -/
def operationLine (name : String) (a : OperationStats) : String :=
  let failures :=
    if a.errors = 0 then "" else ", " ++ Emphasis.boldRed.on s!"{a.errors} FAILURES"
  let percentiles := shownPercentiles.filterMap fun p =>
    match a.percentile? p with
    | .ok (some x) => some s!"; p{plainText p}: {latencyText x}"
    | _ => none
  "  " ++ Emphasis.boldGreen.on s!"{name}:" ++ " (" ++ Emphasis.bold.on s!"{a.requests}" ++
    " ops" ++ failures ++ ") avg: " ++ Emphasis.bold.on (latencyText a.mean) ++
    String.join percentiles

/-- The lines that sum up a result. -/
def TestResult.lines (r : TestResult) : List String :=
  let emphasis := if r.suspicious then Emphasis.boldRed else .bold
  s!"  {r.name}: {emphasis.on r.aggregated}" ::
    r.workers.entries.map fun (worker, v) => s!"    worker {worker}: {v.value}"

/-- The lines that sum up an iteration of a test. -/
def TestIteration.lines (test : String) (i : TestIteration) : List String :=
  let operations := match i.mergedStatistics? with
    | .ok (some merged) => merged.operations.entries.map fun (name, a) => operationLine name a
    | .ok none => []
    | .error e => ["  " ++ Emphasis.red.on s!"statistics unavailable: {e.message}"]
  ["", Emphasis.bold.on "## Test" ++ " " ++ Emphasis.boldBlue.on test ++
    s!" (iteration {i.index}, stage {i.stage})"] ++
    operations ++ i.results.values.flatMap TestResult.lines

/-- The lines that sum up a run. -/
def RunSummary.lines (s : RunSummary) : List String :=
  ["", Emphasis.bold.on "## STAGES"] ++ s.outcomes.flatMap StageOutcome.lines ++
    s.report.tests.flatMap fun t => t.iterations.flatMap fun i => i.lines t.name

/-- The text that sums up a run. -/
def RunSummary.text (s : RunSummary) : String :=
  String.join (s.lines.map fun line => line ++ "\n")

end LoadFleet
