import LoadFleet.Coordinator.Local
import LoadFleet.Coordinator.Run
import LoadFleet.Process.CommandLine
import LoadFleet.Process.Config
import LoadFleet.Process.Endpoint
import LoadFleet.Stage.Plan
/-!
# The program

What the program does, given its configuration and the texts of the files that it reads. It prints
something, it may write one file, and it ends well or with a complaint.
-/

namespace LoadFleet

/-- How the program ends. -/
structure Exit where
  code : UInt8
  output : String
  /-- What is said about the failure. -/
  complaint : Option String
  deriving DecidableEq

namespace Exit

/-- The program did what it was asked to. -/
def well (output : String) : Exit := ⟨0, output, none⟩

/-- The program failed after it printed something. -/
def badlyAfter (output complaint : String) : Exit := ⟨1, output, some complaint⟩

/-- The program failed. -/
def badly (complaint : String) : Exit := badlyAfter "" complaint

end Exit

/-- What the program comes to: a file to write, and how it ends once that is done. -/
structure Performance where
  file : Option (String × String)
  exit : Exit

namespace Performance

/-- The program ends without writing a file. -/
def exits (exit : Exit) : Performance := ⟨none, exit⟩

/-- How the program ends when the file could not be written. -/
def unwritten (path : String) : Exit := .badly s!"failed to write report to {path}"

end Performance

/-- What the program finds around itself. -/
structure Host where
  environment : List (String × String)
  /-- The texts of files. -/
  read : String → Option String
  /-- The calendar time at the start. -/
  time : WallTime
  /-- What random draws start from. -/
  seed : UInt64

namespace Program

/-- The version of the program. -/
def version : String := "0.1.0"

/-- How long a call to the store of local workers takes. -/
def pace : Span := .ofNanos 10000

/-- How many nanoseconds pass between two readings of the clock in a row. -/
def lag : Nat := 20

/-- The manners of the store of local workers. -/
def manners : Manners := { delays := StoreCall.all.map fun call => (call, pace) }

/-- The store of local workers, filled as configured. -/
def memory (s : WorkerSettings) : InMemory :=
  if s.entries = 0 then .empty else InMemory.empty.populate defaultContainer s.entries s.entrySize

/-- The workers beside the coordinator, none of which has seen anything yet. -/
def site (c : Config) (host : Host) : Site :=
  .start ⟨.exact, ⟨"in-memory", manners, 0, memory c.worker⟩, .empty, host.time, host.seed, lag⟩
    ((List.range c.localWorkers.toNat).map fun i => .start i.toUInt64 c.worker.gracePeriod)

/-- The configured workers: those elsewhere, or else those beside the coordinator. -/
def fleet (c : Config) : List (Member Site) :=
  if c.workers.isEmpty then
    (List.range c.localWorkers.toNat).map fun i => Site.member id (fun s _ => s) i i.toUInt64
  else c.workers.zipIdx.map fun (base, i) => Endpoint.member i.toUInt64 base

/-- The plan to run: that of a file if one is given, else the configured one. -/
def plan? (c : Config) (host : Host) : Option String → Except String (List Stage)
  | none => .ok c.stages
  | some path =>
    match host.read path with
    | none => .error s!"failed to read plan {path}"
    | some text =>
      match Plan.read? text with
      | some stages => .ok stages
      | none => .error s!"invalid plan {path}"

/-- What a finished run comes to. -/
def report (c : Config) (summary : RunSummary) : Performance :=
  ⟨c.report.map fun path => (path, summary.toJson.pretty),
    if summary.passed then .well summary.text
    else .badlyAfter summary.text "benchmark run failed"⟩

/-- Runs a plan. -/
def run (c : Config) (host : Host) (plan : Option String) : Performance :=
  match plan? c host plan with
  | .error complaint => .exits (.badly complaint)
  | .ok [] => .exits (.badly "the plan has no stages")
  | .ok stages =>
    match (Coordinator.mk .exact c.patience).runPlan? (fleet c) stages 0 (site c host) with
    | none => .exits (.badly "the run never ends")
    | some e =>
      match e.result with
      | .error error => .exits (.badly error.message)
      | .ok summary => report c summary

/-- Carries out a command. No address can be served from here. -/
def perform (c : Config) (host : Host) : Command → Performance
  | .run plan => run c host plan
  | .worker => .exits (.badly "failed to start TCP listener")
  | .healthcheck endpoint =>
    .exits (.badly (Endpoint.unreachableText (Endpoint.probed c endpoint)))
  | .version => .exits (.well s!"{version}\n")

/-- What a call that ends early comes to. -/
def early : EarlyExit → Exit
  | .usage text => .well s!"{text}\n"
  | .refused _ => ⟨1, "", none⟩

/-- Carries out a call of the program. Only the version can be told without a configuration. -/
def execute (invocation : Invocation) (host : Host) : Performance :=
  match invocation.command with
  | .version => .exits (.well s!"{version}\n")
  | command =>
    match Config.load? (invocation.config.bind host.read) host.environment with
    | some c => perform c host command
    | none => .exits (.badly "invalid configuration")

/-- The files that a call may read. -/
def filesOf (invocation : Invocation) : List String :=
  invocation.config.toList ++
    match invocation.command with
    | .run (some plan) => [plan]
    | _ => []

end Program

end LoadFleet
