import LoadFleet.Coordinator.Fleet
import LoadFleet.Process.Address
import LoadFleet.Process.Logging
import LoadFleet.Process.Variables
import LoadFleet.Stage.Wire
import LoadFleet.Worker.Worker
/-!
# Configuration

The same settings serve the coordinator and the workers. What is not set has a default; a file comes
on top of the defaults, and the environment on top of the file. Settings that nobody knows are
skipped, and a setting of the wrong type refuses the configuration as a whole.
-/

namespace LoadFleet

/-- The settings of a worker. -/
structure WorkerSettings where
  index : WorkerIndex := 0
  /-- How long stressors may take to stop when time has run out. -/
  gracePeriod : Span := Worker.defaultGrace
  /-- The number of entries that the store is filled with. -/
  entries : UInt64 := 0
  /-- The size of those entries. -/
  entrySize : UInt64 := 1000

/-- The settings of the process. -/
structure RuntimeSettings where
  /-- The number of threads that do the work; the machine decides when absent. -/
  workerThreads : Option UInt64 := none

/-- The settings of the log. -/
structure LogSettings where
  level : LogLevel := .info
  format : LogFormat := .auto

/-- The settings of error tracking, which is off without an address to send errors to. -/
structure TrackingSettings where
  dsn : Option String := none
  environment : Option String := none
  serverName : Option String := none
  /-- The share of errors that are sent. -/
  sampleRate : Float32 := 1.0
  /-- The share of traces that are sent. -/
  tracesSampleRate : Float32 := 0.01
  debug : Bool := false
  tags : OrderedMap String String := .empty

/-- Whether errors are sent anywhere. -/
def TrackingSettings.isEnabled (s : TrackingSettings) : Bool := s.dsn.isSome

/-- All settings. -/
structure Config where
  /-- Where a worker serves, and where its health is asked for. -/
  address : Address := { ip := .v4 [0, 0, 0, 0], port := 8890 }
  /-- The base addresses of remote workers. -/
  workers : List String := []
  /-- The number of workers beside the coordinator when there are no remote ones. -/
  localWorkers : UInt64 := 1
  patience : Patience := {}
  /-- The plan unless another is given. -/
  stages : List Stage := []
  /-- Where the summary of a run is written to. -/
  report : Option String := none
  worker : WorkerSettings := {}
  runtime : RuntimeSettings := {}
  logging : LogSettings := {}
  tracking : TrackingSettings := {}

/-- A number of single precision. -/
def Json.single? : Json → Option Float32
  | .nat n => some n.toFloat32
  | .negative n => some (0 - n.toFloat32)
  | .float x => some x.toFloat32
  | _ => none

namespace WorkerSettings

/-- Writes the settings. -/
def toJson (s : WorkerSettings) : Json :=
  .obj [("index", .nat s.index), ("grace_period", s.gracePeriod.toJson),
    ("entries", .nat s.entries), ("entry_size", .nat s.entrySize)]

/-- Reads the settings. -/
def ofJson? (j : Json) : Option WorkerSettings := do
  let d : WorkerSettings := {}
  let [index, gracePeriod, entries, entrySize] ←
    j.recordAt? .settings ["index", "grace_period", "entries", "entry_size"] | none
  return {
    index := ← index.orElse d.index Json.word?
    gracePeriod := ← gracePeriod.orElse d.gracePeriod Json.span?
    entries := ← entries.orElse d.entries Json.word?
    entrySize := ← entrySize.orElse d.entrySize Json.word? }

end WorkerSettings

namespace RuntimeSettings

/-- Writes the settings. -/
def toJson (s : RuntimeSettings) : Json :=
  .obj [("worker_threads", (s.workerThreads.map Json.nat).getD (.str "default"))]

/-- Reads the settings. -/
def ofJson? (j : Json) : Option RuntimeSettings := do
  let [workerThreads] ← j.recordAt? .settings ["worker_threads"] | none
  return { workerThreads := ← workerThreads.orElse none fun n => n.word?.map some }

end RuntimeSettings

namespace LogSettings

/-- Writes the settings. -/
def toJson (s : LogSettings) : Json :=
  .obj [("level", .str s.level.name), ("format", .str s.format.name)]

/-- Reads the settings. -/
def ofJson? (j : Json) : Option LogSettings := do
  let d : LogSettings := {}
  let [level, format] ← j.recordAt? .settings ["level", "format"] | none
  return {
    level := ← level.orElse d.level fun l => l.str?.bind LogLevel.read?
    format := ← format.orElse d.format (Json.name? LogFormat.all LogFormat.ofName? .settings) }

end LogSettings

namespace TrackingSettings

/-- Writes the settings. -/
def toJson (s : TrackingSettings) : Json :=
  .obj [("dsn", .text? s.dsn), ("environment", .text? s.environment),
    ("server_name", .text? s.serverName), ("sample_rate", .float s.sampleRate.toFloat),
    ("traces_sample_rate", .float s.tracesSampleRate.toFloat), ("debug", .bool s.debug),
    ("tags", .map .str s.tags)]

/-- Reads the settings. -/
def ofJson? (j : Json) : Option TrackingSettings := do
  let d : TrackingSettings := {}
  let [dsn, environment, serverName, sampleRate, tracesSampleRate, debug, tags] ←
    j.recordAt? .settings ["dsn", "environment", "server_name", "sample_rate",
      "traces_sample_rate", "debug", "tags"] | none
  return {
    dsn := ← dsn.orElse none (Json.nullable? Json.str?)
    environment := ← environment.orElse none (Json.nullable? Json.str?)
    serverName := ← serverName.orElse none (Json.nullable? Json.str?)
    sampleRate := ← sampleRate.orElse d.sampleRate Json.single?
    tracesSampleRate := ← tracesSampleRate.orElse d.tracesSampleRate Json.single?
    debug := ← debug.orElse d.debug Json.bool?
    tags := ← tags.orElse d.tags (Json.map? Json.str?) }

end TrackingSettings

namespace Config

/-- The names of the settings. -/
def fields : List String :=
  ["http_addr", "workers", "local_workers", "ack_timeout", "ack_slack", "stages", "report",
    "worker", "runtime", "logging", "sentry"]

/-- Writes all settings. -/
def toJson (c : Config) : Json :=
  .obj [("http_addr", .str c.address.text), ("workers", .arr (c.workers.map .str)),
    ("local_workers", .nat c.localWorkers), ("ack_timeout", c.patience.timeout.toJson),
    ("ack_slack", c.patience.slack.toJson), ("stages", .arr (c.stages.map Stage.toJson)),
    ("report", .text? c.report), ("worker", c.worker.toJson), ("runtime", c.runtime.toJson),
    ("logging", c.logging.toJson), ("sentry", c.tracking.toJson)]

/-- Reads all settings. -/
def ofJson? (j : Json) : Option Config := do
  let d : Config := {}
  let [address, workers, localWorkers, timeout, slack, stages, report, worker, runtime, logging,
    tracking] ← j.recordAt? .settings fields | none
  return {
    address := ← address.orElse d.address fun a => a.str?.bind Address.read?
    workers := ← workers.orElse d.workers (Json.list? Json.str?)
    localWorkers := ← localWorkers.orElse d.localWorkers Json.word?
    patience := {
      timeout := ← timeout.orElse d.patience.timeout Json.span?
      slack := ← slack.orElse d.patience.slack Json.span? }
    stages := ← stages.orElse d.stages (Json.list? (Stage.ofJson? .settings))
    report := ← report.orElse none (Json.nullable? Json.str?)
    worker := ← worker.orElse d.worker WorkerSettings.ofJson?
    runtime := ← runtime.orElse d.runtime RuntimeSettings.ofJson?
    logging := ← logging.orElse d.logging LogSettings.ofJson?
    tracking := ← tracking.orElse d.tracking TrackingSettings.ofJson? }

/-- Loads the settings of a file, if there is one, and of the environment. -/
def load? (file : Option String) (environment : List (String × String)) : Option Config := do
  let written ← match file with
    | some text => Layers.ofFile? text
    | none => some (.obj [])
  ofJson? (Layers.overlay written (Variables.layer environment))

end Config

end LoadFleet
