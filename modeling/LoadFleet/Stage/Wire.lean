import LoadFleet.Stage.Settings
import LoadFleet.Stats.Wire
/-!
# Stages in JSON

Settings are records in which every field has a default. The kind of a stage is a choice with the
tag `type`. A time limit that is not set is left out; other absent settings are written as `null`.
-/

namespace LoadFleet

open Json (Place)

/-- A text or `null`. -/
def Json.text? (s : Option String) : Json := .option .str s

/-- A span as people write it. -/
def Span.toJson (a : Span) : Json := .str a.readable

/-- A 32-bit word. -/
def Json.half (n : UInt32) : Json := .nat n.toUInt64

namespace HistoryKind

/-- A history by its name. -/
def toJson (h : HistoryKind) : Json := .str h.name

/-- Reads the name of a history in settings, which a choice has put aside. -/
def ofJson? : Json → Option HistoryKind := Json.name? all ofName? .aside

end HistoryKind

namespace EventCondition

/-- A condition by its name. -/
def toJson (c : EventCondition) : Json := .str c.name

/-- Reads the name of a condition in settings, which a choice has put aside. -/
def ofJson? : Json → Option EventCondition := Json.name? all ofName? .aside

end EventCondition

namespace TestSettings

/-- Writes test settings. -/
def toJson (t : TestSettings) : Json :=
  .obj [("name", .str t.name), ("amend", .bool t.amend), ("threads", .nat t.threads),
    ("stats", t.stats.toJson)]

/-- Reads test settings. -/
def ofJson? (j : Json) : Option TestSettings := do
  let d : TestSettings := {}
  let [name, amend, threads, stats] ← j.record? ["name", "amend", "threads", "stats"] | none
  return {
    name := ← name.orElse d.name Json.str?
    amend := ← amend.orElse d.amend Json.bool?
    threads := ← threads.orElse d.threads Json.word?
    stats := ← stats.orElse d.stats (StatsKind.ofJson? .aside) }

end TestSettings

namespace IterateSettings

/-- The names of the settings. -/
def fields : List String :=
  ["test", "num_loops", "container", "filter", "converter", "max_next_failures",
    "fail_on_failed_iteration", "fail_on_uneven_elements", "fail_on_not_total_size"]

/-- The members of written settings. -/
def members (s : IterateSettings) : List (String × Json) :=
  [("test", s.test.toJson), ("num_loops", .half s.numLoops), ("container", .text? s.container),
    ("filter", .text? s.filter), ("converter", .text? s.converter),
    ("max_next_failures", .half s.maxNextFailures),
    ("fail_on_failed_iteration", .bool s.failOnFailedIteration),
    ("fail_on_uneven_elements", .bool s.failOnUnevenElements),
    ("fail_on_not_total_size", .option .bool s.failOnNotTotalSize)]

/-- Reads the settings. -/
def ofJson? (j : Json) : Option IterateSettings := do
  let d : IterateSettings := {}
  let [test, numLoops, container, filter, converter, maxNextFailures, failOnFailedIteration,
    failOnUnevenElements, failOnNotTotalSize] ← j.record? fields | none
  return {
    test := ← test.orElse d.test TestSettings.ofJson?
    numLoops := ← numLoops.orElse d.numLoops Json.halfWord?
    container := ← container.orElse none (Json.nullable? Json.str?)
    filter := ← filter.orElse none (Json.nullable? Json.str?)
    converter := ← converter.orElse none (Json.nullable? Json.str?)
    maxNextFailures := ← maxNextFailures.orElse d.maxNextFailures Json.halfWord?
    failOnFailedIteration := ← failOnFailedIteration.orElse d.failOnFailedIteration Json.bool?
    failOnUnevenElements := ← failOnUnevenElements.orElse d.failOnUnevenElements Json.bool?
    failOnNotTotalSize := ← failOnNotTotalSize.orElse none (Json.nullable? Json.bool?) }

end IterateSettings

namespace StressSettings

/-- The names of the settings. -/
def fields : List String :=
  ["test", "num_requests", "duration", "num_entries", "entry_size", "get_ratio", "put_ratio",
    "remove_ratio", "container", "max_consecutive_failures"]

/-- The members of written settings. -/
def members (s : StressSettings) : List (String × Json) :=
  [("test", s.test.toJson), ("num_requests", .nat s.numRequests)] ++
    Json.member? "duration" Span.toJson s.duration ++
    [("num_entries", .nat s.numEntries), ("entry_size", .nat s.entrySize),
      ("get_ratio", .half s.getRatio), ("put_ratio", .half s.putRatio),
      ("remove_ratio", .half s.removeRatio), ("container", .text? s.container),
      ("max_consecutive_failures", .option .half s.maxConsecutiveFailures)]

/-- Reads the settings. -/
def ofJson? (j : Json) : Option StressSettings := do
  let d : StressSettings := {}
  let [test, numRequests, duration, numEntries, entrySize, getRatio, putRatio, removeRatio,
    container, maxConsecutiveFailures] ← j.record? fields | none
  return {
    test := ← test.orElse d.test TestSettings.ofJson?
    numRequests := ← numRequests.orElse d.numRequests Json.word?
    duration := ← duration.orElse none (Json.nullable? Json.span?)
    numEntries := ← numEntries.orElse d.numEntries Json.word?
    entrySize := ← entrySize.orElse d.entrySize Json.word?
    getRatio := ← getRatio.orElse d.getRatio Json.halfWord?
    putRatio := ← putRatio.orElse d.putRatio Json.halfWord?
    removeRatio := ← removeRatio.orElse d.removeRatio Json.halfWord?
    container := ← container.orElse none (Json.nullable? Json.str?)
    maxConsecutiveFailures := ←
      maxConsecutiveFailures.orElse none (Json.nullable? Json.halfWord?) }

end StressSettings

namespace EventSettings

/-- The names of the settings. -/
def fields : List String :=
  ["cache", "history", "condition", "min_members", "max_members", "wait", "set", "timeout",
    "poll_interval"]

/-- The members of written settings. -/
def members (s : EventSettings) : List (String × Json) :=
  [("cache", .text? s.cache), ("history", s.history.toJson), ("condition", s.condition.toJson),
    ("min_members", .nat s.minMembers), ("max_members", .option .nat s.maxMembers),
    ("wait", .bool s.wait), ("set", .bool s.set), ("timeout", s.timeout.toJson),
    ("poll_interval", s.pollInterval.toJson)]

/-- Reads the settings. -/
def ofJson? (j : Json) : Option EventSettings := do
  let d : EventSettings := {}
  let [cache, history, condition, minMembers, maxMembers, wait, set, timeout, pollInterval] ←
    j.record? fields | none
  return {
    cache := ← cache.orElse none (Json.nullable? Json.str?)
    history := ← history.orElse d.history HistoryKind.ofJson?
    condition := ← condition.orElse d.condition EventCondition.ofJson?
    minMembers := ← minMembers.orElse d.minMembers Json.word?
    maxMembers := ← maxMembers.orElse none (Json.nullable? Json.word?)
    wait := ← wait.orElse d.wait Json.bool?
    set := ← set.orElse d.set Json.bool?
    timeout := ← timeout.orElse d.timeout Json.span?
    pollInterval := ← pollInterval.orElse d.pollInterval Json.span? }

end EventSettings

namespace SettleSettings

/-- The names of the settings. -/
def fields : List String :=
  ["cache", "histories", "check_membership", "period", "timeout", "poll_interval"]

/-- The members of written settings. -/
def members (s : SettleSettings) : List (String × Json) :=
  [("cache", .text? s.cache), ("histories", .set HistoryKind.toJson s.histories),
    ("check_membership", .bool s.checkMembership), ("period", s.period.toJson),
    ("timeout", s.timeout.toJson), ("poll_interval", s.pollInterval.toJson)]

/-- Reads the settings. -/
def ofJson? (j : Json) : Option SettleSettings := do
  let d : SettleSettings := {}
  let [cache, histories, checkMembership, period, timeout, pollInterval] ←
    j.record? fields | none
  return {
    cache := ← cache.orElse none (Json.nullable? Json.str?)
    histories := ← histories.orElse d.histories (Json.set? HistoryKind.ofJson?)
    checkMembership := ← checkMembership.orElse d.checkMembership Json.bool?
    period := ← period.orElse d.period Json.span?
    timeout := ← timeout.orElse d.timeout Json.span?
    pollInterval := ← pollInterval.orElse d.pollInterval Json.span? }

end SettleSettings

namespace CheckSettings

/-- The names of the settings. -/
def fields : List String := ["cache", "histories", "period", "changed"]

/-- The members of written settings. -/
def members (s : CheckSettings) : List (String × Json) :=
  [("cache", .text? s.cache), ("histories", .set HistoryKind.toJson s.histories),
    ("period", s.period.toJson), ("changed", .bool s.changed)]

/-- Reads the settings. -/
def ofJson? (j : Json) : Option CheckSettings := do
  let d : CheckSettings := {}
  let [cache, histories, period, changed] ← j.record? fields | none
  return {
    cache := ← cache.orElse none (Json.nullable? Json.str?)
    histories := ← histories.orElse d.histories (Json.set? HistoryKind.ofJson?)
    period := ← period.orElse d.period Json.span?
    changed := ← changed.orElse d.changed Json.bool? }

end CheckSettings

namespace StageKind

/-- The names of the kinds, in their order. -/
def names : List String :=
  ["iterate", "stress_test", "wait_for_topology_event", "wait_for_topology_settle",
    "check_topology"]

/-- The name of a kind. -/
def name : StageKind → String
  | iterate _ => "iterate"
  | stress _ => "stress_test"
  | waitForEvent _ => "wait_for_topology_event"
  | waitForSettle _ => "wait_for_topology_settle"
  | checkTopology _ => "check_topology"

/-- The members of the settings of a kind. -/
def members : StageKind → List (String × Json)
  | iterate s => s.members
  | stress s => s.members
  | waitForEvent s => s.members
  | waitForSettle s => s.members
  | checkTopology s => s.members

/-- Writes a kind with its settings. -/
def toJson (k : StageKind) : Json := .obj (("type", .str k.name) :: k.members)

/-- Reads the settings of the kind with a name. -/
def settings? (name : String) (j : Json) : Option StageKind :=
  match name with
  | "iterate" => (IterateSettings.ofJson? j).map iterate
  | "stress_test" => (StressSettings.ofJson? j).map stress
  | "wait_for_topology_event" => (EventSettings.ofJson? j).map waitForEvent
  | "wait_for_topology_settle" => (SettleSettings.ofJson? j).map waitForSettle
  | "check_topology" => (CheckSettings.ofJson? j).map checkTopology
  | _ => none

/-- Reads a kind with its settings. -/
def ofJson? (place : Place) (j : Json) : Option StageKind := do
  let (name, rest) ← j.choice? "type" names place
  settings? name rest

end StageKind

namespace Stage

/-- The names of the fields of a stage. -/
def fields : List String := ["name", "workers", "timeout", "kind"]

/-- Writes a stage. -/
def toJson (s : Stage) : Json :=
  .obj ([("name", .str s.name)] ++ Json.member? "workers" (Json.set .nat) s.workers ++
    Json.member? "timeout" Span.toJson s.timeout ++ [("kind", s.kind.toJson)])

/-- Reads a stage that stands at a place. -/
def ofJson? (place : Place) (j : Json) : Option Stage := do
  let [name, workers, timeout, kind] ← j.recordAt? place fields | none
  return {
    name := ← name.required Json.str?
    workers := ← workers.orElse none (Json.nullable? (Json.set? Json.word?))
    timeout := ← timeout.orElse none (Json.nullable? Json.span?)
    kind := ← kind.required (StageKind.ofJson? (place.deeper 1)) }

/-- Reads a stage that stands by itself. -/
def read? (text : String) : Option Stage := (Json.read? text).bind (ofJson? .json)

end Stage

end LoadFleet
