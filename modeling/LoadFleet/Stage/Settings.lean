import LoadFleet.Collection.OrderedMap
import LoadFleet.Stats.Kind
import LoadFleet.Text.Blank
import LoadFleet.Time.Span
/-!
# Stages

A plan is a list of stages, which the whole fleet runs one after another. A stage has a name, the
workers that it is for, a time limit and one of five kinds:

* iterate over the entries of a container;
* a stress test of random reads, writes and removals;
* wait for an event in a topology history, or for the histories to settle;
* check whether the topology changed recently.

Every setting has a default, which a plan may override.
-/

namespace LoadFleet

/-- The number of a worker. -/
abbrev WorkerIndex := UInt64

/-! ### Topology histories -/

/-- What a topology history is about. -/
inductive HistoryKind where
  | topology
  | rehash
  | cacheStatus
  deriving DecidableEq

namespace HistoryKind

/-- All histories, in their order. -/
def all : List HistoryKind := [topology, rehash, cacheStatus]

/-- The position of a history in the order. -/
def position : HistoryKind → Nat
  | topology => 0
  | rehash => 1
  | cacheStatus => 2

instance : Ord HistoryKind := ⟨fun a b => compare a.position b.position⟩

instance : Std.TransOrd HistoryKind where
  eq_swap {a b} := by cases a <;> cases b <;> rfl
  isLE_trans {a b c} := by cases a <;> cases b <;> cases c <;> decide

instance : Std.LawfulEqOrd HistoryKind where
  compare_self {a} := by cases a <;> rfl
  eq_of_compare {a b} := by cases a <;> cases b <;> decide

/-- The name of a history in texts. -/
def name : HistoryKind → String
  | topology => "topology"
  | rehash => "rehash"
  | cacheStatus => "cache_status"

/-- The name of a history in messages. -/
def title : HistoryKind → String
  | topology => "Topology"
  | rehash => "Rehash"
  | cacheStatus => "CacheStatus"

/-- The history of a name. -/
def ofName? (name : String) : Option HistoryKind := all.find? fun h => h.name = name

end HistoryKind

/-- Which end of a topology operation to wait for. -/
inductive EventCondition where
  | start
  | finish
  deriving DecidableEq

namespace EventCondition

/-- Both conditions, in their order. -/
def all : List EventCondition := [start, finish]

/-- The name of a condition in texts. -/
def name : EventCondition → String
  | start => "start"
  | finish => "end"

/-- The name of a condition in messages. -/
def title : EventCondition → String
  | start => "Start"
  | finish => "End"

/-- The condition of a name. -/
def ofName? (name : String) : Option EventCondition := all.find? fun c => c.name = name

end EventCondition

/-! ### Settings of the kinds -/

/-- How a stage is run and recorded as a test. -/
structure TestSettings where
  /-- The test under which results are recorded. -/
  name : String := "Test"
  /-- Whether results may be added to a test that exists already. -/
  amend : Bool := false
  /-- The number of concurrent stressors of each worker. -/
  threads : UInt64 := 1
  /-- How latencies are kept. -/
  stats : StatsKind := .basic
  deriving DecidableEq

/-- Whether results are recorded. A blank name and the name `warmup` say that they are not. -/
def TestSettings.isRecorded (t : TestSettings) : Bool :=
  let name := trimmed t.name
  name ≠ "" && !sameLetters name "warmup"

/-- The settings of an iteration over the entries of a container. -/
structure IterateSettings where
  test : TestSettings := {}
  /-- How often each stressor passes over all entries. -/
  numLoops : UInt32 := 1
  /-- The container, if it is not the default one. -/
  container : Option String := none
  filter : Option String := none
  converter : Option String := none
  /-- How many failures to step to an entry one pass survives. -/
  maxNextFailures : UInt32 := 100
  /-- Whether a failed pass fails the stage. -/
  failOnFailedIteration : Bool := true
  /-- Whether different numbers of entries fail the stage. -/
  failOnUnevenElements : Bool := true
  /-- Whether a number of entries other than the size of the container fails the stage. -/
  failOnNotTotalSize : Option Bool := none
  deriving DecidableEq

/-- Whether a number of entries other than the size of the container fails the stage. Unless the
settings say so, it does when all entries are asked for. -/
def IterateSettings.requiresTotalSize (s : IterateSettings) : Bool :=
  s.failOnNotTotalSize.getD s.filter.isNone

/-- The settings of a stress test. -/
structure StressSettings where
  test : TestSettings := {}
  /-- The number of requests of all stressors of a worker, unless a duration is given. -/
  numRequests : UInt64 := 50000
  /-- How long requests are made, counted from the first one. -/
  duration : Option Span := none
  /-- The number of different keys. -/
  numEntries : UInt64 := 100
  /-- The size of a written value. -/
  entrySize : UInt64 := 1000
  getRatio : UInt32 := 4
  putRatio : UInt32 := 1
  removeRatio : UInt32 := 0
  /-- The container, if it is not the default one. -/
  container : Option String := none
  /-- How many failures in a row make a stressor give up. -/
  maxConsecutiveFailures : Option UInt32 := none
  deriving DecidableEq

/-- The sum of the ratios of reads, writes and removals. -/
def StressSettings.ratioSum (s : StressSettings) : Nat :=
  s.getRatio.toNat + s.putRatio.toNat + s.removeRatio.toNat

/-- The settings of a wait for an event. -/
structure EventSettings where
  /-- The cache, if it is not the default one. -/
  cache : Option String := none
  history : HistoryKind := .rehash
  condition : EventCondition := .finish
  minMembers : UInt64 := 0
  maxMembers : Option UInt64 := none
  /-- Whether to wait at all. -/
  wait : Bool := true
  /-- Whether later waits look only at events after this stage. -/
  set : Bool := true
  /-- How long to wait; zero means forever. -/
  timeout : Span := .ofSeconds 600
  pollInterval : Span := .ofSeconds 1
  deriving DecidableEq

/-- The largest number of members that an event may have. -/
def EventSettings.memberLimit (s : EventSettings) : UInt64 := s.maxMembers.getD 18446744073709551615

/-- The settings of a wait until histories are quiet. -/
structure SettleSettings where
  /-- The cache, if it is not the default one. -/
  cache : Option String := none
  histories : OrderedSet HistoryKind := OrderedSet.ofList HistoryKind.all
  /-- Whether the cluster membership has to be quiet too. -/
  checkMembership : Bool := true
  /-- How long nothing may have changed. -/
  period : Span := .ofSeconds 10
  timeout : Span := .ofSeconds 600
  pollInterval : Span := .ofSeconds 1
  deriving DecidableEq

/-- The settings of a check for recent changes. -/
structure CheckSettings where
  /-- The cache, if it is not the default one. -/
  cache : Option String := none
  histories : OrderedSet HistoryKind := OrderedSet.ofList HistoryKind.all
  /-- How far back a change counts as recent. -/
  period : Span := .ofSeconds 10
  /-- Whether a change is expected. -/
  changed : Bool := true
  deriving DecidableEq

/-! ### Stages -/

/-- What a stage does. -/
inductive StageKind where
  | iterate (settings : IterateSettings)
  | stress (settings : StressSettings)
  | waitForEvent (settings : EventSettings)
  | waitForSettle (settings : SettleSettings)
  | checkTopology (settings : CheckSettings)
  deriving DecidableEq

/-- The test settings of kinds that can be recorded. -/
def StageKind.test? : StageKind → Option TestSettings
  | iterate s => some s.test
  | stress s => some s.test
  | _ => none

/-- One stage of a plan. -/
structure Stage where
  name : String
  /-- The workers that the stage is for; all of them when absent. -/
  workers : Option (OrderedSet WorkerIndex) := none
  /-- How long the stage may take. -/
  timeout : Option Span := none
  kind : StageKind
  deriving DecidableEq

/-- Whether a stage is for a worker. -/
def Stage.targets (s : Stage) (worker : WorkerIndex) : Bool :=
  match s.workers with
  | some workers => workers.contains worker
  | none => true

end LoadFleet
