import LoadFleet.Stage.Settings
/-!
# Topology histories

A store tells what happens to its cluster as a sequence of events. Each belongs to the history of
one kind in one cache, and to one of three phases: the start or the end of an operation, or both at
once. `TopologyHistory` keeps all events in the order of their arrival, with consecutive numbers;
what belongs to one cache and kind is a part of that sequence. It also knows the members of the
cluster and when they changed last.

* `TopologyHistory.find?`: the earliest event that a wait is satisfied with.
* `TopologyHistory.isSettled`: nothing is going on, and nothing happened for a quiet period.
-/

namespace LoadFleet

/-- The number of an event. -/
abbrev EventId := Nat

/-- What an event says about the operation that it belongs to. -/
inductive EventPhase where
  | start
  | finish
  /-- The operation started and ended at once. -/
  | single
  deriving DecidableEq

namespace EventPhase

/-- All phases. -/
def all : List EventPhase := [start, finish, single]

/-- The name of a phase in messages. -/
def title : EventPhase → String
  | start => "Start"
  | finish => "End"
  | single => "Single"

/-- The phase of a name in any letter case. -/
def ofName? (name : String) : Option EventPhase := all.find? fun p => sameLetters name p.title

end EventPhase

/-- The number of an event in messages. -/
def EventId.text (id : EventId) : String := s!"EventId({id})"

/-- One event of a topology history. -/
structure TopologyEvent where
  id : EventId
  cache : String
  history : HistoryKind
  phase : EventPhase
  /-- When the event happened. -/
  time : Instant
  /-- The number of members after the event. -/
  members : UInt64
  deriving DecidableEq

namespace TopologyEvent

/-- Whether the event belongs to the history of a kind in a cache. -/
def isOf (e : TopologyEvent) (cache : String) (history : HistoryKind) : Bool :=
  e.cache = cache && e.history = history

/-- Whether a phase is what a condition waits for. -/
def satisfies (e : TopologyEvent) : EventCondition → Bool
  | .start => e.phase = .start || e.phase = .single
  | .finish => e.phase = .finish || e.phase = .single

end TopologyEvent

/-- Whether something that happened at a time is less than a period ago. What lies ahead counts as
happening now. -/
def within (time now : Instant) (period : Span) : Bool := now - time < period.nanos

/-- The cache that is meant when none is named. -/
def defaultCache : String := "default"

/-- All events in the order of their arrival, and the members of the cluster. -/
structure TopologyHistory where
  log : List TopologyEvent
  members : List String
  /-- When the members changed last. -/
  membersChanged : Option Instant
  deriving DecidableEq

namespace TopologyHistory

/-- A history without events and members. -/
def empty : TopologyHistory := ⟨[], [], none⟩

/-- The number of the next event. -/
def nextId (h : TopologyHistory) : EventId := h.log.length

/-- Adds an event. -/
def record (h : TopologyHistory) (cache : String) (history : HistoryKind) (phase : EventPhase)
    (members : UInt64) (time : Instant) : TopologyHistory :=
  { h with log := h.log ++ [⟨h.nextId, cache, history, phase, time, members⟩] }

/-- Tells who is a member now. Telling the same again is no change. -/
def setMembers (h : TopologyHistory) (members : List String) (now : Instant) : TopologyHistory :=
  if h.members = members then h else { h with members, membersChanged := some now }

/-- The events of a kind in a cache, in the order of their arrival. -/
def events (h : TopologyHistory) (cache : String) (history : HistoryKind) : List TopologyEvent :=
  h.log.filter fun e => e.isOf cache history

/-- The newest event of a kind in a cache. -/
def newest? (h : TopologyHistory) (cache : String) (history : HistoryKind) :
    Option TopologyEvent :=
  (h.events cache history).getLast?

/-- The number of the newest event of a kind in a cache. -/
def latest? (h : TopologyHistory) (cache : String) (history : HistoryKind) : Option EventId :=
  (h.newest? cache history).map (·.id)

/-! ### Waiting for an event -/

/-- What a wait is satisfied with. -/
structure EventQuery where
  cache : String
  history : HistoryKind
  condition : EventCondition
  minMembers : UInt64
  maxMembers : UInt64
  /-- Only events with a greater number count. -/
  after : Option EventId

/-- Whether an event came after a marker, if there is one. -/
def isAfter (marker : Option EventId) (e : TopologyEvent) : Bool := marker.all fun m => m < e.id

/-- Whether an event satisfies a wait, apart from the marker. -/
def EventQuery.accepts (q : EventQuery) (e : TopologyEvent) : Bool :=
  e.satisfies q.condition && q.minMembers ≤ e.members && e.members ≤ q.maxMembers

/-- The earliest event that satisfies a wait. -/
def find? (h : TopologyHistory) (q : EventQuery) : Option TopologyEvent :=
  ((h.events q.cache q.history).filter (isAfter q.after)).find? q.accepts

/-! ### Quiet periods -/

/-- The last time that a history notes, of an event or a change of the members. -/
def lastNoted (h : TopologyHistory) : Instant :=
  h.log.foldl (fun last e => max last e.time) (h.membersChanged.getD 0)

/-- Whether the newest event of a kind in a cache is less than a period ago. -/
def changedWithin (h : TopologyHistory) (cache : String) (history : HistoryKind) (period : Span)
    (now : Instant) : Bool :=
  (h.newest? cache history).any fun e => within e.time now period

/-- Whether a history changed recently, or did not, as expected. -/
def checkRecent (h : TopologyHistory) (cache : String) (history : HistoryKind) (period : Span)
    (expectChange : Bool) (now : Instant) : Bool :=
  h.changedWithin cache history period now = expectChange

/-- Whether every start has an end of its own after it. Events come newest first, and `ends` counts
the ends that belong to no start yet. -/
def allEnded : Nat → List TopologyEvent → Bool
  | _, [] => true
  | ends, e :: r =>
    match e.phase with
    | .finish => allEnded (ends + 1) r
    | .start => if ends = 0 then false else allEnded (ends - 1) r
    | .single => allEnded ends r

/-- Whether nothing is going on in the history of a kind, and nothing happened for a period. -/
def isQuiet (h : TopologyHistory) (cache : String) (period : Span) (now : Instant)
    (history : HistoryKind) : Bool :=
  let events := (h.events cache history).reverse
  events.all (fun e => !within e.time now period) && allEnded 0 events

/-- Whether the members did not change for a period. -/
def membersQuiet (h : TopologyHistory) (period : Span) (now : Instant) : Bool :=
  h.membersChanged.all fun time => !within time now period

/-- Whether the selected histories of a cache are quiet, and the members too if asked for. -/
def isSettled (h : TopologyHistory) (cache : String) (histories : OrderedSet HistoryKind)
    (checkMembership : Bool) (period : Span) (now : Instant) : Bool :=
  histories.toList.all (h.isQuiet cache period now) &&
    (!checkMembership || h.membersQuiet period now)

end TopologyHistory

end LoadFleet
