import LoadFleet.Report.Verdict
import LoadFleet.Stressor.Ask
/-!
# Passing over all entries

An iteration stressor passes over the entries of a container a number of times. A pass opens a
cursor, asks it for more until it has none, and closes it. A pass may survive some failures to step
to the next entry; any other failure ends it. When no cursor can be opened, no further pass is
tried. A stressor that is asked to stop closes its cursor first.

Statistics of fewer than `2 ^ 64` requests have room for one more, and no run gets that far. So a
stressor records without looking for room.
-/

namespace LoadFleet.Iterate

/-- The operation of opening a cursor. -/
def getIterator : String := "GET_ITERATOR"

/-- The operation of asking a cursor for more. -/
def hasNext : String := "HAS_NEXT"

/-- The operation of stepping to the next entry. -/
def next : String := "NEXT"

/-- The operation of a whole pass. -/
def fullLoop : String := "FULL_LOOP"

/-- How a pass ended. -/
inductive PassEnd where
  | completed (elements : UInt64)
  | failed (reason : String)
  | stopped
  deriving DecidableEq

/-- A pass that is going on. -/
structure Pass (C : Type) where
  started : Instant
  cursor : C
  elements : UInt64
  nextFailures : UInt32

/-- What a stressor does next. -/
inductive Phase (C : Type) where
  /-- It starts the next pass. -/
  | between
  /-- It asks whether there is a next entry. -/
  | asking (pass : Pass C)
  /-- It steps to the next entry. -/
  | stepping (pass : Pass C)
  /-- It closes the cursor. -/
  | closing (pass : Pass C) (outcome : PassEnd)
  | done

/-- The state of a stressor between two turns. -/
structure State (C : Type) where
  stats : RunStatistics
  /-- The number of the pass, counted from zero. -/
  iteration : Nat
  range : Option ElementRange
  failure : Option String
  phase : Phase C

variable {C : Type}

/-- A stressor before its first turn. -/
def start (settings : IterateSettings) (seat : Seat) (now : Instant) : State C :=
  ⟨seat.begin settings.test.stats now, 0, none, none, .between⟩

namespace State

/-- Records how long a call took and whether it succeeded. -/
def record {α : Type} (s : State C) (operation : String) (asked now : Instant)
    (r : Except StoreError α) : State C :=
  { s with stats := s.stats.record operation (asked.spanTo now) r.isOk }

/-- Records a whole pass. -/
def recordPass (s : State C) (pass : Pass C) (now : Instant) (success : Bool) : State C :=
  { s with
      stats := s.stats.record fullLoop (pass.started.spanTo now) success
      iteration := s.iteration + 1
      phase := .between }

/-- Notes the number of entries of a completed pass. -/
def note (s : State C) (elements : UInt64) : State C :=
  let found : ElementRange := ⟨elements, elements⟩
  { s with range := some ((s.range.map (·.join found)).getD found) }

/-- What becomes of a stressor when a pass has ended. -/
def endPass (s : State C) (seat : Seat) (pass : Pass C) (now : Instant) : PassEnd → State C
  | .completed elements => (s.note elements).recordPass pass now true
  | .failed reason =>
    let text := s!"stressor {seat.index} iteration {s.iteration}: {reason}"
    { s with failure := some (s.failure.getD text) }.recordPass pass now false
  | .stopped => { s with phase := .done }

/-- Goes on to close the cursor. -/
def toClose (s : State C) (pass : Pass C) (outcome : PassEnd) : State C :=
  { s with phase := .closing pass outcome }

/-- Goes on after a cursor was opened, or was not. -/
def onOpened (s : State C) (seat : Seat) (asked : Instant) (r : Except StoreError C)
    (now : Instant) : State C :=
  let s := s.record getIterator asked now r
  match r with
  | .ok cursor => { s with phase := .asking ⟨asked, cursor, 0, 0⟩ }
  | .error e =>
    { s with
        failure := some
          s!"stressor {seat.index} failed to acquire an iterator: {e.message}"
        phase := .done }

/-- Goes on after the cursor told whether there is a next entry. -/
def onMore (s : State C) (pass : Pass C) (asked : Instant) (r : Except StoreError Bool)
    (now : Instant) : State C :=
  let s := s.record hasNext asked now r
  match r with
  | .ok true => { s with phase := .stepping pass }
  | .ok false => s.toClose pass (.completed pass.elements)
  | .error e => s.toClose pass (.failed s!"failed to query the iterator: {e.message}")

/-- Goes on after a step to the next entry. -/
def onStep (s : State C) (settings : IterateSettings) (pass : Pass C) (asked : Instant)
    (r : Except StoreError (Entry × C)) (now : Instant) : State C :=
  let s := s.record next asked now r
  match r with
  | .ok (_, cursor) =>
    { s with phase := .asking { pass with cursor, elements := pass.elements + 1 } }
  | .error _ =>
    let pass := { pass with nextFailures := pass.nextFailures + 1 }
    if settings.maxNextFailures < pass.nextFailures then
      s.toClose pass (.failed (s!"{pass.nextFailures} failures advancing the iterator exceed " ++
        s!"the limit of {settings.maxNextFailures}"))
    else { s with phase := .asking pass }

/-- Goes on after the cursor was closed, or was not. -/
def onClosed (s : State C) (seat : Seat) (pass : Pass C) (outcome : PassEnd)
    (r : Except StoreError Unit) (now : Instant) : State C :=
  match r with
  | .ok () => s.endPass seat pass now outcome
  | .error e =>
    s.endPass seat pass now <|
      if outcome = .stopped then .stopped
      else .failed s!"failed to close the iterator: {e.message}"

/-- What a stressor found. -/
def result (s : State C) (seat : Seat) (now : Instant) : IterationResult :=
  { stats := seat.finish s.stats now
    minElements := s.range.map (·.least)
    maxElements := s.range.map (·.greatest)
    failure := s.failure }

/-- The call that closes the cursor. -/
def close (s : State C) (seat : Seat) (pass : Pass C) (outcome : PassEnd) :
    Turn C (State C) IterationResult :=
  .call (.close pass.cursor (s.onClosed seat pass outcome))

/-- The next turn of a stressor. -/
def turn (s : State C) (settings : IterateSettings) (seat : Seat) (now : Instant)
    (stopping : Bool) : Turn C (State C) IterationResult :=
  match s.phase with
  | .done => .finish (s.result seat now)
  | .between =>
    if stopping || settings.numLoops.toNat ≤ s.iteration then .finish (s.result seat now)
    else
      .call (.iterate settings.container settings.filter settings.converter
        (s.onOpened seat now))
  | .asking pass =>
    if stopping then s.close seat pass .stopped
    else .call (.hasNext pass.cursor (s.onMore pass now))
  | .stepping pass => .call (.next pass.cursor (s.onStep settings pass now))
  | .closing pass outcome => s.close seat pass outcome

end State

end LoadFleet.Iterate
