import LoadFleet.Time.Brief
import LoadFleet.Time.Clock
import LoadFleet.Topology.Timeline
/-!
# Waiting for the topology

A store cannot tell a waiting stage that something happened, so a wait looks at fixed intervals.
The last pause before the time limit is shortened, so that the last look is taken exactly at the
limit. A wait without a limit looks until it finds something.
-/

namespace LoadFleet

/-- How a wait ended: with what it looked for, at the time limit, or not at all. -/
inductive WaitResult (α : Type) where
  | found (a : α) (time : Instant)
  | timedOut (waited : Span) (time : Instant)
  | never
  deriving DecidableEq

/-- How long a wait looks, and how often. -/
structure WaitLimits where
  /-- The time limit; zero means that there is none. -/
  timeout : Span
  interval : Span

namespace WaitLimits

/-- The pause after a look, when some time of the limit is left. -/
def pause (w : WaitLimits) (waited : Nat) : Span :=
  if w.timeout.isZero then w.interval
  else Span.ofNanos (min w.interval.nanos (w.timeout.nanos - waited))

/-- Looks again and again, at most `looks` times. A sleep that starts at `t` and is to last for a
span ends at `wake t span`. -/
def pollFrom {α : Type} (w : WaitLimits) (wake : Instant → Span → Instant)
    (look : Instant → Option α) (start : Instant) : Nat → Instant → WaitResult α
  | 0, _ => .never
  | looks + 1, now =>
    match look now with
    | some a => .found a now
    | none =>
      if !w.timeout.isZero && w.timeout.nanos ≤ now - start then
        .timedOut (Span.ofNanos (now - start)) now
      else pollFrom w wake look start looks (wake now (w.pause (now - start)))

/-- The greatest number of looks that a wait can take, if nothing changes after `last`. Without an
interval no time passes, and one look tells everything. -/
def looks (w : WaitLimits) (start last : Instant) : Nat :=
  if w.interval.isZero then 1
  else
    let span := if w.timeout.isZero then last - start else w.timeout.nanos
    span / min w.interval.nanos Instant.farAway + 2

/-- Looks until something is found or the time limit is reached. After `last`, looking again does
not help. -/
def poll {α : Type} (w : WaitLimits) (wake : Instant → Span → Instant)
    (look : Instant → Option α) (start last : Instant) : WaitResult α :=
  w.pollFrom wake look start (w.looks start last) start

end WaitLimits

/-- The wording of a wait that reached its time limit. -/
def timeoutText (waited : Span) : String := s!"timed out after {waited.brief}"

namespace Timeline

/-- Waits for an event. -/
def waitForEvent (t : Timeline) (wake : Instant → Span → Instant) (q : TopologyHistory.EventQuery)
    (w : WaitLimits) (start : Instant) : WaitResult TopologyEvent :=
  w.poll wake (fun now => (t.seen now).find? q) start t.lastChange

/-- Waits until the selected histories are quiet. -/
def waitUntilSettled (t : Timeline) (wake : Instant → Span → Instant) (cache : String)
    (histories : OrderedSet HistoryKind) (checkMembership : Bool) (period : Span) (w : WaitLimits)
    (start : Instant) : WaitResult Unit :=
  let last := max t.lastChange (t.seen t.lastChange).lastNoted
  w.poll wake
    (fun now =>
      if (t.seen now).isSettled cache histories checkMembership period now then some () else none)
    start (max last start + period.nanos)

end Timeline

end LoadFleet
