import LoadFleet.Ack.Acknowledgement
import LoadFleet.Store.Class
/-!
# What stressors ask of a store

A stressor is written as a machine that takes turns. In each turn it either ends or asks its store
for one thing; the `Ask` says how the stressor goes on once the answer is there. Between two turns
a stressor owns nothing but its state, so turns of many stressors can be interleaved freely.
-/

namespace LoadFleet

/-- One call of a stressor, and its state after the answer came at some time. -/
inductive Ask (C S : Type) where
  | invoke (container : Option String) (operation : Operation)
      (goOn : Except StoreError Response → Instant → S)
  | iterate (container filter converter : Option String)
      (goOn : Except StoreError C → Instant → S)
  | hasNext (cursor : C) (goOn : Except StoreError Bool → Instant → S)
  | next (cursor : C) (goOn : Except StoreError (Entry × C) → Instant → S)
  | close (cursor : C) (goOn : Except StoreError Unit → Instant → S)

/-- What a stressor does in a turn. -/
inductive Turn (C S R : Type) where
  | finish (result : R)
  | call (ask : Ask C S)

namespace Ask

variable {T C S : Type}

/-- The kind of the call. -/
def kind : Ask C S → StoreCall
  | invoke _ _ _ => .invoke
  | iterate _ _ _ _ => .iterate
  | hasNext _ _ => .hasNext
  | next _ _ => .next
  | close _ _ => .close

/-- Lets a store answer: the stressor goes on, and the store has changed. -/
def answer [Store T C] (ask : Ask C S) (store : T) (now : Instant) : S × T :=
  match ask with
  | invoke container operation goOn =>
    let (r, store) := Store.invoke store container operation
    (goOn r now, store)
  | iterate container filter converter goOn =>
    let (r, store) := Store.iterate store container filter converter
    (goOn r now, store)
  | hasNext cursor goOn =>
    let (r, store) := Store.hasNext store cursor
    (goOn r now, store)
  | next cursor goOn =>
    let (r, store) := Store.next store cursor
    (goOn r now, store)
  | close cursor goOn =>
    let (r, store) := Store.close store cursor
    (goOn r now, store)

/-- Lets the call fail. -/
def fail (ask : Ask C S) (error : StoreError) (now : Instant) : S :=
  match ask with
  | invoke _ _ goOn => goOn (.error error) now
  | iterate _ _ _ goOn => goOn (.error error) now
  | hasNext _ goOn => goOn (.error error) now
  | next _ goOn => goOn (.error error) now
  | close _ goOn => goOn (.error error) now

end Ask

/-- Where a stressor sits: its number among the stressors of its worker, and the calendar time at
which the clock of the run reads zero. -/
structure Seat where
  index : Nat
  epoch : WallTime

namespace Seat

/-- The calendar time of a reading of the clock. -/
def calendar (s : Seat) (now : Instant) : WallTime := WallTime.ofNanos (s.epoch.nanos + now)

/-- Fresh statistics that begin now. -/
def begin (s : Seat) (kind : StatsKind) (now : Instant) : RunStatistics :=
  { Statistics.empty kind with begun := some (s.calendar now) }

/-- Statistics that end now. The calendar is read a moment after the last call. -/
def finish (s : Seat) (stats : RunStatistics) (now : Instant) : RunStatistics :=
  { stats with ended := some (s.calendar (now + 1)) }

end Seat

end LoadFleet
