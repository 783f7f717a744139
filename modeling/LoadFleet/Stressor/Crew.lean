import LoadFleet.Store.Simulated
import LoadFleet.Stressor.Ask
import LoadFleet.Stressor.Pool
/-!
# Running stressors against a simulated store

A `Crew` is a number of stressors that share a store. A queue holds when each of them takes its
next turn. A call that takes no time is answered at once; after a number of such calls a stressor
lets the others go first. Any other call is answered when its time is up.
-/

namespace LoadFleet

/-- Where a stressor stands. -/
inductive Stand (C S R : Type) where
  | ready (state : S)
  /-- It has called the store and gets its answer when its time comes. -/
  | waiting (ask : Ask C S)
  | ended (time : Instant) (ending : Ending R)
  /-- It will never get an answer. -/
  | stuck

/-- A stressor in the queue: when it takes its turn, which one it is, and how many calls it may
still make before others go first. -/
structure Queued where
  time : Instant
  unit : Nat
  left : Nat

/-- Stressors with what they share: a clock, a store, and something of type `K`. -/
structure Crew (K S R : Type) where
  clock : Clock
  shared : K
  store : Simulated
  stands : Array (Stand Simulated.Cursor S R)
  queue : List Queued

/-- How a stressor takes a turn, given its number, its state, the time, whether it is asked to
stop, and what is shared. -/
abbrev Step (K S R : Type) := Nat → S → Instant → Bool → K → Turn Simulated.Cursor S R × K

namespace Crew

variable {K S R : Type}

/-- How many calls a stressor makes before others go first. -/
def slice : Nat := 128

/-- The order of the first turns: the last stressor to arrive at the start goes first. -/
def firstTurns (now : Instant) (count : Nat) : List Queued :=
  ((if count = 0 then [] else [count - 1]) ++ List.range (count - 1)).map fun i => ⟨now, i, slice⟩

/-- A crew at the start. -/
def start (clock : Clock) (shared : K) (store : Simulated) (states : List S) (now : Instant) :
    Crew K S R :=
  ⟨clock, shared, store, (states.map Stand.ready).toArray, firstTurns now states.length⟩

/-- Queues a stressor behind all that take their turn no later. -/
def enqueue (p : Queued) : List Queued → List Queued
  | [] => [p]
  | q :: r => if p.time < q.time then p :: q :: r else q :: enqueue p r

/-- Whether a call counts towards letting the others go first. -/
def isCounted : StoreCall → Bool
  | .invoke | .hasNext => true
  | _ => false

/-- Puts a stressor that was answered at once back into the queue. -/
def requeue (p : Queued) (call : StoreCall) (queue : List Queued) : List Queued :=
  let left := if isCounted call then p.left - 1 else p.left
  if left = 0 then enqueue { p with left := slice } queue else { p with left } :: queue

/-- What becomes of a call when its time is up. -/
def settle (c : Crew K S R) (p : Queued) (ask : Ask Simulated.Cursor S) : Crew K S R :=
  let put (stand : Stand Simulated.Cursor S R) := c.stands.setIfInBounds p.unit stand
  match c.store.manners.fate ask.kind with
  | .answered =>
    let (state, store) := ask.answer c.store p.time
    { c with store, stands := put (.ready state), queue := requeue p ask.kind c.queue }
  | .fails e =>
    { c with
        stands := put (.ready (ask.fail e p.time))
        queue := requeue p ask.kind c.queue }
  | .crashes message => { c with stands := put (.ended p.time (.panicked message)) }
  | .hangs => { c with stands := put .stuck }

/-- Makes a call: one that takes no time is settled at once. -/
def call (c : Crew K S R) (p : Queued) (ask : Ask Simulated.Cursor S) : Crew K S R :=
  let delay := c.store.manners.delay ask.kind
  if delay.isZero then c.settle p ask
  else
    { c with
        stands := c.stands.setIfInBounds p.unit (.waiting ask)
        queue := enqueue ⟨c.clock.wake p.time delay, p.unit, slice⟩ c.queue }

/-- Lets a stressor take its turn. -/
def turn (step : Step K S R) (stop : Option Instant) (c : Crew K S R) (p : Queued) : Crew K S R :=
  match c.stands[p.unit]? with
  | some (.ready state) =>
    match step p.unit state p.time (stop.any fun t => t ≤ p.time) c.shared with
    | (.finish result, shared) =>
      { c with
          shared
          stands := c.stands.setIfInBounds p.unit (.ended p.time (.finished result)) }
    | (.call ask, shared) => { c with shared }.call p ask
  | some (.waiting ask) => c.settle p ask
  | _ => c

/-- Lets the stressors take their turns, as long as someone has one before the limit. -/
def run (step : Step K S R) (stop limit : Option Instant) : Nat → Crew K S R → Crew K S R
  | 0, c => c
  | turns + 1, c =>
    match c.queue with
    | [] => c
    | p :: queue =>
      if limit.any fun t => t < p.time then c
      else run step stop limit turns (turn step stop { c with queue } p)

/-- How many turns a crew is given. A run that is not over by then is cut off there, and whoever has
not ended counts as one that never does: a stress test with a duration is such a run when no call
takes any time, since its window never closes. -/
def manyTurns : Nat := 1000000000

/-- When and how each stressor ended. -/
def completions (c : Crew K S R) : List (Completed R) :=
  c.stands.toList.map fun
    | .ended time ending => some (time, ending)
    | _ => none

/-- What the stressors do when they are asked to stop at some time, or never, and run no longer
than a limit. -/
def squad (c : Crew K S R) (step : Step K S R) (stop limit : Option Instant) :
    Squad R Simulated :=
  let after := run step stop limit manyTurns c
  ⟨after.completions, after.store⟩

/-- What the stressors of a pool do: they run until the time limit, or until the grace period is
over once they are asked to stop. -/
def pooled (c : Crew K S R) (step : Step K S R) (limits : PoolLimits) (started : Instant)
    (stop : Option Instant) : Squad R Simulated :=
  match stop with
  | none => c.squad step none (Pool.deadline c.clock limits started)
  | some t => c.squad step stop (c.clock.alarm? t limits.grace)

end Crew

end LoadFleet
