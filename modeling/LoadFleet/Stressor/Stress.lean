import LoadFleet.Stressor.Ask
/-!
# Random requests

A stress test claims one request after the other, draws an operation and a key for it, and makes
it. Claims come out of a budget that all stressors of a worker share, or are granted during a
window of time that opens with the first claim of any of them. A stressor may give up after a
number of failures in a row.

The claim that opens the window reads the clock a second time to see whether the window is still
open. So it may be refused, if the window is shorter than the time between the two readings.

Statistics of fewer than `2 ^ 64` requests have room for one more, and no run gets that far. So a
stressor records without looking for room.
-/

namespace LoadFleet.Stress

/-! ### Claims -/

/-- What the stressors of a worker may still claim. -/
inductive Completion where
  | requests (left : UInt64)
  /-- A window of time; once opened it closes at some time, if the clock gets there. -/
  | window (duration : Span) (closing : Option (Option Instant))
  deriving DecidableEq

namespace Completion

/-- What may be claimed at the start. -/
def ofSettings (settings : StressSettings) : Completion :=
  match settings.duration with
  | some duration => window duration none
  | none => requests settings.numRequests

/-- When a claim is decided. One that opens the window reads the clock again, so many nanoseconds
later. -/
def decided (c : Completion) (now : Instant) (lag : Nat) : Instant :=
  match c with
  | window _ none => now + lag
  | _ => now

/-- Claims a request. The first claim opens the window. -/
def claim (c : Completion) (now : Instant) (lag : Nat) : Bool × Completion :=
  match c with
  | requests left => if left = 0 then (false, requests 0) else (true, requests (left - 1))
  | window duration closing =>
    let closes := closing.getD (now.after? duration)
    (closes.all fun t => c.decided now lag < t, window duration (some closes))

end Completion

/-! ### Draws -/

/-- A draw: a number for the operation and one for the key. -/
structure Roll where
  operation : Nat
  key : Nat

/-- The draws of a stressor, in order. -/
abbrev Dice := Nat → Roll

/-- A 64-bit word that depends on all bits of another one. -/
def scramble (n : UInt64) : UInt64 :=
  let n := (n ^^^ (n >>> 30)) * 0xbf58476d1ce4e5b9
  let n := (n ^^^ (n >>> 27)) * 0x94d049bb133111eb
  n ^^^ (n >>> 31)

/-- Dice that start from a seed. -/
def seeded (seed : UInt64) : Dice := fun i =>
  let n := scramble (seed + 0x9e3779b97f4a7c15 * (2 * i + 1).toUInt64)
  ⟨n.toNat, (scramble (n + 0x9e3779b97f4a7c15)).toNat⟩

/-- How often each operation is drawn, relative to the others. -/
structure Weights where
  get : Nat
  put : Nat
  remove : Nat
  deriving DecidableEq

/-- The ratios of the settings, if an operation can be drawn with them. -/
def weights? (settings : StressSettings) : Except String Weights :=
  if 0x100000000 ≤ settings.ratioSum then .error "Overflow when summing weights"
  else if settings.ratioSum = 0 then .error "Not enough weights > zero"
  else .ok ⟨settings.getRatio.toNat, settings.putRatio.toNat, settings.removeRatio.toNat⟩

/-- The operation of a roll. -/
def Weights.pick (w : Weights) (roll : Nat) (key : String) (value : Bytes) : Operation :=
  let n := roll % (w.get + w.put + w.remove)
  if n < w.get then .get key
  else if n < w.get + w.put then .put key value
  else .remove key

/-! ### Turns -/

/-- What a stressor measured, and why it gave up if it did. -/
structure Result where
  stats : RunStatistics
  failure : Option String

/-- The state of a stressor between two turns. -/
structure State where
  stats : RunStatistics
  /-- The number of draws so far. -/
  drawn : Nat
  /-- The number of failures since the last success. -/
  failures : UInt32
  failure : Option String

/-- What a stressor of a stress test works with. -/
structure Setup where
  settings : StressSettings
  weights : Weights
  value : Bytes
  seat : Seat
  dice : Dice
  /-- How many nanoseconds pass between two readings of the clock in a row. -/
  lag : Nat

/-- A stressor before its first turn. -/
def start (setup : Setup) (now : Instant) : State :=
  ⟨setup.seat.begin setup.settings.test.stats now, 0, 0, none⟩

/-- The operation that a stressor draws. -/
def Setup.draw (setup : Setup) (i : Nat) : Operation :=
  let roll := setup.dice i
  let key := InMemory.keyOf (roll.key % setup.settings.numEntries.toNat)
  setup.weights.pick roll.operation key setup.value

namespace State

/-- Goes on after a request. -/
def onResponse (s : State) (setup : Setup) (operation : Operation) (asked : Instant)
    (r : Except StoreError Response) (now : Instant) : State :=
  let stats := s.stats.record operation.name (asked.spanTo now) r.isOk
  match r with
  | .ok _ => { s with stats, drawn := s.drawn + 1, failures := 0 }
  | .error e =>
    let failures := s.failures + 1
    let failure :=
      if setup.settings.maxConsecutiveFailures.any fun limit => limit ≤ failures then
        some (s!"stressor {setup.seat.index} stopped after {failures} consecutive failures, " ++
          s!"last: {e.message}")
      else none
    { stats, drawn := s.drawn + 1, failures, failure }

/-- What a stressor measured. -/
def result (s : State) (setup : Setup) (now : Instant) : Result :=
  ⟨setup.seat.finish s.stats now, s.failure⟩

/-- The next turn of a stressor, and what may be claimed after it. A stressor that gave up or is
asked to stop claims nothing. -/
def turn {C : Type} (s : State) (setup : Setup) (now : Instant) (stopping : Bool)
    (completion : Completion) : Turn C State Result × Completion :=
  if s.failure.isSome || stopping then (.finish (s.result setup now), completion)
  else
    let decided := completion.decided now setup.lag
    let (granted, completion) := completion.claim now setup.lag
    if granted then
      let operation := setup.draw s.drawn
      (.call (.invoke setup.settings.container operation (s.onResponse setup operation decided)),
        completion)
    else (.finish (s.result setup decided), completion)

end State

end LoadFleet.Stress
