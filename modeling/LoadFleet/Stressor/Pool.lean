import LoadFleet.Time.Clock
/-!
# Pools of stressors

All stressors of a pool start at once, and the pool waits for one after the other. If one is late
when the time limit is reached, all are asked to stop; those that are still running when the grace
period is over are aborted, and what they measured is lost.

What the stressors do is given from outside, as a function of when they are asked to stop:
`Squad.completions` tells when each of them ends, and how.
-/

namespace LoadFleet

/-- How a stressor ends by itself. -/
inductive Ending (A : Type) where
  | finished (a : A)
  | panicked (message : String)
  deriving DecidableEq

/-- When and how a stressor ends, if it ever does. -/
abbrev Completed (A : Type) := Option (Instant × Ending A)

/-- What the stressors of a pool do, and what they leave behind. -/
structure Squad (A W : Type) where
  completions : List (Completed A)
  after : W

/-- What a pool knows of a stressor in the end. -/
inductive UnitOutcome (A : Type) where
  | finished (a : A)
  | aborted
  | panicked (message : String)
  deriving DecidableEq

/-- How a stressor that ended by itself counts. -/
def Ending.outcome {A : Type} : Ending A → UnitOutcome A
  | finished a => .finished a
  | panicked message => .panicked message

/-- The limits of a pool. -/
structure PoolLimits where
  deadline : Option Span
  grace : Span

/-- How a pool ended. -/
structure PoolOutcome (A W : Type) where
  /-- One outcome for every stressor, in their order. -/
  units : List (UnitOutcome A)
  /-- Whether a stressor was late. -/
  timedOut : Bool
  ended : Instant
  /-- What the stressors left behind. -/
  after : W

/-- The number of stressors that were aborted. -/
def PoolOutcome.aborted {A W : Type} (o : PoolOutcome A W) : Nat :=
  o.units.countP fun
    | .aborted => true
    | _ => false

/-- The results of the stressors that finished, in their order. -/
def PoolOutcome.results {A W : Type} (o : PoolOutcome A W) : List A :=
  o.units.filterMap fun
    | .finished a => some a
    | _ => none

namespace Pool

variable {A W : Type}

/-- What waiting for one stressor gives. -/
inductive Joined (A : Type) where
  | ended (outcome : UnitOutcome A) (now : Instant)
  /-- The stressor is still running at the deadline. -/
  | late (deadline : Instant)
  | never

/-- Waits for a stressor until a deadline, if there is one. -/
def join (deadline : Option Instant) (now : Instant) : Completed A → Joined A
  | some (time, ending) =>
    match deadline with
    | some d => if time ≤ d then .ended ending.outcome (max now time) else .late d
    | none => .ended ending.outcome (max now time)
  | none =>
    match deadline with
    | some d => .late d
    | none => .never

/-- Where a pool stands after it has waited for the stressors in turn. -/
structure Slots (A : Type) where
  /-- The outcomes known so far. -/
  outcomes : List (Option (UnitOutcome A))
  timedOut : Bool
  now : Instant

/-- Waits for the stressors in turn, up to the first that is late. -/
def joinInTime (deadline : Option Instant) : Instant → List (Completed A) → Option (Slots A)
  | now, [] => some ⟨[], false, now⟩
  | now, c :: r =>
    match join deadline now c with
    | .ended outcome now => do
      let slots ← joinInTime deadline now r
      return { slots with outcomes := some outcome :: slots.outcomes }
    | .late d => some ⟨none :: r.map fun _ => none, true, d⟩
    | .never => none

/-- Waits for the stressors of which no outcome is known. One that is late is aborted. -/
def joinRest (deadline : Option Instant) : Instant →
    List (Option (UnitOutcome A) × Completed A) → Option (List (UnitOutcome A) × Instant)
  | now, [] => some ([], now)
  | now, (some outcome, _) :: r => do
    let (outcomes, last) ← joinRest deadline now r
    return (outcome :: outcomes, last)
  | now, (none, c) :: r =>
    match join deadline now c with
    | .ended outcome now => do
      let (outcomes, last) ← joinRest deadline now r
      return (outcome :: outcomes, last)
    | .late d => do
      let (outcomes, last) ← joinRest deadline (max now d) r
      return (.aborted :: outcomes, last)
    | .never => none

/-- When the time limit is reached; one that the clock cannot represent never comes. -/
def deadline (clock : Clock) (limits : PoolLimits) (started : Instant) : Option Instant :=
  limits.deadline.bind (clock.alarm? started)

/-- Runs a pool. There is no outcome if it never ends. -/
def run (clock : Clock) (limits : PoolLimits) (started : Instant)
    (squad : Option Instant → Squad A W) : Option (PoolOutcome A W) := do
  let undisturbed := squad none
  let slots ← joinInTime (deadline clock limits started) started undisturbed.completions
  if slots.timedOut then
    let asked := squad (some slots.now)
    let (units, ended) ←
      joinRest (clock.alarm? slots.now limits.grace) slots.now
        (slots.outcomes.zip asked.completions)
    return ⟨units, true, ended, asked.after⟩
  else
    return ⟨slots.outcomes.filterMap id, false, slots.now, undisturbed.after⟩

end Pool

end LoadFleet
