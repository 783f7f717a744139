import LoadFleet.Proofs.WholePasses
import LoadFleet.Worker.Worker
import Mathlib.Algebra.BigOperators.Fin
import Mathlib.Algebra.Order.BigOperators.Group.Finset
/-!
# Passing over a shared store

The stressors of all workers of an iteration share one store. They follow each other in any order:
each takes its turns, and its calls are answered, at any time, and between two of these the others
may do whatever they do next. Without faults no call changes the store, so what a stressor finds
does not depend on the others.

* `Iterate.Goes`: what one stressor does next.
* `Iterate.Moment.Runs`: what all stressors do, one step after the other.
* `Iterate.Goes.onTrack`: a step leaves the store as it is, and the stressor with one step less to
  go.
* `Iterate.Moment.Runs.sound`: by induction over a run, every moment of it is sound, and the steps
  made and the steps left are the same in sum.
* `Iterate.Moment.Runs.completes`: every run goes on until all stressors have returned.
-/

namespace LoadFleet

/-- When and how a stressor ended, if it did. -/
def Stand.completed {C S R : Type} : Stand C S R → Completed R
  | .ended time ending => some (time, ending)
  | _ => none

namespace Iterate

/-! ### One stressor -/

/-- What one stressor does next, with the store before and after. It takes its turn, at any time, or
its call is answered, at any time. It is not asked to stop. -/
inductive Goes (settings : IterateSettings) (seat : Seat) :
    Simulated → Stand Simulated.Cursor (State Simulated.Cursor) IterationResult →
      Simulated → Stand Simulated.Cursor (State Simulated.Cursor) IterationResult → Prop where
  | call {store : Simulated} {s : State Simulated.Cursor} {now : Instant}
    {ask : Ask Simulated.Cursor (State Simulated.Cursor)}
    (turn : s.turn settings seat now false = .call ask) :
    Goes settings seat store (.ready s) store (.waiting ask)
  | answer {store : Simulated} {ask : Ask Simulated.Cursor (State Simulated.Cursor)}
    (now : Instant) :
    Goes settings seat store (.waiting ask) (ask.answer store now).2
      (.ready (ask.answer store now).1)
  | finish {store : Simulated} {s : State Simulated.Cursor} {now : Instant}
    {result : IterationResult} (turn : s.turn settings seat now false = .finish result) :
    Goes settings seat store (.ready s) store (.ended now (.finished result))

/-- Where a stressor stands in its passes over entries of a store, with the number of steps that it
has still to go. -/
inductive StandsOnTrack (settings : IterateSettings) (found : InMemory.Cursor)
    (store : Simulated) :
    Stand Simulated.Cursor (State Simulated.Cursor) IterationResult → Nat → Prop where
  | ready {s : State Simulated.Cursor} {left : Nat} (track : OnTrack settings found s left) :
    StandsOnTrack settings found store (.ready s) (2 * left + 1)
  | waiting {ask : Ask Simulated.Cursor (State Simulated.Cursor)} {left : Nat}
    (awaits : Awaits settings found store ask left) :
    StandsOnTrack settings found store (.waiting ask) (2 * left + 2)
  | ended {time : Instant} {result : IterationResult}
    (finds : Finds settings found.length result) :
    StandsOnTrack settings found store (.ended time (.finished result)) 0

section

variable {settings : IterateSettings} {found : InMemory.Cursor} {store after : Simulated}
  {stand stand' : Stand Simulated.Cursor (State Simulated.Cursor) IterationResult} {left : Nat}
  {seat : Seat}

/-- A step leaves the store as it is, and the stressor with one step less to go. -/
theorem Goes.onTrack (goes : Goes settings seat store stand after stand')
    (track : StandsOnTrack settings found store stand left) (offers : store.Offers settings found)
    (loops : 0 < settings.numLoops.toNat) :
    after = store ∧ ∃ fewer, left = fewer + 1 ∧
      StandsOnTrack settings found store stand' fewer := by
  cases goes with
  | @call s now ask turn =>
    obtain ⟨track⟩ := track
    rcases track.turn offers loops seat now with ⟨-, _, finish, -⟩ | ⟨_, fewer, rfl, call, awaits⟩
    · cases finish.symm.trans turn
    · cases call.symm.trans turn
      exact ⟨rfl, 2 * fewer + 2, rfl, .waiting awaits⟩
  | answer now =>
    obtain _ | ⟨awaits⟩ := track
    obtain ⟨s, answered, track⟩ := awaits now
    rw [answered]
    exact ⟨rfl, _, rfl, .ready track⟩
  | @finish s now result turn =>
    obtain ⟨track⟩ := track
    rcases track.turn offers loops seat now with ⟨rfl, _, finish, finds⟩ | ⟨_, _, -, call, -⟩
    · cases finish.symm.trans turn
      exact ⟨rfl, 0, rfl, .ended finds⟩
    · cases call.symm.trans turn

/-- A stressor that has a step to go makes it. -/
theorem StandsOnTrack.goes (track : StandsOnTrack settings found store stand left)
    (more : left ≠ 0) (seat : Seat) :
    ∃ after stand', Goes settings seat store stand after stand' := by
  cases track with
  | @ready s _ track =>
    rcases turn : s.turn settings seat 0 false with result | ask
    · exact ⟨_, _, .finish turn⟩
    · exact ⟨_, _, .call turn⟩
  | waiting awaits => exact ⟨_, _, .answer 0⟩
  | ended => exact absurd rfl more

end

/-! ### All stressors -/

/-- A moment of an iteration: the store that all workers share, and where each of `k` stressors of
each of `n` workers stands. -/
structure Moment (n k : Nat) where
  store : Simulated
  stands : Fin n × Fin k → Stand Simulated.Cursor (State Simulated.Cursor) IterationResult

namespace Moment

variable {n k : Nat}

/-- The start: each stressor is ready. -/
def opening (settings : IterateSettings) (calendar : WallTime) (store : Simulated)
    (began : Fin n × Fin k → Instant) : Moment n k :=
  ⟨store, fun u => .ready (start settings ⟨u.2, calendar⟩ (began u))⟩

/-- What may happen next: any one of the stressors makes a step. -/
inductive Next (settings : IterateSettings) (calendar : WallTime) (m : Moment n k) :
    Moment n k → Prop where
  | step (u : Fin n × Fin k) {store : Simulated}
    {stand : Stand Simulated.Cursor (State Simulated.Cursor) IterationResult}
    (goes : Goes settings ⟨u.2, calendar⟩ m.store (m.stands u) store stand) :
    Next settings calendar m ⟨store, Function.update m.stands u stand⟩

/-- The moments from a first one up to another one. -/
inductive Runs (settings : IterateSettings) (calendar : WallTime) (first : Moment n k) :
    List (Moment n k) → Moment n k → Prop where
  | start : Runs settings calendar first [first] first
  | next {history : List (Moment n k)} {m m' : Moment n k}
    (run : Runs settings calendar first history m) (step : Next settings calendar m m') :
    Runs settings calendar first (history ++ [m']) m'

/-- All stressors are on track, over a store as it was, and a number of steps is left. -/
def Sound (settings : IterateSettings) (found : InMemory.Cursor) (store : Simulated)
    (m : Moment n k) (left : Nat) : Prop :=
  m.store = store ∧ ∃ each : Fin n × Fin k → Nat,
    (∀ u, StandsOnTrack settings found store (m.stands u) (each u)) ∧ ∑ u, each u = left

/-- The number of steps that all stressors make. -/
def steps (settings : IterateSettings) (entries n k : Nat) : Nat :=
  n * k * (2 * (settings.numLoops.toNat * passCalls entries) + 1)

section

variable {settings : IterateSettings} {calendar : WallTime} {found : InMemory.Cursor}
  {store : Simulated} {m m' first : Moment n k} {history : List (Moment n k)} {left : Nat}

theorem sound_opening (settings : IterateSettings) (found : InMemory.Cursor) (calendar : WallTime)
    (store : Simulated) (began : Fin n × Fin k → Instant) :
    Sound settings found store (opening settings calendar store began)
      (steps settings found.length n k) := by
  refine ⟨rfl, fun _ => _, fun u => .ready (onTrack_start settings found _ _), ?_⟩
  simp [steps]

/-- A run is at its last moment. -/
theorem Runs.last (run : Runs settings calendar first history m) : m ∈ history := by
  cases run with
  | start => exact .head _
  | next => exact List.mem_append_right _ (.head _)

section

variable (offers : store.Offers settings found) (loops : 0 < settings.numLoops.toNat)

include offers loops

/-- A step of any stressor is one step less to go for all of them. -/
theorem Sound.next (sound : Sound settings found store m left)
    (next : Next settings calendar m m') :
    ∃ fewer, left = fewer + 1 ∧ Sound settings found store m' fewer := by
  obtain ⟨same, each, track, sum⟩ := sound
  obtain ⟨u, goes⟩ := next
  rw [same] at goes
  obtain ⟨rfl, fewer, step, here⟩ := goes.onTrack (track u) offers loops
  refine ⟨∑ v, Function.update each u fewer v, ?_, rfl, Function.update each u fewer, ?_, rfl⟩
  · rw [← sum, Finset.sum_update_of_mem (Finset.mem_univ u),
      ← Finset.add_sum_erase _ _ (Finset.mem_univ u), Finset.erase_eq, step]
    omega
  · intro v
    by_cases same : v = u
    · subst same
      simpa using here
    · simpa [Function.update_of_ne same] using track v

/-- **Every moment of a run is sound**, and the moments so far and the steps left are the same in
sum. -/
theorem Runs.sound {total : Nat} (run : Runs settings calendar first history m)
    (start : Sound settings found store first total) :
    (∀ m' ∈ history, ∃ left, Sound settings found store m' left) ∧
      ∃ left, Sound settings found store m left ∧ history.length + left = total + 1 := by
  induction run with
  | start => exact ⟨List.forall_mem_singleton.2 ⟨total, start⟩, total, start, Nat.add_comm ..⟩
  | @next history m m' run step ih =>
    obtain ⟨all, left, sound, sum⟩ := ih
    obtain ⟨fewer, rfl, later⟩ := sound.next offers loops step
    refine ⟨List.forall_mem_append.2 ⟨all, List.forall_mem_singleton.2 ⟨fewer, later⟩⟩, fewer,
      later, ?_⟩
    rw [List.length_append, List.length_singleton]
    omega

end

/-- While there are steps left, a step can be made. -/
theorem Sound.exists_next (sound : Sound settings found store m left) (more : left ≠ 0)
    (calendar : WallTime) : ∃ m', Next settings calendar m m' := by
  obtain ⟨same, each, track, sum⟩ := sound
  obtain ⟨u, -, more⟩ : ∃ u ∈ Finset.univ, each u ≠ 0 :=
    Finset.exists_ne_zero_of_sum_ne_zero (sum ▸ more)
  obtain ⟨after, stand, goes⟩ := (track u).goes more ⟨u.2, calendar⟩
  exact ⟨_, .step u (same ▸ goes)⟩

/-- What the stressors of a worker have come to, and the store. -/
def squad (m : Moment n k) (worker : Fin n) : Squad IterationResult Simulated :=
  ⟨List.ofFn fun i => (m.stands (worker, i)).completed, m.store⟩

/-- A worker has the results of its stressors. -/
def Done (m : Moment n k) (worker : Fin n) : Prop :=
  ∀ i, ∃ time result, m.stands (worker, i) = .ended time (.finished result)

/-- A moment without a step left is the end of the iteration. -/
theorem Sound.done (sound : Sound settings found store m 0) (worker : Fin n) : m.Done worker := by
  obtain ⟨-, each, track, sum⟩ := sound
  intro i
  have track := track (worker, i)
  rw [Finset.sum_eq_zero_iff.1 sum (worker, i) (Finset.mem_univ _)] at track
  generalize m.stands (worker, i) = stand at *
  cases track with
  | ended => exact ⟨_, _, rfl⟩

/-- The stressors of a worker that has their results found all entries, and the store is as it
was. -/
theorem Sound.squad (sound : Sound settings found store m left) {worker : Fin n}
    (done : m.Done worker) :
    (m.squad worker).after = store ∧ ∃ results : List (Instant × IterationResult),
      (m.squad worker).completions = results.map (fun e => some (e.1, .finished e.2)) ∧
        results.length = k ∧ ∀ e ∈ results, Finds settings found.length e.2 := by
  obtain ⟨same, each, track, -⟩ := sound
  choose time result ended using done
  refine ⟨same, List.ofFn fun i => (time i, result i), ?_, List.length_ofFn, ?_⟩
  · rw [List.map_ofFn, Moment.squad]
    exact congrArg List.ofFn (funext fun i => by rw [ended i]; rfl)
  · rw [List.forall_mem_ofFn_iff]
    intro i
    have track := track (worker, i)
    rw [ended i] at track
    generalize each (worker, i) = here at track
    cases track with
    | ended finds => exact finds

/-- **Every run goes on to its end**, which is reached after as many steps as are left. -/
theorem Runs.completes (offers : store.Offers settings found)
    (loops : 0 < settings.numLoops.toNat) (run : Runs settings calendar first history m)
    (sound : Sound settings found store m left) :
    ∃ more m', Runs settings calendar first (history ++ more) m' ∧ more.length = left ∧
      ∀ worker, m'.Done worker := by
  induction left generalizing history m with
  | zero => exact ⟨[], m, by simpa using run, rfl, sound.done⟩
  | succ left ih =>
    obtain ⟨m', next⟩ := sound.exists_next (Nat.succ_ne_zero left) calendar
    obtain ⟨fewer, same, sound⟩ := sound.next offers loops next
    cases same
    obtain ⟨more, last, run, length, done⟩ := ih (run.next next) sound
    refine ⟨m' :: more, last, ?_, by rw [List.length_cons, length], done⟩
    simpa using run

end

end Moment

end Iterate

end LoadFleet
