import LoadFleet.Proofs.CrewRun
import LoadFleet.Proofs.PoolEnds
/-!
# Why a stress test fails

With ratios that an operation can be drawn with, a stressor has one reason of its own to fail: too
many calls in a row failed (`Stress.GaveUp`).

* `Ask.Leads`: how a stressor goes on after a call, whatever the answer is.
* `Stress.Moment.Runs.reasoned`: by induction over a run, this is why the stressors failed.
* `Stress.failure_of_completion`: so it is for the stressors of a worker.
* `Worker.stress_message`: every error of a stress test names a stressor or the stage.
-/

namespace LoadFleet

/-- The states with which a stressor may go on after a call: any answer may come at any time. -/
inductive Ask.Leads {C S : Type} : Ask C S → S → Prop where
  | invoke {container : Option String} {operation : Operation}
    {goOn : Except StoreError Response → Instant → S} (r : Except StoreError Response)
    (now : Instant) : Leads (.invoke container operation goOn) (goOn r now)
  | iterate {container filter converter : Option String}
    {goOn : Except StoreError C → Instant → S} (r : Except StoreError C) (now : Instant) :
    Leads (.iterate container filter converter goOn) (goOn r now)
  | hasNext {cursor : C} {goOn : Except StoreError Bool → Instant → S} (r : Except StoreError Bool)
    (now : Instant) : Leads (.hasNext cursor goOn) (goOn r now)
  | next {cursor : C} {goOn : Except StoreError (Entry × C) → Instant → S}
    (r : Except StoreError (Entry × C)) (now : Instant) : Leads (.next cursor goOn) (goOn r now)
  | close {cursor : C} {goOn : Except StoreError Unit → Instant → S} (r : Except StoreError Unit)
    (now : Instant) : Leads (.close cursor goOn) (goOn r now)

namespace Stress

/-- What a stressor says that gave up. -/
def GaveUp (text : String) : Prop :=
  ∃ (i : Nat) (failures : UInt32) (e : StoreError), text =
    s!"stressor {i} stopped after {failures} consecutive failures, " ++ s!"last: {e.message}"

/-- The reason of a failure, if there is one, is that the stressor gave up. -/
def Reasoned (failure : Option String) : Prop := ∀ text ∈ failure, GaveUp text

theorem reasoned_none : Reasoned none := nofun

theorem reasoned_onResponse {s : State} (h : Reasoned s.failure) (setup : Setup)
    (operation : Operation) (asked : Instant) (r : Except StoreError Response) (now : Instant) :
    Reasoned (s.onResponse setup operation asked r now).failure := by
  cases r with
  | ok => exact h
  | error e =>
    rw [State.onResponse]
    dsimp only
    split
    · intro text reason
      cases reason
      exact ⟨setup.seat.index, _, e, rfl⟩
    · exact reasoned_none

/-- What is known of the failure of a stressor in each phase. -/
def Phase.Reasoned : Phase → Prop
  | ready s => Stress.Reasoned s.failure
  | claimed ask | calling ask => ∀ s, ask.Leads s → Stress.Reasoned s.failure
  | returned result => Stress.Reasoned result.failure
  | lost => True

namespace Moment

variable {t : Trial} {n : Nat} {i : Fin n} {c c' : Completion} {p p' : Phase} {h : Happening n}

theorem Passes.reasoned (drawable : ∃ w, weights? t.settings = .ok w)
    (passes : Passes t i c p h c' p') (before : p.Reasoned) : p'.Reasoned := by
  obtain ⟨w, weighed⟩ := drawable
  cases passes with
  | claim turn =>
    obtain ⟨-, _, rfl⟩ := Trial.of_step_call weighed turn
    rintro _ ⟨r, later⟩
    exact reasoned_onResponse before _ _ _ r later
  | finish turn =>
    obtain ⟨same, -⟩ := Trial.of_step_finish weighed turn
    rw [Phase.Reasoned, same]
    exact before
  | call => exact before
  | answer response now => exact before _ (.invoke response now)
  | lose => trivial

variable {now : Nat → Instant} {trace : List (Happening t.size)} {m : Moment t.size}

/-- **Why stressors fail.** With ratios that an operation can be drawn with, a stressor fails only
because it gave up. -/
theorem Runs.reasoned (drawable : ∃ w, weights? t.settings = .ok w)
    (run : Runs t (opening t now) trace m) (i : Fin t.size) : (m.phases i).Reasoned := by
  induction run with
  | start => exact reasoned_none
  | next _ step ih =>
    obtain @⟨j, _, _, _, passes⟩ := step
    by_cases here : i = j
    · subst here
      simpa using passes.reasoned drawable ih
    · simpa [Function.update_of_ne here] using ih

end Moment

/-! ### The stressors of a worker -/

theorem Shows.returned_of_completion {n : Nat} {c : Crew Completion State Result} {m : Moment n}
    (h : Shows c m) {time : Instant} {result : Result}
    (ended : some (time, .finished result) ∈ c.completions) :
    ∃ i, m.phases i = .returned result := by
  obtain ⟨stand, hm, ended⟩ := List.mem_map.1 ended
  obtain ⟨i, inside, rfl⟩ := List.mem_iff_getElem.1 hm
  rw [Array.length_toList] at inside
  have phase := h.stands.phase ⟨i, h.stands.size ▸ inside⟩
  rw [Array.getElem?_eq_getElem inside, Option.map_some] at phase
  refine ⟨_, (Option.some.inj phase).symm.trans ?_⟩
  rw [Array.getElem_toList] at ended
  generalize c.stands[i] = stand at ended
  rcases stand with _ | _ | _ | _ <;> cases ended
  rfl

/-- A stressor of a worker fails only because it gave up. -/
theorem failure_of_completion {settings : StressSettings}
    (drawable : ∃ w, weights? settings = .ok w) (env : Surroundings) (now : Instant)
    {stop limit : Option Instant} {time : Instant} {result : Result}
    (ended : some (time, .finished result) ∈
      ((Stress.crew settings env now).squad
        (Stress.step settings (.zeros settings.entrySize.toNat) env) stop limit).completions) :
    Reasoned result.failure := by
  obtain ⟨_, m, run, shows⟩ := crew_runs settings env now stop limit Crew.manyTurns
  obtain ⟨i, returned⟩ := shows.returned_of_completion ended
  have reasoned := run.reasoned drawable i
  rwa [returned] at reasoned

end Stress

/-! ### What a worker says -/

/-- A message of a worker about one of its stressors or about the stage that it runs. -/
def IsAbout (worker : WorkerIndex) (message : String) : Prop :=
  ∃ rest, message.toList =
    "worker ".toList ++ (Nat.toDigits 10 worker.toNat ++ (": st".toList ++ rest))

theorem IsAbout.ne_invalidRatios {worker : WorkerIndex} {message : String}
    (about : IsAbout worker message) (reason : String) :
    message ≠ s!"worker {worker}: invalid operation ratios: {reason}" := by
  obtain ⟨rest, shape⟩ := about
  rintro rfl
  simp [toString, Nat.toList_repr] at shape

theorem isAbout_firstPanic? {A : Type} {worker : WorkerIndex} {i : Nat}
    {units : List (UnitOutcome A)} {e : AckError} (h : firstPanic? worker i units = some e) :
    IsAbout worker e.message := by
  induction units generalizing i with
  | nil => cases h
  | cons u r ih =>
    cases u with
    | finished | aborted => exact ih h
    | panicked message =>
      cases h
      exact ⟨_, by simp [toString, Nat.toList_repr]; rfl⟩

theorem isAbout_poolError? {A W : Type} {worker : WorkerIndex} {stage : Stage}
    {o : PoolOutcome A W} {e : AckError} (h : poolError? worker stage o = some e) :
    IsAbout worker e.message := by
  rw [poolError?] at h
  split at h
  · cases h
    exact ⟨_, by simp [toString, Nat.toList_repr]; rfl⟩
  · exact isAbout_firstPanic? h

theorem isAbout_firstFailure? {worker : WorkerIndex} {results : List Stress.Result}
    (reasoned : ∀ r ∈ results, Stress.Reasoned r.failure) {e : AckError}
    (h : firstFailure? worker results = some e) : IsAbout worker e.message := by
  obtain ⟨failure, first, rfl⟩ := Option.map_eq_some_iff.1 h
  obtain ⟨r, hr, failed⟩ := List.exists_of_findSome?_eq_some first
  obtain ⟨i, failures, cause, rfl⟩ := reasoned r hr failure failed
  exact ⟨_, by simp [toString, Nat.toList_repr]; rfl⟩

/-- **What a stress test says.** With ratios that an operation can be drawn with, the error of a
stress test is about a stressor that gave up or crashed, or about a stage that took too long. -/
theorem Worker.stress_message {w : Worker} {env : Surroundings} {stage : Stage}
    {settings : StressSettings} (drawable : ∃ weights, Stress.weights? settings = .ok weights)
    {now answered : Instant} {r : StageResult} {store : Simulated}
    (h : w.stress env stage settings now = some (answered, r, store)) {e : AckError}
    (failed : r.error = some e) : IsAbout w.index e.message := by
  obtain ⟨o, ran, h⟩ := Option.bind_eq_some_iff.1 h
  cases h
  have reasoned (result : Stress.Result) (hm : result ∈ o.results) :
      Stress.Reasoned result.failure := by
    obtain ⟨stop, time, ended⟩ := Pool.finished_of_mem_results _ _ _ _ ran hm
    cases stop <;> exact Stress.failure_of_completion drawable env now ended
  cases pool : poolError? w.index stage o with
  | some error =>
    rw [pool] at failed
    cases failed
    exact isAbout_poolError? pool
  | none =>
    rw [pool] at failed
    exact isAbout_firstFailure? reasoned failed

end LoadFleet
