import LoadFleet.Proofs.Budget
import Mathlib.Data.List.OfFn
/-!
# Runs of a crew

A crew lets its stressors take turns in the order of its queue, and answers calls that take no time
at once. Every run of a crew of a stress test is one of the runs of `Moment.Runs`, so that what
holds of these holds of the worker.

* `Crew.settle_runs`, `Crew.turn_runs`: what a crew does for one stressor, by the fate of its call.
* `Crew.run_runs`: by induction over the turns, a run of the crew.
* `squad_within_budget`: the stressors of a worker return no more requests than the budget.
-/

namespace LoadFleet.Stress

open Moment

/-! ### Stands and phases -/

/-- The phase of a stressor, by its stand. A crew makes the call of a claim at once. -/
def Phase.ofStand : Stand Simulated.Cursor State Result → Phase
  | .ready s => .ready s
  | .waiting ask => .calling ask
  | .ended _ (.finished result) => .returned result
  | .ended _ (.panicked _) | .stuck => .lost

/-- Stands of stressors show their phases. -/
structure Shown {n : Nat} (stands : Array (Stand Simulated.Cursor State Result))
    (phases : Fin n → Phase) : Prop where
  size : stands.size = n
  phase : ∀ i : Fin n, stands[i.1]?.map Phase.ofStand = some (phases i)

theorem Shown.set {n : Nat} {stands : Array (Stand Simulated.Cursor State Result)}
    {phases : Fin n → Phase} (h : Shown stands phases) (i : Fin n)
    (stand : Stand Simulated.Cursor State Result) :
    Shown (stands.setIfInBounds i stand) (Function.update phases i (.ofStand stand)) where
  size := by rw [Array.size_setIfInBounds, h.size]
  phase j := by
    rw [Array.getElem?_setIfInBounds]
    by_cases here : j = i
    · subst here
      simp [h.size]
    · rw [if_neg fun same => here (Fin.ext same.symm), h.phase, Function.update_of_ne here]

/-- A crew shows a moment of a stress test. -/
structure Shows {n : Nat} (c : Crew Completion State Result) (m : Moment n) : Prop where
  shared : m.completion = c.shared
  stands : Shown c.stands m.phases

/-! ### Calls -/

/-- A stressor of a stress test calls the store for operations only. -/
def Phase.Invokes : Phase → Prop
  | .claimed ask | .calling ask =>
    ∃ container operation goOn, ask = .invoke container operation goOn
  | _ => True

theorem Trial.step_call {t : Trial} {i : Nat} {s : State} {now : Instant} {stopping : Bool}
    {c c' : Completion} {ask : Ask Simulated.Cursor State}
    (turn : t.step i s now stopping c = (.call ask, c')) :
    ∃ container operation goOn, ask = .invoke container operation goOn := by
  rw [step] at turn
  split at turn
  · rw [State.turn] at turn
    split at turn
    · cases turn
    · dsimp only at turn
      split at turn
      · cases turn
        exact ⟨_, _, _, rfl⟩
      · cases turn
  · cases turn

theorem Moment.Passes.invokes {t : Trial} {n : Nat} {i : Fin n} {c c' : Completion}
    {p p' : Phase} {h : Happening n} (passes : Passes t i c p h c' p') (before : p.Invokes) :
    p'.Invokes := by
  cases passes with
  | claim turn => exact Trial.step_call turn
  | call => exact before
  | finish | answer | lose => trivial

section Runs

variable {t : Trial} {n : Nat} {first m : Moment n} {trace : List (Happening n)}

theorem Moment.Runs.invokes (run : Runs t first trace m) (start : ∀ i, (first.phases i).Invokes)
    (i : Fin n) : (m.phases i).Invokes := by
  induction run with
  | start => exact start i
  | next _ step ih =>
    obtain @⟨j, _, _, _, passes⟩ := step
    by_cases here : i = j
    · subst here
      simpa using passes.invokes ih
    · simpa [Function.update_of_ne here] using ih

/-- A run goes on with what one stressor does. -/
theorem Moment.Runs.pass (run : Runs t first trace m) {i : Fin n} {p p' : Phase}
    {h : Happening n} {c : Completion} (phase : m.phases i = p)
    (passes : Passes t i m.completion p h c p') :
    Runs t first (trace ++ [h]) ⟨c, Function.update m.phases i p'⟩ :=
  run.next (.pass (phase ▸ passes))

/-! ### Turns of a crew -/

variable {c : Crew Completion State Result} {p : Queued} {i : Fin n}

/-- Whatever the fate of a call is, it is one of the things that may happen next. -/
theorem settle_runs (run : Runs t first trace m) (shared : m.completion = c.shared)
    {phases : Fin n → Phase} (stands : Shown c.stands phases) (unit : p.unit = i)
    {container : Option String} {operation : Operation}
    {goOn : Except StoreError Response → Instant → State}
    (calling : m.phases = Function.update phases i (.calling (.invoke container operation goOn))) :
    ∃ trace' m', Runs t first trace' m' ∧
      Shows (c.settle p (.invoke container operation goOn)) m' := by
  have phase : m.phases i = .calling (.invoke container operation goOn) := by
    rw [calling, Function.update_self]
  have idem (q : Phase) : Function.update m.phases i q = Function.update phases i q := by
    rw [calling, Function.update_idem]
  have set := stands.set i
  rw [← unit] at set
  rw [Crew.settle]
  dsimp only
  split
  · let response := (Store.invoke c.store container operation).1
    refine ⟨_, _, run.pass phase (.answer response p.time), shared, ?_⟩
    rw [idem]
    exact set (.ready _)
  · next e _ =>
    refine ⟨_, _, run.pass phase (.answer (.error e) p.time), shared, ?_⟩
    rw [idem]
    exact set (.ready _)
  · next message _ =>
    refine ⟨_, _, run.pass phase (.lose rfl), shared, ?_⟩
    rw [idem]
    exact set (.ended p.time (.panicked message))
  · refine ⟨_, _, run.pass phase (.lose rfl), shared, ?_⟩
    rw [idem]
    exact set .stuck

/-- A turn of a crew. A call that takes no time is a claim, a call and the fate of the call. -/
theorem turn_runs (run : Runs t first trace m) (start : ∀ i, (first.phases i).Invokes)
    (shows : Shows c m) (stop : Option Instant) (p : Queued) :
    ∃ trace' m', Runs t first trace' m' ∧ Shows (c.turn t.step stop p) m' := by
  have same : ∃ trace' m', Runs t first trace' m' ∧ Shows c m' := ⟨trace, m, run, shows⟩
  obtain ⟨shared, stands⟩ := shows
  rw [Crew.turn]
  cases stand : c.stands[p.unit]? with
  | none => exact same
  | some stand' =>
    obtain ⟨inside, -⟩ := Array.getElem?_eq_some_iff.1 stand
    let i : Fin n := ⟨p.unit, stands.size ▸ inside⟩
    have phase : m.phases i = .ofStand stand' := by
      have := stands.phase i
      rw [show i.1 = p.unit from rfl, stand] at this
      exact (Option.some.inj this).symm
    cases stand' with
    | ended | stuck => exact same
    | waiting ask =>
      have invokes := run.invokes start i
      rw [phase] at invokes
      obtain ⟨_, _, _, rfl⟩ := invokes
      have calling := (Function.update_eq_self i m.phases).symm
      rw [phase] at calling
      exact settle_runs run shared stands rfl calling
    | ready s =>
      dsimp only
      rcases turn : t.step p.unit s p.time (stop.any fun t => t ≤ p.time) c.shared with
        ⟨result | ask, completion⟩
      · exact ⟨_, _, run.pass phase (.finish (shared ▸ turn)), rfl,
          stands.set i (.ended p.time (.finished result))⟩
      · obtain ⟨container, operation, goOn, rfl⟩ := Trial.step_call turn
        have claimed := run.pass phase (.claim (shared ▸ turn))
        have called := claimed.pass (Function.update_self ..) .call
        dsimp only
        rw [Crew.call]
        split
        · exact settle_runs (c := { c with shared := completion }) called rfl stands rfl
            (Function.update_idem ..)
        · refine ⟨_, _, called, rfl, ?_⟩
          rw [Function.update_idem]
          exact stands.set i (.waiting _)

/-- The turns of a crew, one after the other. -/
theorem run_runs (run : Runs t first trace m) (start : ∀ i, (first.phases i).Invokes)
    (shows : Shows c m) (stop limit : Option Instant) (turns : Nat) :
    ∃ trace' m', Runs t first trace' m' ∧ Shows (c.run t.step stop limit turns) m' := by
  induction turns generalizing c trace m with
  | zero => exact ⟨_, _, run, shows⟩
  | succ turns ih =>
    rw [Crew.run]
    split
    · exact ⟨_, _, run, shows⟩
    · next p queue _ =>
      split
      · exact ⟨_, _, run, shows⟩
      · obtain ⟨_, _, run, shows⟩ := turn_runs (c := { c with queue }) run start
          ⟨shows.shared, shows.stands⟩ stop p
        exact ih run shows

end Runs

/-! ### The stressors of a worker -/

variable (settings : StressSettings) (env : Surroundings) (now : Instant)
  (stop limit : Option Instant)

theorem crew_shows :
    Shows (Stress.crew settings env now)
      (opening (.ofWorker settings env) fun _ => now) where
  shared := rfl
  stands :=
    { size := by simp [Stress.crew, Crew.start, Trial.ofWorker]
      phase := fun i => by
        have : i.1 < settings.test.threads.toNat := i.2
        simp [Stress.crew, Crew.start, this, opening, Phase.ofStand, Trial.start, Trial.ofWorker] }

/-- Every run of the stressors of a worker is a run of its stress test. -/
theorem crew_runs (turns : Nat) :
    ∃ trace m,
      Runs (.ofWorker settings env)
        (opening (.ofWorker settings env) fun _ => now) trace m ∧
      Shows ((Stress.crew settings env now).run
        (Stress.step settings (.zeros settings.entrySize.toNat) env) stop limit turns) m := by
  have start (i : Fin (Trial.ofWorker settings env).size) :
      ((opening (.ofWorker settings env) fun _ => now).phases i).Invokes := trivial
  rw [← Trial.step_ofWorker]
  exact run_runs .start start (crew_shows settings env now) stop limit turns

/-- The number of requests that stressors returned which ended by themselves. -/
def returned (completions : List (Completed Result)) : Nat :=
  (completions.map fun
    | some (_, .finished result) => result.stats.total
    | _ => 0).sum

theorem Shows.returned_eq {n : Nat} {c : Crew Completion State Result} {m : Moment n}
    (h : Shows c m) : returned c.completions = m.recorded := by
  obtain rfl := h.stands.size
  have each (i : Fin c.stands.size) : (m.phases i).share = (Phase.ofStand c.stands[i]).share := by
    have phase := h.stands.phase i
    rw [Array.getElem?_eq_getElem i.2, Option.map_some] at phase
    exact congrArg Phase.share (Option.some.inj phase).symm
  have shares : returned c.completions =
      (c.stands.toList.map fun s => (Phase.ofStand s).share).sum := by
    rw [returned, Crew.completions, List.map_map]
    congr 1
    refine List.map_congr_left fun stand _ => ?_
    rcases stand with _ | _ | ⟨_, _ | _⟩ | _ <;> rfl
  rw [shares, ← List.ofFn_getElem_eq_map, List.sum_ofFn, recorded]
  exact Finset.sum_congr rfl fun i _ => (each i).symm

/-- The stressors of a worker return no more requests than the budget. -/
theorem squad_within_budget (requests : settings.duration = none) :
    returned ((Stress.crew settings env now).squad
      (Stress.step settings (.zeros settings.entrySize.toNat) env) stop limit).completions ≤
        settings.numRequests.toNat := by
  obtain ⟨_, m, run, shows⟩ := crew_runs settings env now stop limit Crew.manyTurns
  have within := (run.recorded_le requests).1
  obtain ⟨left, -, sum⟩ := run.budget requests
  have : settings.numRequests = (Trial.ofWorker settings env).settings.numRequests := rfl
  rw [Crew.squad]
  dsimp only
  rw [shows.returned_eq, this]
  omega

end LoadFleet.Stress
