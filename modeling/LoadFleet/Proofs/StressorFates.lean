import LoadFleet.Proofs.PoolRun
import LoadFleet.Worker.Worker
import Mathlib.Data.List.Basic
/-!
# What an acknowledgement tells of its stressors

The acknowledgement of a stage for stressors is put together in two passes over what a pool knows:
one looks for something that is wrong, and one keeps the results of the stressors that finished.
Each stressor is seen by one of them.  Those that finished have their results in the payload, in
their order, and a stressor that did not finish was aborted, which happens only after the deadline,
or crashed, and both are errors.

This is so for stressors that do anything at all: their ends may come at any time and depend in any
way on when they are asked to stop, as long as there is one stressor for each thread.

* `Pool.Fares`: what becomes of a stressor, by what it does itself.
* `Pool.fares_of_run`: by the two walks over the stressors, what a pool knows of each of them.
* `Worker.Accounts`: what results and an error tell of the stressors of a pool.
* `Worker.accounts_of_run`: the results and the error of a pool do.
* `Worker.acknowledge_accounts`: the main statement.
-/

namespace LoadFleet

variable {A W : Type}

/-- The result of a stressor that finished. -/
def UnitOutcome.result? : UnitOutcome A → Option A
  | finished a => some a
  | _ => none

namespace Pool

variable {clock : Clock} {limits : PoolLimits} {started : Instant}
  {squad : Option Instant → Squad A W} {threads : Nat}

/-- The deadline is exceeded: a stressor is still running then. -/
def Late (clock : Clock) (limits : PoolLimits) (started : Instant)
    (squad : Option Instant → Squad A W) : Prop :=
  ∃ d, deadline clock limits started = some d ∧ ∃ c ∈ (squad none).completions, c.isRunning d

/-- What becomes of a stressor. -/
inductive Fares (clock : Clock) (limits : PoolLimits) (started : Instant)
    (squad : Option Instant → Squad A W) (i : Nat) : UnitOutcome A → Prop where
  /-- It ended by the deadline. -/
  | inTime {time : Instant} {ending : Ending A}
    (own : (squad none).completions[i]? = some (some (time, ending)))
    (soon : ∀ d, deadline clock limits started = some d → time ≤ d) :
    Fares clock limits started squad i ending.outcome
  /-- All were asked to stop, and it ended by the end of the grace period. -/
  | stopped {d time : Instant} {ending : Ending A}
    (limited : deadline clock limits started = some d) (late : Late clock limits started squad)
    (own : (squad (some d)).completions[i]? = some (some (time, ending)))
    (soon : ∀ g, clock.alarm? d limits.grace = some g → time ≤ g) :
    Fares clock limits started squad i ending.outcome
  /-- All were asked to stop, and it was still running at the end of the grace period. -/
  | aborted {d g : Instant} {c : Completed A}
    (limited : deadline clock limits started = some d) (late : Late clock limits started squad)
    (waited : clock.alarm? d limits.grace = some g)
    (own : (squad (some d)).completions[i]? = some c) (running : c.isRunning g) :
    Fares clock limits started squad i .aborted

/-- Nothing is aborted before the deadline is exceeded. -/
theorem Fares.late {i : Nat} (h : Fares clock limits started squad i .aborted) :
    Late clock limits started squad := by
  generalize known : UnitOutcome.aborted = u at h
  cases h with
  | inTime =>
    rename_i ending _ _
    cases ending <;> cases known
  | stopped _ late | aborted _ late => exact late

/-- The second walk keeps what is known, and finds out what becomes of the others. -/
theorem joinRest_eq {limit : Option Instant} {now last : Instant}
    {l : List (Option (UnitOutcome A) × Completed A)} {units : List (UnitOutcome A)}
    (h : joinRest limit now l = some (units, last)) :
    units = l.map (fun e => e.1.getD (e.2.outcome limit)) ∧
      ∀ e ∈ l, e.1 = none → limit = none → e.2 ≠ none := by
  induction l generalizing now units last with
  | nil =>
    cases h
    exact ⟨rfl, List.forall_mem_nil _⟩
  | cons e r ih =>
    obtain ⟨_ | u, c⟩ := e
    · rcases join_cases limit now c with ⟨time, ending, rfl, inTime, joined⟩ |
        ⟨g, rfl, late, joined⟩ | ⟨rfl, rfl, joined⟩
      · simp only [joinRest, joined] at h
        obtain ⟨⟨rest, last'⟩, walked, same⟩ := Option.bind_eq_some_iff.1 h
        cases same
        obtain ⟨rfl, ended⟩ := ih walked
        refine ⟨?_, List.forall_mem_cons.2 ⟨fun _ _ => Option.some_ne_none _, ended⟩⟩
        rw [List.map_cons, Option.getD_none, Completed.outcome_of_ended inTime]
      · simp only [joinRest, joined] at h
        obtain ⟨⟨rest, last'⟩, walked, same⟩ := Option.bind_eq_some_iff.1 h
        cases same
        obtain ⟨rfl, ended⟩ := ih walked
        refine ⟨?_, List.forall_mem_cons.2 ⟨fun _ never => absurd never (Option.some_ne_none g),
          ended⟩⟩
        rw [List.map_cons, Option.getD_none,
          Completed.outcome_eq_aborted_iff.2 (.inr ⟨g, rfl, late⟩)]
      · simp [joinRest, joined] at h
    · simp only [joinRest] at h
      obtain ⟨⟨rest, last'⟩, walked, same⟩ := Option.bind_eq_some_iff.1 h
      cases same
      obtain ⟨rfl, ended⟩ := ih walked
      exact ⟨rfl, List.forall_mem_cons.2
        ⟨fun unknown => absurd unknown (Option.some_ne_none u), ended⟩⟩

/-- **What a pool knows of a stressor** is what the stressor itself does, whatever the others do. -/
theorem fares_of_run (size : ∀ stop, (squad stop).completions.length = threads)
    {o : PoolOutcome A W} (h : run clock limits started squad = some o) :
    o.units.length = threads ∧ (o.timedOut = true ↔ Late clock limits started squad) ∧
      ∀ i u, o.units[i]? = some u → Fares clock limits started squad i u := by
  rcases joinInTime_cases (deadline clock limits started) started (squad none).completions with
    ⟨never, -⟩ | ⟨last, ends, -, all, -⟩ | ⟨d, known, limited, stops, late, length, in_time⟩
  · simp [run, never] at h
  · -- all stressors ended by themselves
    have units : o.units = (squad none).completions.map (Completed.outcome none) ∧
        o.timedOut = false := by
      simp only [run, ends] at h
      cases h
      simp
    refine ⟨by rw [units.1, List.length_map, size], iff_of_false (by simp [units.2]) ?_, ?_⟩
    · rintro ⟨d, limited, c, hc, late⟩
      obtain ⟨time, ending, rfl, -, inTime⟩ := all c hc
      rw [Completed.isRunning_eq_false_iff.2 ⟨time, ending, rfl, inTime d limited⟩] at late
      cases late
    · intro i u hu
      rw [units.1, List.getElem?_map] at hu
      obtain ⟨c, own, rfl⟩ := Option.map_eq_some_iff.1 hu
      obtain ⟨time, ending, rfl, -, inTime⟩ := all c (List.mem_of_getElem? own)
      exact .inTime own inTime
  · -- a stressor is late, and all are asked to stop
    have late : Late clock limits started squad := ⟨d, limited, late⟩
    have fits : known.length = (squad (some d)).completions.length :=
      length.trans ((size none).trans (size (some d)).symm)
    simp only [run, stops, Option.bind_eq_bind, Option.bind_some, if_true] at h
    obtain ⟨⟨units, ended⟩, walked, same⟩ := Option.bind_eq_some_iff.1 h
    cases same
    obtain ⟨rfl, hangs⟩ := joinRest_eq walked
    refine ⟨?_, iff_of_true rfl late, ?_⟩
    · rw [List.length_map, List.length_zip, fits, Nat.min_self, size]
    · intro i u hu
      rw [List.getElem?_map] at hu
      obtain ⟨⟨first, c⟩, here, rfl⟩ := Option.map_eq_some_iff.1 hu
      obtain ⟨first_eq, own⟩ := List.getElem?_zip_eq_some.1 here
      cases first with
      | some u =>
        obtain ⟨time, ending, alone, early, rfl⟩ := in_time i u first_eq
        refine .inTime alone fun d' limited' => ?_
        rwa [Option.some.inj (limited'.symm.trans limited)]
      | none =>
        rw [Option.getD_none]
        cases hlimit : clock.alarm? d limits.grace with
        | none =>
          cases c with
          | none => exact absurd rfl (hangs _ (List.mem_of_getElem? here) rfl hlimit)
          | some e => exact .stopped limited late own (by simp [hlimit])
        | some g =>
          by_cases running : c.isRunning g
          · rw [Completed.outcome_eq_aborted_iff.2 (.inr ⟨g, rfl, running⟩)]
            exact .aborted limited late hlimit own running
          · obtain ⟨time, ending, rfl, soon⟩ :=
              Completed.isRunning_eq_false_iff.1 (Bool.not_eq_true _ ▸ running)
            have inTime : ∀ g', some g = some g' → time ≤ g' := fun g' same =>
              Option.some.inj same ▸ soon
            rw [Completed.outcome_of_ended inTime]
            exact .stopped limited late own (hlimit ▸ inTime)

end Pool

/-! ### Results -/

section

variable {fate : Nat → UnitOutcome A} {threads i : Nat} {a : A}

/-- The results of the first stressors that finished, in their order. -/
def resultsOf (fate : Nat → UnitOutcome A) (threads : Nat) : List A :=
  (List.range threads).filterMap fun i => (fate i).result?

theorem resultsOf_succ :
    resultsOf fate (i + 1) = resultsOf fate i ++ (fate i).result?.toList := by
  rw [resultsOf, List.range_succ, List.filterMap_append]
  cases h : (fate i).result? <;> simp [resultsOf, h]

/-- The results of the first stressors stand in front of those of the others. -/
theorem resultsOf_prefix (le : i ≤ threads) : resultsOf fate i <+: resultsOf fate threads := by
  induction le with
  | refl => exact List.prefix_rfl
  | step _ ih => exact ih.trans (resultsOf_succ ▸ List.prefix_append _ _)

/-- The result of a stressor that finished stands behind those of the stressors before it. -/
theorem getElem?_resultsOf (inside : i < threads) (finished : fate i = .finished a) :
    (resultsOf fate threads)[(resultsOf fate i).length]? = some a := by
  obtain ⟨rest, whole⟩ : resultsOf fate (i + 1) <+: resultsOf fate threads :=
    resultsOf_prefix inside
  rw [resultsOf_succ, finished] at whole
  rw [← whole, List.append_assoc, List.getElem?_append_right (Nat.le_refl _), Nat.sub_self]
  rfl

theorem mem_resultsOf : a ∈ resultsOf fate threads ↔ ∃ i < threads, fate i = .finished a := by
  have finished (i : Nat) : (fate i).result? = some a ↔ fate i = .finished a := by
    cases fate i <;> simp [UnitOutcome.result?]
  simp only [resultsOf, List.mem_filterMap, List.mem_range, finished]

/-- There is a result for each stressor if all finished. -/
theorem length_resultsOf (all : ∀ i < threads, ∃ a, fate i = .finished a) :
    (resultsOf fate threads).length = threads := by
  induction threads with
  | zero => rfl
  | succ n ih =>
    obtain ⟨a, finished⟩ := all n (Nat.lt_succ_self n)
    rw [resultsOf_succ, List.length_append, ih fun i inside => all i (Nat.lt_succ_of_lt inside),
      finished]
    rfl

/-- The results of a pool are those of its stressors. -/
theorem PoolOutcome.results_eq {o : PoolOutcome A W} (count : o.units.length = threads)
    (known : ∀ i < threads, o.units[i]? = some (fate i)) : o.results = resultsOf fate threads := by
  have units : o.units = (List.range threads).map fate := by
    refine List.ext_getElem? fun i => ?_
    rw [List.getElem?_map]
    by_cases inside : i < threads
    · rw [known i inside, List.getElem?_range inside, Option.map_some]
    · rw [List.getElem?_eq_none (by omega), List.getElem?_eq_none (by simpa using inside)]
      rfl
  have kept : o.results = o.units.filterMap UnitOutcome.result? := by
    refine congrArg (List.filterMap · o.units) (funext fun u => ?_)
    cases u <;> rfl
  rw [kept, units, List.filterMap_map]
  rfl

end

/-! ### Errors -/

/-- The error of a stressor that crashed. -/
def panicError (worker : WorkerIndex) (i : Nat) (message : String) : AckError :=
  { kind := .stage
    message := s!"worker {worker}: stressor {i} panicked: {panicText i message}" }

/-- The search for a stressor that crashed finds the first one, or there is none. -/
theorem firstPanic?_cases (worker : WorkerIndex) (first : Nat) (units : List (UnitOutcome A)) :
    (firstPanic? worker first units = none ∧
      ∀ (i : Nat) (message : String), units[i]? ≠ some (.panicked message)) ∨
    ∃ (i : Nat) (message : String), units[i]? = some (.panicked message) ∧
      (∀ j < i, ∀ m : String, units[j]? ≠ some (.panicked m)) ∧
      firstPanic? worker first units = some (panicError worker (first + i) message) := by
  induction units generalizing first with
  | nil => exact .inl ⟨rfl, nofun⟩
  | cons u r ih =>
    by_cases crashed : ∃ message, u = .panicked message
    · obtain ⟨message, rfl⟩ := crashed
      exact .inr ⟨0, message, rfl, nofun, rfl⟩
    · have here (m : String) : (u :: r)[0]? ≠ some (.panicked m) := fun same =>
        crashed ⟨m, Option.some.inj same⟩
      have skipped : firstPanic? worker first (u :: r) = firstPanic? worker (first + 1) r := by
        cases u with
        | panicked message => exact absurd ⟨message, rfl⟩ crashed
        | finished | aborted => rfl
      rcases ih (first + 1) with ⟨none, clear⟩ | ⟨i, message, found, before, some⟩
      · refine .inl ⟨skipped.trans none, fun i m => ?_⟩
        cases i with
        | zero => exact here m
        | succ i => exact clear i m
      · refine .inr ⟨i + 1, message, found, fun j less m => ?_, ?_⟩
        · cases j with
          | zero => exact here m
          | succ j => exact before j (Nat.lt_of_succ_lt_succ less) m
        · rw [skipped, some, Nat.add_right_comm, Nat.add_assoc]

namespace Worker

/-- What the results and the error of a stage tell of its stressors, some of which may have given
up. -/
structure Accounts (w : Worker) (clock : Clock) (stage : Stage) (now : Instant)
    (squad : Option Instant → Squad A W) (threads : Nat) (gaveUp : A → Option String)
    (fate : Nat → UnitOutcome A) (results : List A) (error : Option AckError) : Prop where
  /-- Each stressor has its fate. -/
  fares : ∀ i < threads, Pool.Fares clock (w.limits stage) now squad i (fate i)
  /-- The results are those of the stressors that finished, in their order. -/
  inOrder : results = resultsOf fate threads
  /-- The result of a stressor that finished has its place, whether or not there is an error. -/
  kept : ∀ i < threads, ∀ a, fate i = .finished a → results[(resultsOf fate i).length]? = some a
  /-- An error of this kind tells that the deadline was exceeded. -/
  timeout : (∃ e, error = some e ∧ e.kind = .timeout) ↔ Pool.Late clock (w.limits stage) now squad
  /-- Nothing is aborted before. -/
  aborted : ∀ i < threads, fate i = .aborted → Pool.Late clock (w.limits stage) now squad
  /-- If it was not, the error is about the first stressor that crashed. -/
  panicked : ¬ Pool.Late clock (w.limits stage) now squad → ∀ i < threads, ∀ message,
    fate i = .panicked message → (∀ j < i, ∀ m, fate j ≠ .panicked m) →
      error = some (panicError w.index i message)
  /-- There is no error only if all stressors finished in time and none gave up. -/
  success : error = none ↔ ¬ Pool.Late clock (w.limits stage) now squad ∧
    ∀ i < threads, ∃ a, fate i = .finished a ∧ gaveUp a = none
  /-- Then there is a result of each. -/
  complete : error = none → results.length = threads

variable {w : Worker} {clock : Clock} {stage : Stage} {now : Instant}
  {squad : Option Instant → Squad A W} {threads : Nat}

/-- **A pool accounts for its stressors** with its results, and with an error if something is wrong
with the pool or a stressor gave up. -/
theorem accounts_of_run (size : ∀ stop, (squad stop).completions.length = threads)
    {o : PoolOutcome A W} (ran : Pool.run clock (w.limits stage) now squad = some o)
    (gaveUp : A → Option String) :
    ∃ fate, w.Accounts clock stage now squad threads gaveUp fate o.results
      ((poolError? w.index stage o).orElse fun _ => (o.results.findSome? gaveUp).map fun failure =>
        { kind := .stage, message := s!"worker {w.index}: {failure}" }) := by
  obtain ⟨count, late_iff, fares⟩ := Pool.fares_of_run size ran
  obtain ⟨fate, known⟩ : ∃ fate : Nat → UnitOutcome A, ∀ i < threads, o.units[i]? = some (fate i) :=
    ⟨fun i => o.units[i]?.getD .aborted, fun i inside => by
      dsimp only
      rw [List.getElem?_eq_getElem (count ▸ inside), Option.getD_some]⟩
  have inOrder := o.results_eq count known
  have aborted (i : Nat) (inside : i < threads) (lost : fate i = .aborted) :
      Pool.Late clock (w.limits stage) now squad := (lost ▸ fares i _ (known i inside)).late
  have kept (i : Nat) (inside : i < threads) (a : A) (finished : fate i = .finished a) :
      o.results[(resultsOf fate i).length]? = some a := inOrder ▸ getElem?_resultsOf inside finished
  generalize herror : ((poolError? w.index stage o).orElse _) = error
  suffices rest : _ ∧ _ ∧ _ from ⟨fate,
    { fares := fun i inside => fares i _ (known i inside)
      inOrder, kept, aborted
      timeout := rest.1
      panicked := rest.2.1
      success := rest.2.2
      complete := fun none => by
        rw [inOrder]
        refine length_resultsOf fun i inside => ?_
        obtain ⟨a, finished, -⟩ := (rest.2.2.1 none).2 i inside
        exact ⟨a, finished⟩ }⟩
  by_cases late : Pool.Late clock (w.limits stage) now squad
  · rw [poolError?, if_pos (late_iff.2 late)] at herror
    subst herror
    exact ⟨iff_of_true ⟨_, rfl, rfl⟩ late, fun inTime => absurd late inTime,
      iff_of_false nofun fun all => all.1 late⟩
  rw [poolError?, if_neg fun timedOut => late (late_iff.1 timedOut)] at herror
  rcases firstPanic?_cases w.index 0 o.units with
    ⟨quiet, clear⟩ | ⟨i, message, found, before, named⟩
  · have calm (i : Nat) (inside : i < threads) (m : String) : fate i ≠ .panicked m := fun crashed =>
      clear i m (crashed ▸ known i inside)
    have finished (i : Nat) (inside : i < threads) : ∃ a, fate i = .finished a := by
      cases u : fate i with
      | finished a => exact ⟨a, rfl⟩
      | aborted => exact absurd (aborted i inside u) late
      | panicked message => exact absurd u (calm i inside message)
    rw [quiet] at herror
    subst herror
    refine ⟨iff_of_false ?_ late, fun _ i inside m crashed => absurd crashed (calm i inside m), ?_⟩
    · rintro ⟨e, failed, kind⟩
      obtain ⟨_, -, rfl⟩ := Option.map_eq_some_iff.1 failed
      cases kind
    · change Option.map _ _ = none ↔ _
      rw [Option.map_eq_none_iff, List.findSome?_eq_none_iff, inOrder, and_iff_right late]
      constructor
      · intro all i inside
        obtain ⟨a, done⟩ := finished i inside
        exact ⟨a, done, all a (mem_resultsOf.2 ⟨i, inside, done⟩)⟩
      · intro all a ha
        obtain ⟨i, inside, done⟩ := mem_resultsOf.1 ha
        obtain ⟨b, done', gaveUp⟩ := all i inside
        cases done.symm.trans done'
        exact gaveUp
  · have inside : i < threads := count ▸ (List.getElem?_eq_some_iff.1 found).1
    have crashed : fate i = .panicked message :=
      Option.some.inj ((known i inside).symm.trans found)
    rw [named, Nat.zero_add] at herror
    subst herror
    refine ⟨iff_of_false ?_ late, fun _ j inside' m crashed' first => ?_, iff_of_false nofun ?_⟩
    · rintro ⟨e, same, kind⟩
      cases same
      cases kind
    · -- both are the first
      obtain rfl : i = j := by
        rcases Nat.lt_trichotomy i j with less | same | more
        · exact absurd crashed (first i less message)
        · exact same
        · exact absurd ((known j inside').trans (congrArg _ crashed')) (before j more m)
      cases crashed.symm.trans crashed'
      rfl
    · rintro ⟨-, all⟩
      obtain ⟨a, finished, -⟩ := all i inside
      cases crashed.symm.trans finished

end Worker

/-! ### Crews -/

namespace Crew

variable {K S R : Type}

theorem size_settle (c : Crew K S R) (p : Queued) (ask : Ask Simulated.Cursor S) :
    (c.settle p ask).stands.size = c.stands.size := by
  rw [settle]
  dsimp only
  split <;> exact Array.size_setIfInBounds

theorem size_turn (step : Step K S R) (stop : Option Instant) (c : Crew K S R) (p : Queued) :
    (turn step stop c p).stands.size = c.stands.size := by
  rw [turn]
  split
  · split
    · exact Array.size_setIfInBounds
    · rw [call]
      dsimp only
      split
      · exact size_settle ..
      · exact Array.size_setIfInBounds
  · exact size_settle ..
  · rfl

/-- Stressors neither join a crew nor leave it while it runs. -/
theorem size_run (step : Step K S R) (stop limit : Option Instant) (turns : Nat)
    (c : Crew K S R) : (run step stop limit turns c).stands.size = c.stands.size := by
  induction turns generalizing c with
  | zero => rfl
  | succ turns ih =>
    rw [run]
    split
    · rfl
    · split
      · rfl
      · rw [ih, size_turn]

theorem length_pooled (c : Crew K S R) (step : Step K S R) (limits : PoolLimits)
    (started : Instant) (stop : Option Instant) :
    (c.pooled step limits started stop).completions.length = c.stands.size := by
  cases stop <;> simp [pooled, squad, completions, size_run]

end Crew

/-! ### Acknowledgements -/

namespace Worker

variable {w : Worker} {clock : Clock} {stage : Stage} {now answered : Instant}
  {r : StageResult} {store : Simulated}

/-- The acknowledgement of an iteration accounts for its stressors.  None of them gives up: if
passes failed, that is part of the result. -/
def IterateAccounts (w : Worker) (clock : Clock) (stage : Stage) (settings : IterateSettings)
    (now : Instant) (squad : Option Instant → Squad IterationResult Simulated)
    (ack : Acknowledgement) : Prop :=
  ∃ fate results size, ack.payload = .iteration results size ∧
    w.Accounts clock stage now squad settings.test.threads.toNat (fun _ => none) fate results
      ack.error

/-- The acknowledgement of a stress test accounts for its stressors. -/
def StressAccounts (w : Worker) (clock : Clock) (stage : Stage) (settings : StressSettings)
    (now : Instant) (squad : Option Instant → Squad Stress.Result Simulated)
    (ack : Acknowledgement) : Prop :=
  ∃ fate results, ack.payload = .statistics (results.map (·.stats)) ∧
    w.Accounts clock stage now squad settings.test.threads.toNat (·.failure) fate results ack.error

theorem iterateWith_accounts {settings : IterateSettings}
    {squad : Option Instant → Squad IterationResult Simulated}
    (size : ∀ stop, (squad stop).completions.length = settings.test.threads.toNat)
    (done : w.iterateWith clock stage settings now squad = some (answered, r, store)) :
    w.IterateAccounts clock stage settings now squad (w.acknowledge now answered r) := by
  obtain ⟨o, ran, done⟩ := Option.bind_eq_some_iff.1 done
  obtain ⟨_, -, done⟩ := Option.bind_eq_some_iff.1 done
  cases done
  obtain ⟨fate, accounts⟩ := accounts_of_run size ran fun _ => none
  have silent : (o.results.findSome? fun _ => (none : Option String)) = none :=
    List.findSome?_eq_none_iff.2 fun _ _ => rfl
  rw [silent, Option.map_none] at accounts
  refine ⟨fate, o.results, _, rfl, ?_⟩
  have same : ((poolError? w.index stage o).orElse fun _ => none) = poolError? w.index stage o := by
    cases poolError? w.index stage o <;> rfl
  rwa [same] at accounts

theorem stressWith_accounts {settings : StressSettings}
    {squad : Option Instant → Squad Stress.Result Simulated}
    (size : ∀ stop, (squad stop).completions.length = settings.test.threads.toNat)
    (done : w.stressWith clock stage now squad = some (answered, r, store)) :
    w.StressAccounts clock stage settings now squad (w.acknowledge now answered r) := by
  obtain ⟨o, ran, done⟩ := Option.bind_eq_some_iff.1 done
  cases done
  obtain ⟨fate, accounts⟩ := accounts_of_run size ran (·.failure)
  exact ⟨fate, o.results, rfl, accounts⟩

theorem size_iterateCrew (settings : IterateSettings) (env : Surroundings) :
    (Iterate.crew settings env now).stands.size = settings.test.threads.toNat := by
  simp [Iterate.crew, Crew.start]

theorem size_stressCrew (settings : StressSettings) (env : Surroundings) :
    (Stress.crew settings env now).stands.size = settings.test.threads.toNat := by
  simp [Stress.crew, Crew.start]

/-- **The acknowledgement of a stage for stressors** accounts for them.  The payload holds the
results of those that finished, in their order, whatever the error is; a stressor that was aborted
or crashed, an exceeded deadline, and in a stress test a stressor that gave up, give an error; its
kind tells whether the deadline was exceeded.  So there is a result of each stressor if there is no
error. -/
theorem acknowledge_accounts (w : Worker) (stage : Stage) (now : Instant)
    (targeted : stage.targets w.index = true) (valid : stage.validate = .ok ()) :
    (∀ settings, stage.kind = .iterate settings →
      (∀ clock squad, (∀ stop, (squad stop).completions.length = settings.test.threads.toNat) →
        ∀ answered r store,
          w.iterateWith clock stage settings now squad = some (answered, r, store) →
            w.IterateAccounts clock stage settings now squad (w.acknowledge now answered r)) ∧
      ∀ env x, env.store.memory.running = true → (w.execute env stage now).execution = some x →
        w.IterateAccounts env.clock stage settings now
          ((Iterate.crew settings env now).pooled (Iterate.step settings env) (w.limits stage) now)
          x.ack) ∧
    ∀ settings, stage.kind = .stress settings →
      (∀ clock squad, (∀ stop, (squad stop).completions.length = settings.test.threads.toNat) →
        ∀ answered r store, w.stressWith clock stage now squad = some (answered, r, store) →
          w.StressAccounts clock stage settings now squad (w.acknowledge now answered r)) ∧
      ∀ env x, env.store.memory.running = true → (w.execute env stage now).execution = some x →
        w.StressAccounts env.clock stage settings now
          ((Stress.crew settings env now).pooled
            (Stress.step settings (Bytes.zeros settings.entrySize.toNat) env) (w.limits stage) now)
          x.ack := by
  have executed (env : Surroundings) (running : env.store.memory.running = true) :
      (w.execute env stage now).execution = w.runStage env stage now := by
    simp [execute, targeted, running, valid]
  refine ⟨fun settings kind => ⟨fun clock squad size answered r store =>
      iterateWith_accounts size, fun env x running h => ?_⟩,
    fun settings kind => ⟨fun clock squad size answered r store =>
      stressWith_accounts size, fun env x running h => ?_⟩⟩
  · rw [executed env running, runStage, kind] at h
    obtain ⟨⟨answered, r, store⟩, done, rfl⟩ := Option.map_eq_some_iff.1 h
    refine iterateWith_accounts (fun stop => ?_) done
    rw [Crew.length_pooled, size_iterateCrew]
  · rw [executed env running, runStage, kind] at h
    obtain ⟨⟨answered, r, store⟩, done, rfl⟩ := Option.map_eq_some_iff.1 h
    refine stressWith_accounts (fun stop => ?_) done
    rw [Crew.length_pooled, size_stressCrew]

/-- Three stressors, one of which stops when it is asked to, one crashes, and one hangs: there is an
error, and it tells that the deadline was exceeded. -/
theorem acknowledge_accounts_three :
    let settings : IterateSettings := { test := { threads := 3 } }
    let stage : Stage :=
      { name := "iterate", timeout := some (.ofNanos 10), kind := .iterate settings }
    let w : Worker := .start 0 (.ofNanos 20)
    let result : IterationResult := ⟨.empty .basic, some 4, some 4, none⟩
    let squad (stop : Option Instant) : Squad IterationResult Simulated :=
      ⟨[stop.map fun t => (t + 5, .finished result), some (3, .panicked "gone"), none],
        .plain "memory" .empty⟩
    stage.targets w.index = true ∧ stage.validate = .ok () ∧
      ∃ answered r store, w.iterateWith .exact stage settings 0 squad = some (answered, r, store) ∧
        w.IterateAccounts .exact stage settings 0 squad (w.acknowledge 0 answered r) ∧
        ∃ e, r.error = some e ∧ e.kind = .timeout := by
  intro settings stage w result squad
  have ends : (w.iterateWith .exact stage settings 0 squad).isSome = true := by decide
  obtain ⟨⟨answered, r, store⟩, done⟩ := Option.isSome_iff_exists.1 ends
  obtain ⟨fate, results, size, payload, accounts⟩ :=
    ((acknowledge_accounts w stage 0 (by decide) (by decide)).1 settings rfl).1 .exact squad
      (fun _ => rfl) answered r store done
  have late : Pool.Late .exact (w.limits stage) 0 squad :=
    ⟨10, by decide, none, by simp [squad], rfl⟩
  exact ⟨by decide, by decide, answered, r, store, done, ⟨fate, results, size, payload, accounts⟩,
    accounts.timeout.2 late⟩

end Worker

end LoadFleet
