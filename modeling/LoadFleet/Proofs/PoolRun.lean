import LoadFleet.Stressor.Pool
/-!
# How a pool ends

A pool waits for one stressor after the other, up to the first that is late, and then for all that
are left, under a new limit.  What it knows of a stressor in the end depends on this stressor alone,
and on whether the stressors were asked to stop.

* `Pool.Causal`: what stressors do before they are asked to stop does not depend on the request.
* `Pool.Apart`: no stressor ends just at the deadline.
* `Pool.request`: when the stressors are asked to stop.  That is at the deadline, if one of them is
  still running then (`Completed.isRunning`).
* `Completed.outcome`: what is known of a stressor that may be aborted.
* `Pool.run_cases`: a pool comes to these outcomes, or it waits forever.
* `Pool.run_outcomes`: what that says about the stressors one by one, and about time.

The first walk over the stressors may find some that ended behind one that is late, and leaves them
to the second.  They are the same there, because the request did not reach them.
-/

namespace LoadFleet

variable {A W : Type}

namespace Completed

/-- Whether a stressor has not ended yet. One that ends just now has. -/
def isRunning (c : Completed A) (now : Instant) : Bool := c.all fun e => now < e.1

/-- What is known of a stressor that is aborted at a limit, if there is one, unless it ended
before. -/
def outcome (limit : Option Instant) : Completed A → UnitOutcome A
  | some (time, ending) => if limit.all (time ≤ ·) then ending.outcome else .aborted
  | none => .aborted

variable {c : Completed A} {limit : Option Instant} {now time : Instant} {ending : Ending A}

theorem isRunning_eq_false_iff :
    c.isRunning now = false ↔ ∃ time ending, c = some (time, ending) ∧ time ≤ now := by
  cases c with
  | none => simp [isRunning]
  | some e => simp [isRunning, Prod.ext_iff]

theorem outcome_of_ended (h : ∀ g, limit = some g → time ≤ g) :
    outcome limit (some (time, ending)) = ending.outcome := by
  cases limit with
  | none => rfl
  | some g => simp [outcome, h g rfl]

theorem outcome_eq_aborted_iff :
    outcome limit c = .aborted ↔ limit = none ∧ c = none ∨ ∃ g, limit = some g ∧ c.isRunning g := by
  cases c with
  | none => cases limit <;> simp [outcome, isRunning]
  | some e =>
    obtain ⟨time, ending⟩ := e
    have own : ending.outcome ≠ .aborted := by cases ending <;> simp [Ending.outcome]
    cases limit with
    | none => simp [outcome, own]
    | some g =>
      by_cases h : time ≤ g
      · simp [outcome, isRunning, own, h]
      · simpa [outcome, isRunning, h] using Nat.lt_of_not_le h

end Completed

namespace Pool

/-! ### Waiting for one stressor -/

/-- How waiting for a stressor goes: it ends in time, it is late, or it never ends. -/
theorem join_cases (limit : Option Instant) (now : Instant) (c : Completed A) :
    (∃ time ending, c = some (time, ending) ∧ (∀ g, limit = some g → time ≤ g) ∧
      join limit now c = .ended ending.outcome (max now time)) ∨
    (∃ g, limit = some g ∧ c.isRunning g ∧ join limit now c = .late g) ∨
    (limit = none ∧ c = none ∧ join limit now c = .never) := by
  cases limit with
  | none =>
    cases c with
    | none => exact .inr (.inr ⟨rfl, rfl, rfl⟩)
    | some e => exact .inl ⟨e.1, e.2, rfl, nofun, rfl⟩
  | some g =>
    cases c with
    | none => exact .inr (.inl ⟨g, rfl, rfl, rfl⟩)
    | some e =>
      by_cases h : e.1 ≤ g
      · exact .inl ⟨e.1, e.2, rfl, by simpa using h, by simp [join, h]⟩
      · refine .inr (.inl ⟨g, rfl, ?_, by simp [join, h]⟩)
        simpa [Completed.isRunning] using h

/-! ### Waiting for all of them -/

/-- The first walk never ends, comes to its end with all outcomes known, or stops at the first
stressor that is late. What is known then is about stressors that ended in time. -/
theorem joinInTime_cases (deadline : Option Instant) (now : Instant) (cs : List (Completed A)) :
    (joinInTime deadline now cs = none ∧ deadline = none ∧ none ∈ cs) ∨
    (∃ last, joinInTime deadline now cs =
        some ⟨cs.map fun c => some (c.outcome none), false, last⟩ ∧ now ≤ last ∧
      (∀ c ∈ cs, ∃ time ending, c = some (time, ending) ∧ time ≤ last ∧
        ∀ d, deadline = some d → time ≤ d) ∧
      ∀ d, deadline = some d → last ≤ max now d) ∨
    (∃ d known, deadline = some d ∧ joinInTime deadline now cs = some ⟨known, true, d⟩ ∧
      (∃ c ∈ cs, c.isRunning d) ∧ known.length = cs.length ∧
      ∀ (i : Nat) (u : UnitOutcome A), known[i]? = some (some u) →
        ∃ time ending, cs[i]? = some (some (time, ending)) ∧ time ≤ d ∧
          u = Ending.outcome ending) := by
  induction cs generalizing now with
  | nil => exact .inr (.inl ⟨now, rfl, Nat.le_refl _, by simp, fun _ _ => Nat.le_max_left _ _⟩)
  | cons c r ih =>
    rcases join_cases deadline now c with ⟨time, ending, rfl, inTime, h⟩ | ⟨d, rfl, late, h⟩ |
      ⟨rfl, rfl, h⟩
    · rcases ih (max now time) with ⟨never, unlimited, hangs⟩ | ⟨last, ends, later, all, soon⟩ |
        ⟨d, known, rfl, stops, ⟨c, hc, late⟩, length, known_in_time⟩
      · exact .inl ⟨by simp [joinInTime, h, never], unlimited, .tail _ hangs⟩
      · refine .inr (.inl ⟨last, ?_, Nat.le_trans (Nat.le_max_left _ _) later, ?_, ?_⟩)
        · simp [joinInTime, h, ends, Completed.outcome]
        · refine List.forall_mem_cons.2 ⟨?_, all⟩
          exact ⟨time, ending, rfl, Nat.le_trans (Nat.le_max_right _ _) later, inTime⟩
        · intro d limited
          have bound : last ≤ max (max now time) d := soon d limited
          rwa [Nat.max_assoc, Nat.max_eq_right (inTime d limited)] at bound
      · refine .inr (.inr ⟨d, some ending.outcome :: known, rfl, by simp [joinInTime, h, stops],
          ⟨c, .tail _ hc, late⟩, by simp [length], ?_⟩)
        intro i u hu
        cases i with
        | zero =>
          simp only [List.getElem?_cons_zero, Option.some.injEq] at hu
          exact ⟨time, ending, rfl, inTime d rfl, hu.symm⟩
        | succ i => exact known_in_time i u hu
    · refine .inr (.inr ⟨d, none :: r.map fun _ => none, rfl, by simp [joinInTime, h],
        ⟨c, .head _, late⟩, by simp, ?_⟩)
      intro i u hu
      have : some u ∈ none :: r.map fun _ => none := List.mem_of_getElem? hu
      simp at this
    · exact .inl ⟨by simp [joinInTime, h], rfl, .head _⟩

/-- The second walk never ends, or it comes to an outcome for each stressor: the one that is known
already or the one that is waited for. -/
theorem joinRest_cases {limit : Option Instant} {l : List (Option (UnitOutcome A) × Completed A)}
    (known : ∀ u c, (some u, c) ∈ l → c ≠ none ∧ u = c.outcome limit) (now : Instant) :
    (joinRest limit now l = none ∧ limit = none ∧ none ∈ l.map (·.2)) ∨
    ∃ last, joinRest limit now l = some (l.map fun e => e.2.outcome limit, last) ∧ now ≤ last ∧
      (limit = none → none ∉ l.map (·.2)) ∧
      (∀ time ending, (none, some (time, ending)) ∈ l → (∀ g, limit = some g → time ≤ g) →
        time ≤ last) ∧
      ∀ g, limit = some g → last ≤ max now g := by
  induction l generalizing now with
  | nil => exact .inr ⟨now, rfl, Nat.le_refl _, by simp, nofun, fun _ _ => Nat.le_max_left _ _⟩
  | cons e r ih =>
    have rest := ih fun u c h => known u c (.tail _ h)
    obtain ⟨_ | u, c⟩ := e
    · rcases join_cases limit now c with ⟨time, ending, rfl, inTime, h⟩ | ⟨g, rfl, late, h⟩ |
        ⟨rfl, rfl, h⟩
      · rcases rest (max now time) with ⟨never, unlimited, hangs⟩ |
          ⟨last, ends, later, all, waited, soon⟩
        · exact .inl ⟨by simp [joinRest, h, never], unlimited, .tail _ hangs⟩
        · refine .inr ⟨last, ?_, Nat.le_trans (Nat.le_max_left _ _) later, ?_, ?_, ?_⟩
          · simp [joinRest, h, ends, Completed.outcome_of_ended inTime]
          · simpa using all
          · intro time' ending' hm before
            rcases List.mem_cons.1 hm with heq | hm
            · cases heq
              exact Nat.le_trans (Nat.le_max_right _ _) later
            · exact waited time' ending' hm before
          · intro g limited
            have bound : last ≤ max (max now time) g := soon g limited
            rwa [Nat.max_assoc, Nat.max_eq_right (inTime g limited)] at bound
      · -- the stressor is aborted, and the walk goes on from the limit
        rcases rest (max now g) with ⟨-, unlimited, -⟩ | ⟨last, ends, later, -, waited, soon⟩
        · cases unlimited
        · refine .inr ⟨last, ?_, Nat.le_trans (Nat.le_max_left _ _) later, nofun, ?_, ?_⟩
          · have aborted : c.outcome (some g) = .aborted :=
              Completed.outcome_eq_aborted_iff.2 (.inr ⟨g, rfl, late⟩)
            simp [joinRest, h, ends, aborted]
          · intro time ending hm before
            rcases List.mem_cons.1 hm with heq | hm
            · cases heq
              simp [Completed.isRunning, Nat.not_lt.2 (before g rfl)] at late
            · exact waited time ending hm before
          · intro g' limited
            cases limited
            have bound : last ≤ max (max now g) g := soon g rfl
            rwa [Nat.max_assoc, Nat.max_self] at bound
      · exact .inl ⟨by simp [joinRest, h], rfl, .head _⟩
    · -- the outcome is known already, and nothing is waited for
      obtain ⟨ended, rfl⟩ := known u c (.head _)
      rcases rest now with ⟨never, unlimited, hangs⟩ | ⟨last, ends, later, all, waited, soon⟩
      · exact .inl ⟨by simp [joinRest, never], unlimited, .tail _ hangs⟩
      · refine .inr ⟨last, by simp [joinRest, ends], later, fun unlimited => ?_, ?_, soon⟩
        · simpa [ended.symm] using all unlimited
        · exact fun time ending hm => waited time ending (by simpa using hm)

/-! ### Asking the stressors to stop -/

/-- What the stressors of a pool do, there being one for each thread, is not known to them before
they are asked to stop: what ends before the request ends in the same way without it. -/
structure Causal (squad : Option Instant → Squad A W) (threads : Nat) : Prop where
  size : ∀ stop, (squad stop).completions.length = threads
  before : ∀ (stop : Instant) (i : Nat) (time : Instant) (ending : Ending A), time < stop →
    ((squad (some stop)).completions[i]? = some (some (time, ending)) ↔
      (squad none).completions[i]? = some (some (time, ending)))

/-- No stressor that is left alone ends just at the deadline, where it is not told which of the two
comes first. -/
def Apart (clock : Clock) (limits : PoolLimits) (started : Instant)
    (squad : Option Instant → Squad A W) : Prop :=
  ∀ d, deadline clock limits started = some d →
    ∀ ending, some (d, ending) ∉ (squad none).completions

/-- When the stressors are asked to stop: at the deadline, if one of them is still running then. -/
def request (clock : Clock) (limits : PoolLimits) (started : Instant)
    (squad : Option Instant → Squad A W) : Option Instant :=
  (deadline clock limits started).filter fun d => (squad none).completions.any (·.isRunning d)

/-- When the stressors that are still running after a request are aborted. -/
def graceEnd (clock : Clock) (limits : PoolLimits) (request : Option Instant) : Option Instant :=
  request.bind fun t => clock.alarm? t limits.grace

variable {clock : Clock} {limits : PoolLimits} {started : Instant}
  {squad : Option Instant → Squad A W} {threads : Nat}

theorem request_eq_some_iff {d : Instant} :
    request clock limits started squad = some d ↔
      deadline clock limits started = some d ∧ ∃ c ∈ (squad none).completions, c.isRunning d := by
  simp [request, Option.filter_eq_some_iff]

theorem request_eq_none_iff :
    request clock limits started squad = none ↔
      ∀ d, deadline clock limits started = some d →
        ∀ c ∈ (squad none).completions, c.isRunning d = false := by
  simp [request, Option.filter_eq_none_iff]

/-- A request to stop comes at the deadline. -/
theorem eq_of_request {d t : Instant} (h : request clock limits started squad = some t)
    (limited : deadline clock limits started = some d) : t = d :=
  Option.some.inj ((request_eq_some_iff.1 h).1.symm.trans limited)

theorem le_graceEnd {t g : Instant} (h : graceEnd clock limits (some t) = some g) : t ≤ g :=
  Nat.le_trans (Nat.le_add_right _ _) (Clock.alarm?_bounds h).1

/-- **A pool waits forever, or comes to an outcome for each stressor.**  The outcome of a stressor
depends only on when it ends and how, in a pool where the request to stop is made as it is made. -/
theorem run_cases (causal : Causal squad threads)
    (apart : Apart clock limits started squad)
    {asked limit : Option Instant} (hasked : request clock limits started squad = asked)
    (hlimit : graceEnd clock limits asked = limit) :
    (run clock limits started squad = none ∧ limit = none ∧ none ∈ (squad asked).completions) ∨
    ∃ last, run clock limits started squad =
        some ⟨(squad asked).completions.map (Completed.outcome limit), asked.isSome, last,
          (squad asked).after⟩ ∧
      (limit = none → none ∉ (squad asked).completions) ∧
      (∀ time ending, some (time, ending) ∈ (squad asked).completions →
        (∀ g, limit = some g → time ≤ g) → time ≤ last) ∧
      (∀ d, deadline clock limits started = some d → asked = none → last ≤ d) ∧
      ∀ g, limit = some g → last ≤ g := by
  rcases joinInTime_cases (deadline clock limits started) started (squad none).completions with
    ⟨never, unlimited, hangs⟩ | ⟨last, ends, -, all, soon⟩ |
    ⟨d, known, limited, stops, late, length, in_time⟩
  · -- nothing ends the wait for a stressor that hangs
    obtain rfl : asked = none := by rw [← hasked, request, unlimited]; rfl
    exact .inl ⟨by simp [run, never], hlimit.symm, hangs⟩
  · -- all stressors ended in time
    obtain rfl : asked = none := by
      refine hasked.symm.trans (request_eq_none_iff.2 fun d limited c hc => ?_)
      obtain ⟨time, ending, rfl, -, inTime⟩ := all c hc
      exact Completed.isRunning_eq_false_iff.2 ⟨time, ending, rfl, inTime d limited⟩
    obtain rfl : limit = none := hlimit.symm
    refine .inr ⟨last, ?_, fun _ hangs => ?_, ?_, ?_, nofun⟩
    · simp [run, ends]
    · obtain ⟨time, ending, h, -⟩ := all none hangs
      cases h
    · intro time ending hm _
      obtain ⟨_, _, h, waited, -⟩ := all _ hm
      cases h
      exact waited
    · intro d limited _
      have started_before : started ≤ d := by
        obtain ⟨D, -, alarm⟩ := Option.bind_eq_some_iff.1 limited
        exact Nat.le_trans (Nat.le_add_right _ _) (Clock.alarm?_bounds alarm).1
      exact Nat.le_trans (soon d limited) (Nat.max_le.2 ⟨started_before, Nat.le_refl _⟩)
  · -- a stressor is late, and all are asked to stop
    obtain rfl : asked = some d := hasked.symm.trans (request_eq_some_iff.2 ⟨limited, late⟩)
    have alarm : clock.alarm? d limits.grace = limit := hlimit
    have after : ∀ g, limit = some g → d ≤ g := fun g hg => le_graceEnd (hlimit.trans hg)
    have fits : known.length = (squad (some d)).completions.length :=
      length.trans ((causal.size none).trans (causal.size (some d)).symm)
    have zipped : (known.zip (squad (some d)).completions).map (·.2) =
        (squad (some d)).completions := List.map_snd_zip (Nat.le_of_eq fits.symm)
    -- what is known is about stressors that the request does not reach
    have unreached : ∀ u c, (some u, c) ∈ known.zip (squad (some d)).completions →
        ∃ time ending, c = some (time, ending) ∧ time < d ∧ u = Ending.outcome ending := by
      intro u c hm
      obtain ⟨i, hi⟩ := List.mem_iff_getElem?.1 hm
      obtain ⟨hu, hc⟩ := List.getElem?_zip_eq_some.1 hi
      obtain ⟨time, ending, own, inTime, rfl⟩ := in_time i u hu
      have early : time < d := by
        refine Nat.lt_of_le_of_ne inTime ?_
        rintro rfl
        exact apart _ limited ending (List.mem_of_getElem? own)
      have same := (causal.before d i time ending early).2 own
      exact ⟨time, ending, Option.some.inj (hc.symm.trans same), early, rfl⟩
    have outcomes : ∀ u c, (some u, c) ∈ known.zip (squad (some d)).completions →
        c ≠ none ∧ u = c.outcome limit := by
      intro u c hm
      obtain ⟨time, ending, rfl, early, rfl⟩ := unreached u c hm
      refine ⟨nofun, (Completed.outcome_of_ended fun g hg => ?_).symm⟩
      exact Nat.le_trans (Nat.le_of_lt early) (after g hg)
    rcases joinRest_cases outcomes d with ⟨never, unlimited, hangs⟩ |
      ⟨last, ends, later, all, waited, soon⟩
    · exact .inl ⟨by simp [run, stops, alarm, never], unlimited, zipped ▸ hangs⟩
    · refine .inr ⟨last, ?_, fun unlimited => zipped ▸ all unlimited, ?_, nofun, ?_⟩
      · have units : (known.zip (squad (some d)).completions).map (fun e => e.2.outcome limit) =
            (squad (some d)).completions.map (Completed.outcome limit) := by
          have mapped := congrArg (List.map (Completed.outcome limit)) zipped
          rwa [List.map_map] at mapped
        simp [run, stops, alarm, ends, units]
      · intro time ending hm before
        rw [← zipped] at hm
        obtain ⟨⟨u, c⟩, hm, rfl⟩ := List.mem_map.1 hm
        cases u with
        | none => exact waited time ending hm before
        | some u =>
          obtain ⟨_, _, h, early, -⟩ := unreached u _ hm
          cases h
          exact Nat.le_trans (Nat.le_of_lt early) later
      · intro g hg
        exact Nat.le_trans (soon g hg) (Nat.max_le.2 ⟨after g hg, Nat.le_refl _⟩)

/-! ### What becomes of the stressors -/

/-- What a pool knows in the end, by what its stressors do. -/
structure Ends (clock : Clock) (limits : PoolLimits) (started : Instant)
    (squad : Option Instant → Squad A W) (threads : Nat) (o : PoolOutcome A W) : Prop where
  /-- There is one outcome for each stressor. -/
  count : o.units.length = threads
  /-- A stressor is late if it is still running at the deadline, and then, and only then, they are
  all asked to stop. -/
  timedOut : o.timedOut = true ↔ ∃ d, deadline clock limits started = some d ∧
    ∃ c ∈ (squad none).completions, c.isRunning d
  requested : o.timedOut = (request clock limits started squad).isSome
  after : o.after = (squad (request clock limits started squad)).after
  /-- What ends before the deadline counts as it ends, whatever becomes of the others. -/
  early : ∀ (d : Instant) (i : Nat) (time : Instant) (ending : Ending A),
    deadline clock limits started = some d →
    (squad none).completions[i]? = some (some (time, ending)) → time < d →
      o.units[i]? = some ending.outcome
  /-- What ends before the grace period is over counts as it ends, and is waited for. -/
  ended : ∀ (i : Nat) (time : Instant) (ending : Ending A),
    (squad (request clock limits started squad)).completions[i]? = some (some (time, ending)) →
    (∀ g, graceEnd clock limits (request clock limits started squad) = some g → time ≤ g) →
      o.units[i]? = some ending.outcome ∧ time ≤ o.ended
  /-- What is still running when the grace period is over is aborted, and nothing else is. -/
  aborted : ∀ i : Nat, o.units[i]? = some .aborted ↔
    ∃ g, graceEnd clock limits (request clock limits started squad) = some g ∧
      ∃ c, (squad (request clock limits started squad)).completions[i]? = some c ∧ c.isRunning g

/-- The outcome of a stressor, by what it does itself. -/
theorem Ends.of_run (causal : Causal squad threads)
    (apart : Apart clock limits started squad)
    {o : PoolOutcome A W} (h : run clock limits started squad = some o) :
    Ends clock limits started squad threads o := by
  rcases run_cases causal apart rfl rfl with ⟨never, -⟩ | ⟨last, ends, all, waited, -, -⟩
  · cases never.symm.trans h
  · cases ends.symm.trans h
    generalize hasked : request clock limits started squad = asked at *
    generalize hlimit : graceEnd clock limits asked = limit at *
    have ended : ∀ (i : Nat) (time : Instant) (ending : Ending A),
        (squad asked).completions[i]? = some (some (time, ending)) →
        (∀ g, limit = some g → time ≤ g) →
          ((squad asked).completions.map (Completed.outcome limit))[i]? = some ending.outcome := by
      intro i time ending hi before
      rw [List.getElem?_map, hi, Option.map_some, Completed.outcome_of_ended before]
    refine
      { count := by simp [causal.size]
        timedOut := ?_
        requested := by rw [hasked]
        after := by rw [hasked]
        early := ?_
        ended := ?_
        aborted := ?_ }
    · rw [Option.isSome_iff_exists, ← hasked]
      exact exists_congr fun d => request_eq_some_iff
    · intro d i time ending limited hi early
      cases asked with
      | none => exact ended i time ending hi (by simp [← hlimit, graceEnd])
      | some t =>
        -- the request comes at the deadline, and is not known before
        obtain rfl := eq_of_request hasked limited
        refine ended i time ending ((causal.before t i time ending early).2 hi) fun g hg => ?_
        exact Nat.le_trans (Nat.le_of_lt early) (le_graceEnd (hlimit.trans hg))
    · rw [hasked, hlimit]
      intro i time ending hi before
      exact ⟨ended i time ending hi before, waited time ending (List.mem_of_getElem? hi) before⟩
    · rw [hasked, hlimit]
      intro i
      simp only [List.getElem?_map, Option.map_eq_some_iff, Completed.outcome_eq_aborted_iff]
      constructor
      · rintro ⟨c, hi, ⟨unlimited, rfl⟩ | ⟨g, limited, late⟩⟩
        · exact absurd (List.mem_of_getElem? hi) (all unlimited)
        · exact ⟨g, limited, c, hi, late⟩
      · rintro ⟨g, limited, c, hi, late⟩
        exact ⟨c, hi, .inr ⟨g, limited, late⟩⟩

/-- A pool whose limits the clock can represent comes to an end, at its limits at the latest. -/
theorem run_ends (causal : Causal squad threads)
    (apart : Apart clock limits started squad)
    {d : Instant} (limited : deadline clock limits started = some d)
    (grace : d + limits.grace.nanos < Instant.limit) :
    ∃ o, run clock limits started squad = some o ∧
      o.ended < d + limits.grace.nanos + clock.step := by
  have alarm : clock.alarm? d limits.grace = some (clock.roundUp (d + limits.grace.nanos)) :=
    Clock.alarm?_of_lt grace
  have last_limit : d < d + limits.grace.nanos + clock.step := by
    have := clock.positive
    delta Instant at *
    omega
  rcases run_cases causal apart rfl rfl with ⟨-, unlimited, hangs⟩ | ⟨last, ends, -, -, soon, later⟩
  · cases hr : request clock limits started squad with
    | none =>
      -- one that hangs is late
      have late := request_eq_none_iff.1 hr d limited none (hr ▸ hangs)
      cases late
    | some t =>
      obtain rfl := eq_of_request hr limited
      rw [hr, graceEnd, Option.bind_some, alarm] at unlimited
      cases unlimited
  · refine ⟨_, ends, ?_⟩
    cases hr : request clock limits started squad with
    | none => exact Nat.lt_of_le_of_lt (soon d limited hr) last_limit
    | some t =>
      obtain rfl := eq_of_request hr limited
      exact Nat.lt_of_le_of_lt (later _ (by rw [hr]; exact alarm)) (Clock.alarm?_bounds alarm).2

/-- A pool that has no deadline asks nobody to stop, and waits for all stressors. -/
theorem run_unlimited (causal : Causal squad threads)
    (unlimited : deadline clock limits started = none) :
    (run clock limits started squad = none ↔ none ∈ (squad none).completions) ∧
    ∀ o, run clock limits started squad = some o →
      o.timedOut = false ∧ o.after = (squad none).after ∧
      ∀ (i : Nat) (time : Instant) (ending : Ending A),
        (squad none).completions[i]? = some (some (time, ending)) →
          o.units[i]? = some ending.outcome ∧ time ≤ o.ended := by
  have apart : Apart clock limits started squad := by simp [Apart, unlimited]
  have asked : request clock limits started squad = none := by rw [request, unlimited]; rfl
  constructor
  · rcases run_cases causal apart asked rfl with ⟨never, -, hangs⟩ | ⟨last, ends, all, -⟩
    · exact iff_of_true never hangs
    · exact iff_of_false (by simp [ends]) (all rfl)
  · intro o h
    have ends := Ends.of_run causal apart h
    refine ⟨by rw [ends.requested, asked]; rfl, by rw [ends.after, asked], ?_⟩
    intro i time ending hi
    exact ends.ended i time ending (by rwa [asked]) (by simp [asked, graceEnd])

/-- A pool knows of a stressor what that stressor does, given the request to stop. -/
theorem units_of_run (causal : Causal squad threads)
    (apart : Apart clock limits started squad)
    {o : PoolOutcome A W} (h : run clock limits started squad = some o) :
    o.timedOut = (request clock limits started squad).isSome ∧
      o.units = (squad (request clock limits started squad)).completions.map
        (Completed.outcome (graceEnd clock limits (request clock limits started squad))) := by
  rcases run_cases causal apart rfl rfl with ⟨never, -⟩ | ⟨last, ends, -⟩
  · cases never.symm.trans h
  · cases ends.symm.trans h
    exact ⟨rfl, rfl⟩

/-- Pools with the same limits that both make a request to stop make the same. -/
theorem request_congr {X : Type} {squad' : Option Instant → Squad A X}
    (h : (request clock limits started squad).isSome =
      (request clock limits started squad').isSome) :
    request clock limits started squad = request clock limits started squad' := by
  cases hr : request clock limits started squad with
  | none =>
    rw [hr] at h
    exact (Option.not_isSome_iff_eq_none.1 (by simp [← h])).symm
  | some t =>
    cases hr' : request clock limits started squad' with
    | none => simp [hr, hr'] at h
    | some t' => rw [eq_of_request hr (request_eq_some_iff.1 hr').1]

/-- **The stressors of a pool.**  A pool whose limits the clock can represent comes to an end at its
limits at the latest; without a time limit, or with one that is too far away, it waits for all
stressors, and none is asked to stop.  `Ends` tells what becomes of each stressor.  That depends on
no other stressor, except through the request to stop. -/
theorem run_outcomes (clock : Clock) (limits : PoolLimits) (started : Instant)
    (squad : Option Instant → Squad A W) (threads : Nat) (causal : Causal squad threads)
    (apart : Apart clock limits started squad) :
    (∀ span, limits.deadline = some span → started + span.nanos < Instant.limit →
      ∃ d, deadline clock limits started = some d ∧
        started + span.nanos ≤ d ∧ d < started + span.nanos + clock.step ∧
        (d + limits.grace.nanos < Instant.limit →
          ∃ o, run clock limits started squad = some o ∧
            o.ended < d + limits.grace.nanos + clock.step)) ∧
    ((∀ span, limits.deadline = some span → Instant.limit ≤ started + span.nanos) →
      (run clock limits started squad = none ↔ none ∈ (squad none).completions) ∧
      ∀ o, run clock limits started squad = some o →
        o.timedOut = false ∧ o.after = (squad none).after ∧
        ∀ (i : Nat) (time : Instant) (ending : Ending A),
          (squad none).completions[i]? = some (some (time, ending)) →
            o.units[i]? = some ending.outcome ∧ time ≤ o.ended) ∧
    (∀ o, run clock limits started squad = some o → Ends clock limits started squad threads o) ∧
    ∀ (X : Type) (squad' : Option Instant → Squad A X) (threads' : Nat), Causal squad' threads' →
      Apart clock limits started squad' → ∀ o o', run clock limits started squad = some o →
        run clock limits started squad' = some o' → o.timedOut = o'.timedOut →
        ∀ i : Nat, (∀ stop, (squad stop).completions[i]? = (squad' stop).completions[i]?) →
          o.units[i]? = o'.units[i]? := by
  refine ⟨?_, ?_, fun o => Ends.of_run causal apart, ?_⟩
  · intro span hspan near
    have limited : deadline clock limits started = some (clock.roundUp (started + span.nanos)) := by
      rw [deadline, hspan]; exact Clock.alarm?_of_lt near
    exact ⟨_, limited, clock.le_roundUp _, clock.roundUp_lt _,
      fun grace => run_ends causal apart limited grace⟩
  · intro far
    refine run_unlimited causal ?_
    cases hspan : limits.deadline with
    | none => simp [deadline, hspan]
    | some span =>
      rw [deadline, hspan]
      exact Clock.alarm?_of_le (far span hspan)
  · intro X squad' threads' causal' apart' o o' h h' same i agree
    obtain ⟨timedOut, units⟩ := units_of_run causal apart h
    obtain ⟨timedOut', units'⟩ := units_of_run causal' apart' h'
    have asked := request_congr (timedOut.symm.trans (same.trans timedOut'))
    rw [units, units', asked, List.getElem?_map, List.getElem?_map, agree]

/-- Three stressors: one stops five nanoseconds after it is asked to, one crashes early, and one
hangs. -/
def unequal (stop : Option Instant) : Squad String Unit :=
  ⟨[stop.map fun t => (t + 5, .finished "stopped"), some (3, .panicked "gone"), none], ()⟩

/-- With a deadline after ten nanoseconds and a grace period of twenty, the first of the three
stressors is asked to stop and does, the second counts as it ended although it is behind one that is
late, and the third is aborted. -/
theorem run_outcomes_unequal :
    let limits : PoolLimits := ⟨some (.ofNanos 10), .ofNanos 20⟩
    Causal unequal 3 ∧
    Apart .exact limits 0 unequal ∧
    ∃ o, run .exact limits 0 unequal = some o ∧ o.ended < 31 ∧ o.timedOut = true ∧
      o.units = [.finished "stopped", .panicked "gone", .aborted] := by
  intro limits
  have causal : Causal unequal 3 := by
    refine ⟨fun _ => rfl, fun stop i time ending early => ?_⟩
    have before : stop + 5 ≠ time := Nat.ne_of_gt (Nat.lt_of_lt_of_le early (Nat.le_add_right _ _))
    match i with
    | 0 => simp [unequal, before]
    | 1 | 2 => exact Iff.rfl
    | i + 3 => simp [unequal]
  have limited : deadline .exact limits 0 = some 10 := by decide
  have apart : Apart .exact limits 0 unequal := by
    rintro d h ending
    obtain rfl : 10 = d := Option.some.inj (limited.symm.trans h)
    simp [unequal]
  obtain ⟨returns, -, ends, -⟩ := run_outcomes .exact limits 0 unequal 3 causal apart
  obtain ⟨d, hd, -, -, returns⟩ := returns (.ofNanos 10) rfl (by decide)
  obtain rfl : 10 = d := Option.some.inj (limited.symm.trans hd)
  obtain ⟨o, h, soon⟩ := returns (by decide)
  have ends := ends o h
  have asked : request .exact limits 0 unequal = some 10 := by decide
  have late : o.timedOut = true := ends.timedOut.2 ⟨10, limited, none, by simp [unequal], rfl⟩
  refine ⟨causal, apart, o, h, soon, late, ?_⟩
  have first : o.units[0]? = some (.finished "stopped") :=
    (ends.ended 0 15 (.finished "stopped") (by rw [asked]; rfl) (by rw [asked]; decide)).1
  have second : o.units[1]? = some (.panicked "gone") :=
    ends.early 10 1 3 (.panicked "gone") limited rfl (by decide)
  have third : o.units[2]? = some .aborted :=
    (ends.aborted 2).2 ⟨30, by rw [asked]; decide, none, by rw [asked]; rfl, rfl⟩
  refine List.ext_getElem? fun i => ?_
  match i with
  | 0 => exact first
  | 1 => exact second
  | 2 => exact third
  | i + 3 =>
    rw [List.getElem?_eq_none (by rw [ends.count]; omega), List.getElem?_eq_none (by simp)]

end Pool

end LoadFleet
