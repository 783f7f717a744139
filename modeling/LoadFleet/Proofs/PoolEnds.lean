import LoadFleet.Proofs.PoolRun
/-!
# Pools of any stressors

Whatever stressors do, and however a request to stop changes it, a pool with a time limit ends when
its grace period is over, and what it knows of a stressor is how one of them ended.

* `Pool.joinRest_ends`: the second walk over the stressors ends by its limit.
* `Pool.run_within`: a pool ends by the end of its grace period, or the clock cannot represent that.
-/

namespace LoadFleet.Pool

variable {A W : Type}

/-- What is known of a stressor: it was aborted, or it ended as one of these does. -/
def Known (cs : List (Completed A)) (u : UnitOutcome A) : Prop :=
  u = .aborted ∨ ∃ time ending, some (time, ending) ∈ cs ∧ u = Ending.outcome ending

theorem Known.mono {cs cs' : List (Completed A)} {u : UnitOutcome A} (h : Known cs u)
    (sub : ∀ c ∈ cs, c ∈ cs') : Known cs' u := by
  rcases h with rfl | ⟨time, ending, hm, rfl⟩
  · exact .inl rfl
  · exact .inr ⟨time, ending, sub _ hm, rfl⟩

/-- The second walk over the stressors ends by its limit, if it has one. -/
theorem joinRest_ends (limit : Option Instant) (now : Instant)
    (l : List (Option (UnitOutcome A) × Completed A)) :
    (joinRest limit now l = none ∧ limit = none) ∨
    ∃ units last, joinRest limit now l = some (units, last) ∧
      (∀ g, limit = some g → last ≤ max now g) ∧
      ∀ u ∈ units, (∃ c, (some u, c) ∈ l) ∨ Known (l.map (·.2)) u := by
  induction l generalizing now with
  | nil => exact .inr ⟨[], now, rfl, fun _ _ => Nat.le_max_left _ _, by simp⟩
  | cons e r ih =>
    obtain ⟨known, c⟩ := e
    have later {u : UnitOutcome A} (h : (∃ c, (some u, c) ∈ r) ∨ Known (r.map (·.2)) u) :
        (∃ c', (some u, c') ∈ (known, c) :: r) ∨ Known (((known, c) :: r).map (·.2)) u :=
      h.imp (fun ⟨c, hm⟩ => ⟨c, .tail _ hm⟩) fun h => h.mono fun _ hm => .tail _ hm
    cases known with
    | some u =>
      rcases ih now with ⟨never, unlimited⟩ | ⟨units, last, ends, soon, all⟩
      · exact .inl ⟨by simp [joinRest, never], unlimited⟩
      · refine .inr ⟨u :: units, last, by simp [joinRest, ends], soon, ?_⟩
        exact List.forall_mem_cons.2 ⟨.inl ⟨c, .head _⟩, fun v hv => later (all v hv)⟩
    | none =>
      rcases join_cases limit now c with ⟨time, ending, rfl, inTime, h⟩ | ⟨g, rfl, -, h⟩ |
        ⟨unlimited, -, h⟩
      · rcases ih (max now time) with ⟨never, unlimited⟩ | ⟨units, last, ends, soon, all⟩
        · exact .inl ⟨by simp [joinRest, h, never], unlimited⟩
        · refine .inr ⟨ending.outcome :: units, last, by simp [joinRest, h, ends], ?_, ?_⟩
          · intro g limited
            have bound : last ≤ max (max now time) g := soon g limited
            rwa [Nat.max_assoc, Nat.max_eq_right (inTime g limited)] at bound
          · exact List.forall_mem_cons.2
              ⟨.inr (.inr ⟨time, ending, .head _, rfl⟩), fun v hv => later (all v hv)⟩
      · -- the stressor is aborted, and the walk goes on from the limit
        rcases ih (max now g) with ⟨-, unlimited⟩ | ⟨units, last, ends, soon, all⟩
        · cases unlimited
        · refine .inr ⟨.aborted :: units, last, by simp [joinRest, h, ends], ?_, ?_⟩
          · intro g' limited
            cases limited
            have bound : last ≤ max (max now g) g := soon g rfl
            rwa [Nat.max_assoc, Nat.max_self] at bound
          · exact List.forall_mem_cons.2 ⟨.inr (.inl rfl), fun v hv => later (all v hv)⟩
      · exact .inl ⟨by simp [joinRest, h], unlimited⟩

variable (clock : Clock) (limits : PoolLimits) (started : Instant)
  (squad : Option Instant → Squad A W)

/-- **A pool ends by the end of its grace period**, whatever its stressors do, unless it has no time
limit or the clock cannot represent when it would end. -/
theorem run_within :
    (run clock limits started squad = none ∧
      ∀ d, deadline clock limits started = some d → clock.alarm? d limits.grace = none) ∨
    ∃ o, run clock limits started squad = some o ∧ (∃ stop, o.after = (squad stop).after) ∧
      (∀ u ∈ o.units, ∃ stop, Known (squad stop).completions u) ∧
      (∀ d, deadline clock limits started = some d → o.timedOut = false → o.ended ≤ d) ∧
      ∀ d g, deadline clock limits started = some d → clock.alarm? d limits.grace = some g →
        o.ended ≤ g := by
  have started_before {d : Instant} (limited : deadline clock limits started = some d) :
      started ≤ d := by
    obtain ⟨_, -, alarm⟩ := Option.bind_eq_some_iff.1 limited
    exact Nat.le_trans (Nat.le_add_right _ _) (Clock.alarm?_bounds alarm).1
  have grace_after {d g : Instant} (alarm : clock.alarm? d limits.grace = some g) : d ≤ g :=
    Nat.le_trans (Nat.le_add_right _ _) (Clock.alarm?_bounds alarm).1
  rcases joinInTime_cases (deadline clock limits started) started (squad none).completions with
    ⟨never, unlimited, -⟩ | ⟨last, ends, -, all, soon⟩ | ⟨d, known, limited, stops, -, -, in_time⟩
  · exact .inl ⟨by simp [run, never], by simp [unlimited]⟩
  · -- all stressors ended in time
    have inTime {d : Instant} (limited : deadline clock limits started = some d) : last ≤ d :=
      Nat.le_trans (soon d limited) (Nat.max_le.2 ⟨started_before limited, Nat.le_refl _⟩)
    refine .inr ⟨_, by simp [run, ends]; rfl, ⟨none, rfl⟩, fun u hu => ⟨none, ?_⟩,
      fun d limited _ => inTime limited,
      fun d g limited alarm => Nat.le_trans (inTime limited) (grace_after alarm)⟩
    obtain ⟨c, hc, rfl⟩ := List.mem_map.1 hu
    obtain ⟨time, ending, rfl, -, -⟩ := all c hc
    exact .inr ⟨time, ending, hc, rfl⟩
  · -- a stressor is late, and all are asked to stop
    rcases joinRest_ends (clock.alarm? d limits.grace) d
        (known.zip (squad (some d)).completions) with
      ⟨never, unlimited⟩ | ⟨units, last, ends, soon, all⟩
    · refine .inl ⟨by simp [run, stops, never], fun d' limited' => ?_⟩
      rwa [Option.some.inj (limited'.symm.trans limited)]
    · refine .inr ⟨_, by simp [run, stops, ends]; rfl, ⟨some d, rfl⟩, fun u hu => ?_,
        fun _ _ inTime => ?_, ?_⟩
      · rcases all u hu with ⟨c, hm⟩ | h
        · obtain ⟨i, hi⟩ := List.mem_iff_getElem?.1 hm
          obtain ⟨hu, -⟩ := List.getElem?_zip_eq_some.1 hi
          obtain ⟨time, ending, own, -, rfl⟩ := in_time i u hu
          exact ⟨none, .inr ⟨time, ending, List.mem_of_getElem? own, rfl⟩⟩
        · refine ⟨some d, h.mono fun c hm => ?_⟩
          obtain ⟨e, he, rfl⟩ := List.mem_map.1 hm
          exact (List.of_mem_zip he).2
      · cases inTime
      · intro d' g limited' alarm
        obtain rfl := Option.some.inj (limited'.symm.trans limited)
        exact Nat.le_trans (soon g alarm) (Nat.max_le.2 ⟨grace_after alarm, Nat.le_refl _⟩)

/-- A pool leaves behind what its stressors do. -/
theorem after_of_run {o : PoolOutcome A W} (h : run clock limits started squad = some o) :
    ∃ stop, o.after = (squad stop).after := by
  rcases run_within clock limits started squad with ⟨never, -⟩ | ⟨o', ends, after, -⟩
  · rw [never] at h
    cases h
  · obtain rfl := Option.some.inj (h.symm.trans ends)
    exact after

/-- A result of a pool is one that a stressor finished with. -/
theorem finished_of_mem_results {o : PoolOutcome A W}
    (h : run clock limits started squad = some o) {a : A} (ha : a ∈ o.results) :
    ∃ stop time, some (time, Ending.finished a) ∈ (squad stop).completions := by
  rcases run_within clock limits started squad with ⟨never, -⟩ | ⟨o', ends, -, all, -, -⟩
  · rw [never] at h
    cases h
  · obtain rfl := Option.some.inj (h.symm.trans ends)
    obtain ⟨u, hu, found⟩ := List.mem_filterMap.1 ha
    obtain ⟨stop, rfl | ⟨time, _ | _, hm, rfl⟩⟩ := all u hu
    · cases found
    · cases found
      exact ⟨stop, time, hm⟩
    · cases found

end LoadFleet.Pool
