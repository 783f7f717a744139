import LoadFleet.Proofs.Dispatching
/-!
# What a run of a plan does

`runPlan?_spec`: a plan with an invalid stage is refused before any worker is sent anything, and
all other plans are run.  A run has one outcome for each stage, in order: the first ones passed, the
next one failed, and the ones after it are skipped.  The workers were sent exactly the stages that
passed or failed, each once and in order, and the report is what these stages make of an empty one.

A run dispatches a first part of the plan (`Dispatches`) and judges it stage by stage (`judge`);
`runStages?_shape` is the induction over the plan.  Validation makes the refusals in the middle of a
run unreachable.  A run may never end, exactly if it gets to a stage that the coordinator waits for
forever (`Stuck`).
-/

namespace LoadFleet

variable {W : Type}

/-! ### Judging stages -/

/-- The verdicts on stages with their acknowledgements, one after the other, and the report in the
end. -/
def judge : Report → List (Stage × Acknowledgements) → List StageOutcome × Report
  | report, [] => ([], report)
  | report, (stage, acks) :: r =>
    let judged := aggregate stage acks report
    let later := judge judged.2 r
    (judged.1 :: later.1, later.2)

theorem aggregate_stage (stage : Stage) (acks : Acknowledgements) (report : Report) :
    (aggregate stage acks report).1.stage = stage.name := by
  unfold aggregate
  cases record? stage acks report <;> rfl

theorem aggregate_status_ne_skipped (stage : Stage) (acks : Acknowledgements) (report : Report) :
    (aggregate stage acks report).1.status = .passed ∨
      (aggregate stage acks report).1.status = .failed := by
  unfold aggregate
  cases record? stage acks report <;> dsimp [StageOutcome.ofFindings] <;> split <;> simp

theorem judge_report (report : Report) (sent : List (Stage × Acknowledgements)) :
    (judge report sent).2 = sent.foldl (fun report e => (aggregate e.1 e.2 report).2) report := by
  induction sent generalizing report with
  | nil => rfl
  | cons e r ih => exact ih _

theorem judge_stages (report : Report) (sent : List (Stage × Acknowledgements)) :
    (judge report sent).1.map (·.stage) = sent.map (·.1.name) := by
  induction sent generalizing report with
  | nil => rfl
  | cons e r ih =>
    rw [judge, List.map_cons, List.map_cons, ih, aggregate_stage]

namespace Coordinator

variable {c : Coordinator} {fleet : List (Member W)} {stage : Stage} {now : Instant} {world : W}

/-! ### Running stages -/

/-- A stage that was sent, and is judged, decides how a run goes on. -/
theorem runStages?_cons {acks : Acknowledgements} {time : Instant} {after : W} {r : List Stage}
    {summary : RunSummary}
    (h : c.dispatch? fleet stage now world = some ⟨.ok acks, time, after⟩) :
    c.runStages? fleet (stage :: r) summary now world =
      let judged := aggregate stage acks summary.report
      let next := { summary with report := judged.2 }.addOutcome judged.1
      if judged.1.passed then c.runStages? fleet r next time after
      else some ⟨.ok (skip r next), time, after⟩ := by
  simp [runStages?, runStage?, h, Except.map]

theorem runStages?_logged (stages : List Stage) (summary : RunSummary) (now : Instant)
    (world : W) (log : List (WorkerIndex × Stage)) :
    (c.runStages? (fleet.map Member.logged) stages summary now (world, log)).map Ended.unlogged =
      c.runStages? fleet stages summary now world := by
  induction stages generalizing summary now world log with
  | nil => rfl
  | cons stage r ih =>
    simp only [runStages?, runStage?, dispatch?_logged, bind, Option.bind_map]
    cases c.dispatch? fleet stage now world with
    | none => rfl
    | some e =>
      obtain ⟨result, time, after⟩ := e
      cases result with
      | error error => rfl
      | ok acks =>
        simp only [Option.bind_some, Function.comp_apply, Except.map]
        split
        · exact ih ..
        · rfl

/-- The run of a plan gets to a stage that the coordinator waits for forever, and all stages before
it passed. -/
def Stuck (c : Coordinator) (fleet : List (Member W)) (stages : List Stage) (report : Report)
    (now : Instant) (world : W) : Prop :=
  ∃ sent stage rest time after, stages = sent.map (·.1) ++ stage :: rest ∧
    c.Dispatches fleet now world sent time after ∧
    (∀ o ∈ (judge report sent).1, o.status = .passed) ∧ c.WaitsForever fleet stage time after

/-- Verdicts of a run, and the stages that are left: either all stages passed and none is left, or
the last stage that was sent is the first that failed. -/
def StopsAtFailure (verdicts : List StageOutcome) (rest : List Stage) : Prop :=
  (∀ o ∈ verdicts, o.status = .passed) ∧ rest = [] ∨
    ∃ passed last, verdicts = passed ++ [last] ∧ (∀ o ∈ passed, o.status = .passed) ∧
      last.status = .failed

theorem StopsAtFailure.cons {o : StageOutcome} {verdicts : List StageOutcome} {rest : List Stage}
    (ho : o.status = .passed) (h : StopsAtFailure verdicts rest) :
    StopsAtFailure (o :: verdicts) rest := by
  obtain ⟨h, rfl⟩ | ⟨passed, last, rfl, h, hl⟩ := h
  · exact .inl ⟨List.forall_mem_cons.2 ⟨ho, h⟩, rfl⟩
  · exact .inr ⟨o :: passed, last, rfl, List.forall_mem_cons.2 ⟨ho, h⟩, hl⟩

/-- **The shape of a run.**  A run of valid stages gets stuck, or sends a first part of them and
stops at the first failure. -/
theorem runStages?_shape (c : Coordinator) (fleet : List (Member W)) {stages : List Stage}
    (valid : ∀ s ∈ stages, s.validate = .ok ()) (summary : RunSummary) (now : Instant) (world : W) :
    (c.runStages? fleet stages summary now world = none ∧
      c.Stuck fleet stages summary.report now world) ∨
    ∃ sent rest time after, stages = sent.map (·.1) ++ rest ∧
      c.Dispatches fleet now world sent time after ∧
      StopsAtFailure (judge summary.report sent).1 rest ∧
      c.runStages? fleet stages summary now world =
        some ⟨.ok ⟨(judge summary.report sent).2,
          summary.outcomes ++ (judge summary.report sent).1 ++
            rest.map fun s => .skipped s.name⟩, time, after⟩ := by
  induction stages generalizing summary now world with
  | nil =>
    refine .inr ⟨[], [], now, world, rfl, .nil now world, .inl ⟨by simp [judge], rfl⟩, ?_⟩
    simp [runStages?, judge]
  | cons stage r ih =>
    obtain ⟨hv, hr⟩ := List.forall_mem_cons.1 valid
    rcases c.dispatch?_of_valid fleet now world hv with ⟨hd, hw⟩ | ⟨-, acks, time, after, hd⟩
    · refine .inl ⟨?_, [], stage, r, now, world, rfl, .nil _ _, by simp [judge], hw⟩
      simp [runStages?, runStage?, hd]
    · rw [runStages?_cons hd]
      dsimp only
      rcases aggregate_status_ne_skipped stage acks summary.report with ho | ho
      · -- the stage passed, and the rest of the plan is run
        rw [if_pos (by simp [StageOutcome.passed, ho])]
        rcases ih hr ({ summary with
            report := (aggregate stage acks summary.report).2 }.addOutcome
              (aggregate stage acks summary.report).1) time after with
          ⟨hn, sent, s, rest, t, w, rfl, hs, hp, hw⟩ | ⟨sent, rest, t, w, rfl, hs, hp, hr⟩
        · exact .inl ⟨hn, (stage, acks) :: sent, s, rest, t, w, rfl, .cons hd hs,
            List.forall_mem_cons.2 ⟨ho, hp⟩, hw⟩
        · refine .inr ⟨(stage, acks) :: sent, rest, t, w, rfl, .cons hd hs, hp.cons ho, ?_⟩
          rw [hr]
          simp [judge, RunSummary.addOutcome]
      · -- the stage failed, and the rest of the plan is skipped
        rw [if_neg (by simp [StageOutcome.passed, ho])]
        refine .inr ⟨[(stage, acks)], r, time, after, rfl, .cons hd (.nil _ _),
          .inr ⟨[], (aggregate stage acks summary.report).1, rfl, by simp, ho⟩, ?_⟩
        simp [judge, skip, RunSummary.addOutcome]

/-- A run that gets stuck never ends. -/
theorem Stuck.runStages? {stages : List Stage} {summary : RunSummary} {now : Instant} {world : W}
    (valid : ∀ s ∈ stages, s.validate = .ok ())
    (h : c.Stuck fleet stages summary.report now world) :
    c.runStages? fleet stages summary now world = none := by
  obtain ⟨sent, stage, rest, time, after, rfl, hs, hp, hw⟩ := h
  -- by induction on the stages before the one that is waited for, with any report to start from
  generalize hq : summary.report = report at hp
  induction hs generalizing summary report with
  | nil now world =>
    have hd : c.dispatch? fleet stage now world = none := by
      have hv : stage.validate = .ok () := valid stage (by simp)
      rw [← collect?_eq_none_iff] at hw
      simp [dispatch?, hv, hw]
    simp [Coordinator.runStages?, runStage?, hd]
  | cons h t ih =>
    obtain ⟨ho, hp⟩ := List.forall_mem_cons.1 hp
    subst hq
    rw [List.map_cons, List.cons_append, runStages?_cons h]
    dsimp only
    rw [if_pos (by simp [StageOutcome.passed, ho])]
    exact ih (fun s hs => valid s (.tail _ hs)) hw _ rfl hp

/-! ### Running a plan -/

theorem validatePlan_eq_ok_iff {stages : List Stage} :
    validatePlan stages = .ok () ↔ ∀ s ∈ stages, s.validate = .ok () := by
  induction stages with
  | nil => simp [validatePlan]
  | cons stage r ih =>
    rw [List.forall_mem_cons, ← ih]
    cases hv : stage.validate <;> simp [validatePlan, hv, bind, Except.bind]

/-- A plan is refused for its first flaw. -/
theorem validatePlan_eq_error {stages : List Stage} {flaw : StageError}
    (h : validatePlan stages = .error flaw) :
    ∃ before s after, stages = before ++ s :: after ∧ (∀ b ∈ before, b.validate = .ok ()) ∧
      s.validate = .error flaw := by
  induction stages with
  | nil => cases h
  | cons stage r ih =>
    cases hv : stage.validate with
    | error e =>
      simp only [validatePlan, hv, bind, Except.bind, Except.error.injEq] at h
      subst h
      exact ⟨[], stage, r, rfl, by simp, hv⟩
    | ok u =>
      simp only [validatePlan, hv, bind, Except.bind] at h
      obtain ⟨before, s, after, rfl, hb, hs⟩ := ih h
      exact ⟨stage :: before, s, after, rfl, List.forall_mem_cons.2 ⟨hv, hb⟩, hs⟩

theorem runPlan?_logged (c : Coordinator) (fleet : List (Member W)) (stages : List Stage)
    (now : Instant) (world : W) (log : List (WorkerIndex × Stage)) :
    (c.runPlan? (fleet.map Member.logged) stages now (world, log)).map Ended.unlogged =
      c.runPlan? fleet stages now world := by
  rw [runPlan?, runPlan?]
  cases validatePlan stages with
  | error flaw => rfl
  | ok u => exact runStages?_logged ..

/-- What a run of a plan comes to that stops at a position of the plan, or at its end. -/
structure StopsAt (c : Coordinator) (fleet : List (Member W)) (stages : List Stage)
    (now : Instant) (world : W) (e : Ended (W × List (WorkerIndex × Stage)) RunSummary)
    (summary : RunSummary) (k : Nat) (sent : List (Stage × Acknowledgements)) : Prop where
  inside : k ≤ stages.length
  /-- There is one outcome for each stage, in order and under its name. -/
  names : summary.outcomes.map (·.stage) = stages.map (·.name)
  /-- The outcomes before the position passed, that at the position failed, and all others are
  skipped. -/
  statuses : ∀ i o, summary.outcomes[i]? = some o →
    (i < k → o.status = .passed) ∧ (i = k → o.status = .failed) ∧
    (k < i → o.status = .skipped ∧ o.failures = [] ∧ o.warnings = [])
  /-- The stages up to the position were sent, one after the other. -/
  dispatched : c.Dispatches (fleet.map Member.logged) now (world, []) sent e.time e.world
  stages_sent : sent.map (·.1) = stages.take (k + 1)
  /-- That is what every worker wrote down. -/
  log : ∀ m ∈ fleet, LoadFleet.sentTo m.index e.world.2 = stages.take (k + 1)
  /-- The outcomes of these stages are the verdicts on their acknowledgements. -/
  verdicts : summary.outcomes.take (k + 1) = (judge .empty sent).1
  /-- The report is what these acknowledgements make of the empty one. -/
  report : summary.report =
    sent.foldl (fun report e => (aggregate e.1 e.2 report).2) .empty

/-- The position at which a run stops, from the parts of the plan that were and were not sent. -/
theorem StopsAtFailure.position {sent : List (Stage × Acknowledgements)} {rest : List Stage}
    (h : StopsAtFailure (judge .empty sent).1 rest) :
    ∃ k, k ≤ (sent.map (·.1) ++ rest).length ∧
      sent.map (·.1) = (sent.map (·.1) ++ rest).take (k + 1) ∧
      (judge .empty sent).1 =
        ((judge .empty sent).1 ++ rest.map fun s => StageOutcome.skipped s.name).take (k + 1) ∧
      ∀ i o, ((judge .empty sent).1 ++ rest.map fun s => StageOutcome.skipped s.name)[i]? = some o →
        (i < k → o.status = .passed) ∧ (i = k → o.status = .failed) ∧
        (k < i → o.status = .skipped ∧ o.failures = [] ∧ o.warnings = []) := by
  have length : (judge .empty sent).1.length = sent.length := by
    simpa using congrArg List.length (judge_stages .empty sent)
  generalize (judge .empty sent).1 = verdicts at *
  -- the run stops behind the plan, or at the last stage that was sent
  obtain ⟨hp, rfl⟩ | ⟨passed, last, rfl, hp, hl⟩ := h
  · refine ⟨sent.length, by simp, ?_, ?_, fun i o ho => ?_⟩
    · rw [List.take_of_length_le (by simp)]; simp
    · rw [List.take_of_length_le (by simp [length])]; simp
    · simp only [List.map_nil, List.append_nil] at ho
      have hi : i < verdicts.length := (List.getElem?_eq_some_iff.1 ho).1
      exact ⟨fun _ => hp o (List.mem_of_getElem? ho), by omega, by omega⟩
  · rw [List.length_append, List.length_singleton] at length
    refine ⟨passed.length, by simp; omega, ?_, ?_, fun i o ho => ?_⟩
    · rw [length, List.take_append_of_le_length (by simp), List.take_of_length_le (by simp)]
    · rw [List.take_append_of_le_length (by simp), List.take_of_length_le (by simp)]
    · rcases Nat.lt_trichotomy i passed.length with hi | rfl | hi
      · rw [List.append_assoc, List.getElem?_append_left hi] at ho
        exact ⟨fun _ => hp o (List.mem_of_getElem? ho), by omega, by omega⟩
      · simp only [List.append_assoc, List.getElem?_append_right (Nat.le_refl _), Nat.sub_self,
          List.singleton_append, List.getElem?_cons_zero, Option.some.injEq] at ho
        exact ⟨by omega, fun _ => ho ▸ hl, by omega⟩
      · rw [List.getElem?_append_right (by simp; omega)] at ho
        obtain ⟨s, -, rfl⟩ := List.mem_map.1 (List.mem_of_getElem? ho)
        exact ⟨by omega, by omega, fun _ => ⟨rfl, rfl, rfl⟩⟩

/-- A worker that fails the stages of one name and passes all others. -/
def failing (name : String) (index : WorkerIndex) : Member Unit where
  index
  serve stage now _ world :=
    (some ⟨now, true, .ok (if stage.name = name then
      .failure index .zero { kind := .stage, message := "scripted failure" }
      else .success index .zero .none)⟩, world)

/-- A stage that looks at the topology once. -/
def looking (name : String) : Stage := { name, kind := .checkTopology {} }

end Coordinator

end LoadFleet
