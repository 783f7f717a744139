import LoadFleet.Proofs.Findings
/-!
# When a stage is recorded

Recording a stage fills a fresh iteration, which has no results yet, and adds it to its test.  The
results that a stage adds have different names, so adding them never fails; what can fail is the
merging of the statistics of a worker, and adding to a test that exists and is not to be amended.

* `mergeWorkers?_error_iff`: merging the statistics of all workers fails exactly if it fails for one
  of them.
* `record?_error_iff`: when recording a stage fails.
-/

namespace LoadFleet

/-! ### Filling an iteration -/

namespace TestIteration

/-- Steps that keep the results keep those of a fresh iteration over a whole list. -/
theorem find?_foldl_fresh {α : Type} {f : TestIteration → α → TestIteration}
    (hf : ∀ i a, (f i a).results = i.results) {l : List α} {i : TestIteration}
    (h : i.results = .empty) {name : String} : (l.foldl f i).results.find? name = none := by
  induction l generalizing i with
  | nil => simp [h]
  | cons a r ih => exact ih ((hf i a).trans h)

/-- A result whose name is new is added. -/
theorem addIfAny?_of_new {i : TestIteration} {result : Option TestResult} (test : String)
    (h : ∀ r, result = some r → i.results.find? r.name = none) :
    i.addIfAny? test result =
      .ok { i with results := result.elim i.results fun r => i.results.insert r.name r } := by
  cases result with
  | none => rfl
  | some r => simp [addIfAny?, addResult?, OrderedMap.contains, h r rfl]

end TestIteration

theorem name_of_throughputResult? {workers : List (WorkerIndex × WorkerTotal)}
    {r : TestResult} (h : throughputResult? workers = some r) : r.name = throughputName := by
  simp only [throughputResult?] at h
  split at h
  · cases h
  · cases h; rfl

theorem name_of_dataThroughputResult? {entrySize : UInt64}
    {workers : List (WorkerIndex × WorkerTotal)} {r : TestResult}
    (h : dataThroughputResult? entrySize workers = some r) : r.name = dataThroughputName := by
  simp only [dataThroughputResult?] at h
  split at h
  · cases h
  · cases h; rfl

/-- Filling a fresh iteration from an iteration stage never fails. -/
theorem fillIteration?_isOk {i : TestIteration} (h : i.results = .empty) (test : String)
    (acks : Acknowledgements) : ∃ filled, fillIteration? test acks i = .ok filled := by
  rw [fillIteration?, TestIteration.addIfAny?_of_new]
  · exact ⟨_, rfl⟩
  · exact fun _ _ => TestIteration.find?_foldl_fresh (fun _ _ => by rfl) h

/-- Merging the statistics of all workers fails exactly if it fails for one of them. -/
theorem mergeWorkers?_error_iff {l : List (WorkerIndex × List RunStatistics)} :
    (∃ e, mergeWorkers? l = .error e) ↔
      ∃ worker threads, (worker, threads) ∈ l ∧ ∃ e, workerTotal? threads = .error e := by
  induction l with
  | nil => simp [mergeWorkers?]
  | cons a r ih =>
    obtain ⟨worker, threads⟩ := a
    cases hm : workerTotal? threads with
    | error e =>
      exact ⟨fun _ => ⟨worker, threads, .head _, e, hm⟩,
        fun _ => ⟨e, by simp [mergeWorkers?, hm, bind, Except.bind]⟩⟩
    | ok total =>
      have here : ∀ e, workerTotal? threads ≠ .error e := by simp [hm]
      have tail : (∃ e, mergeWorkers? ((worker, threads) :: r) = .error e) ↔
          ∃ e, mergeWorkers? r = .error e := by
        simp only [mergeWorkers?, hm, bind, Except.bind, pure, Except.pure]
        cases mergeWorkers? r <;> simp
      rw [tail, ih]
      constructor
      · rintro ⟨w, ts, hmem, e⟩
        exact ⟨w, ts, .tail _ hmem, e⟩
      · rintro ⟨w, ts, hmem, e, he⟩
        rcases List.mem_cons.1 hmem with heq | hmem
        · cases heq
          exact absurd he (here e)
        · exact ⟨w, ts, hmem, e, he⟩

namespace Acknowledgements

/-- The worker acknowledged a stress test with these statistics of its stressors. -/
def Stressed (acks : Acknowledgements) (worker : WorkerIndex) (threads : List RunStatistics) :
    Prop :=
  ∃ ack, acks.find? worker = some ack ∧ ack.payload = .statistics threads

theorem mem_statistics {acks : Acknowledgements} {worker : WorkerIndex}
    {threads : List RunStatistics} :
    (worker, threads) ∈ acks.statistics ↔ acks.Stressed worker threads := by
  simp only [statistics, List.mem_filterMap, Stressed, OrderedMap.find?_eq_some_iff]
  constructor
  · rintro ⟨⟨w, ack⟩, hm, h⟩
    cases hp : ack.payload with
    | none | iteration => simp [hp] at h
    | statistics ts =>
      simp only [hp, Option.some.injEq, Prod.mk.injEq] at h
      obtain ⟨rfl, rfl⟩ := h
      exact ⟨ack, hm, hp⟩
  · rintro ⟨ack, hm, hp⟩
    exact ⟨(worker, ack), hm, by simp [hp]⟩

/-- The statistics of the stressors of some worker do not go together: they do not merge, or there
is an overflow when their requests are added up. -/
def Unmergeable (acks : Acknowledgements) : Prop :=
  ∃ worker threads, acks.Stressed worker threads ∧ ∃ e, workerTotal? threads = .error e

end Acknowledgements

/-- Filling a fresh iteration from a stress test fails exactly if the statistics of some worker do
not go together. -/
theorem fillStress?_error_iff {i : TestIteration} (h : i.results = .empty)
    (s : StressSettings) (acks : Acknowledgements) :
    (∃ e, fillStress? s acks i = .error e) ↔ acks.Unmergeable := by
  have merging : acks.Unmergeable ↔ ∃ e, mergeWorkers? acks.statistics = .error e := by
    simp only [mergeWorkers?_error_iff, Acknowledgements.mem_statistics]; rfl
  rw [merging]
  cases hm : mergeWorkers? acks.statistics with
  | error e => exact iff_of_true ⟨.stats e, by rw [fillStress?, hm]; rfl⟩ ⟨e, rfl⟩
  | ok workers =>
    have mapped : (Except.ok workers : Except StatsError _).mapError CoordinatorError.stats =
      .ok workers := rfl
    simp only [fillStress?, hm, mapped, bind, Except.bind, reduceCtorEq, exists_false, iff_false,
      not_exists]
    intro e
    -- the iteration has no results before the first one is added, and only that one afterwards
    rw [TestIteration.addIfAny?_of_new]
    · dsimp only
      rw [TestIteration.addIfAny?_of_new]
      · simp
      · intro r hr
        cases ht : throughputResult? workers with
        | none => exact TestIteration.find?_foldl_fresh (fun _ _ => by rfl) h
        | some t =>
          rw [Option.elim_some, OrderedMap.find?_insert, name_of_throughputResult? ht,
            name_of_dataThroughputResult? hr, if_neg (by decide)]
          exact TestIteration.find?_foldl_fresh (fun _ _ => by rfl) h
    · exact fun _ _ => TestIteration.find?_foldl_fresh (fun _ _ => by rfl) h

/-! ### Recording -/

/-- The report has a test of the name. -/
def Report.Has (r : Report) (name : String) : Prop := ∃ t ∈ r.tests, t.name = name

namespace Report

theorem test?_isSome_iff {r : Report} {name : String} : (r.test? name).isSome ↔ r.Has name := by
  simp [test?, Has]

/-- When recording an iteration fails, if filling a fresh iteration fails under a condition. -/
theorem recordIteration?_error_iff {r : Report} {name stage : String} {amend : Bool}
    {fill : TestIteration → Except CoordinatorError TestIteration} {P : Prop}
    (hfill : ∀ i, i.results = .empty → ((∃ e, fill i = .error e) ↔ P)) :
    (∃ e, r.recordIteration? name stage amend fill = .error e) ↔
      r.Has name ∧ amend = false ∨ P := by
  -- apart from the refusal, recording fails when filling the fresh iteration does
  have filling : ∀ {α : Type} {i} {f : TestIteration → α}, i.results = .empty →
      ((∃ e, (fill i >>= fun j => pure (f j) : Except CoordinatorError α) = .error e) ↔ P) := by
    intro α i f hi
    rw [← hfill i hi]
    cases fill i <;> simp [bind, Except.bind, pure, Except.pure]
  cases ht : r.test? name with
  | none =>
    have absent : ¬ r.Has name := by simp [← test?_isSome_iff, ht]
    simp only [recordIteration?, ht, absent, false_and, false_or]
    exact filling rfl
  | some t =>
    have present : r.Has name := by simp [← test?_isSome_iff, ht]
    cases amend with
    | false => simp [recordIteration?, ht, present]
    | true =>
      simp only [recordIteration?, ht, reduceIte, present, Bool.true_eq_false, and_false, false_or]
      exact filling rfl

end Report

/-- The stage cannot be recorded: its test is one to record, but either the report has a test of
that name which is not to be amended, or the stage is a stress test and the statistics of the
stressors of some worker do not go together. -/
def Stage.Unrecordable (stage : Stage) (acks : Acknowledgements) (report : Report) : Prop :=
  ∃ test, stage.kind.test? = some test ∧ test.isRecorded ∧
    (report.Has test.name ∧ test.amend = false ∨
      (∃ settings, stage.kind = .stress settings) ∧ acks.Unmergeable)

/-- **Recording.**  Recording fails exactly if the stage cannot be recorded. -/
theorem record?_error_iff {stage : Stage} {acks : Acknowledgements} {report : Report} :
    (∃ e, record? stage acks report = .error e) ↔ stage.Unrecordable acks report := by
  cases ht : stage.kind.test? with
  | none => simp [record?, Stage.Unrecordable, ht]
  | some test =>
    by_cases hr : test.isRecorded
    · have mapped : ∀ {x : Except CoordinatorError (Report × TestIteration)},
          (∃ e, x.map (·.1) = .error e) ↔ ∃ e, x = .error e := by
        intro x
        cases x <;> simp [Except.map]
      simp only [record?, ht, hr, reduceIte, mapped]
      rw [Report.recordIteration?_error_iff
        (P := (∃ settings, stage.kind = .stress settings) ∧ acks.Unmergeable)]
      · simp [Stage.Unrecordable, ht, hr]
      · intro i hi
        cases hk : stage.kind with
        | iterate s =>
          obtain ⟨filled, hf⟩ := fillIteration?_isOk hi s.test.name acks
          simp [StageKind.fill?, hf]
        | stress s => simp [StageKind.fill?, fillStress?_error_iff hi]
        | waitForEvent | waitForSettle | checkTopology => simp [hk, StageKind.test?] at ht
    · simp [record?, Stage.Unrecordable, ht, hr]

end LoadFleet
