import LoadFleet.Proofs.Recording
/-!
# How a report grows

A report is only added to.  Aggregating a stage leaves it as it was, or adds one iteration at the
end of a test; a test that is missing is created at the end of the report.

* `Report.Adds`: one report is another one with an iteration added.
* `TestIteration.Fills`: filling an iteration keeps its place, and stores results under their names.
* `aggregate_cases`: a stage that is recorded adds what its acknowledgements fill in, and any other
  one changes nothing.
* `Report.WellFormed`, `Test.WellFormed`: names of tests differ, iterations are numbered, and
  results stand under their own names.
* `Report.Extends`: everything in a report is in another one at its place, unchanged.
* `aggregate_run_grows`: all of this holds for every sequence of stages.
-/

namespace LoadFleet

/-! ### Filling an iteration -/

namespace TestIteration

/-- Every result stands under its own name. -/
def Named (i : TestIteration) : Prop :=
  ∀ name result, i.results.find? name = some result → result.name = name

/-- What filling an iteration keeps: its place, its stage, and that results stand under their
names. -/
structure Fills (i j : TestIteration) : Prop where
  index : j.index = i.index
  stage : j.stage = i.stage
  named : i.Named → j.Named

namespace Fills

variable {i j k : TestIteration}

theorem refl (i : TestIteration) : i.Fills i := ⟨rfl, rfl, id⟩

theorem trans (h : i.Fills j) (h' : j.Fills k) : i.Fills k :=
  ⟨h'.index.trans h.index, h'.stage.trans h.stage, h'.named ∘ h.named⟩

theorem addStatistics (i : TestIteration) (worker : WorkerIndex) (threads : List RunStatistics) :
    i.Fills (i.addStatistics worker threads) := ⟨rfl, rfl, id⟩

theorem foldl {α : Type} {f : TestIteration → α → TestIteration}
    (hf : ∀ (i : TestIteration) (a : α), i.Fills (f i a)) (l : List α) (i : TestIteration) :
    i.Fills (l.foldl f i) := by
  induction l generalizing i with
  | nil => exact refl i
  | cons a r ih => exact (hf i a).trans (ih _)

theorem addIfAny? {test : String} {result : Option TestResult}
    (h : i.addIfAny? test result = .ok j) : i.Fills j := by
  cases result with
  | none => cases h; exact refl i
  | some r =>
    simp only [TestIteration.addIfAny?, addResult?] at h
    split at h
    · cases h
    · cases h
      refine ⟨rfl, rfl, fun named name result hr => ?_⟩
      rw [OrderedMap.find?_insert] at hr
      split at hr
      · next hn =>
        cases hr
        exact (Std.LawfulEqCmp.eq_of_compare hn).symm
      · exact named name result hr

end Fills

end TestIteration

/-- A computation that ends well went through its first part. -/
theorem ok_of_bind {ε α β : Type} {x : Except ε α} {f : α → Except ε β} {b : β}
    (h : x >>= f = .ok b) : ∃ a, x = .ok a ∧ f a = .ok b := by
  cases x with
  | error => cases h
  | ok a => exact ⟨a, rfl, h⟩

/-- What a stage fills in keeps the place of the iteration. -/
theorem StageKind.fills {kind : StageKind} {acks : Acknowledgements} {i j : TestIteration}
    (h : kind.fill? acks i = .ok j) : i.Fills j := by
  cases kind with
  | iterate s =>
    refine .trans (.foldl (fun _ _ => ?_) acks.iterations i) (.addIfAny? h)
    exact .addStatistics _ _ _
  | stress s =>
    obtain ⟨workers, -, h⟩ := ok_of_bind h
    obtain ⟨k, first, second⟩ := ok_of_bind h
    refine .trans (.foldl (fun _ _ => ?_) acks.statistics i)
      (.trans (.addIfAny? first) (.addIfAny? second))
    exact .addStatistics _ _ _
  | waitForEvent | waitForSettle | checkTopology => cases h; exact .refl i

/-! ### Adding an iteration -/

namespace Report

/-- The second report is the first one with an iteration added: at the end of the test of that
name, or in a new test at the end of the report if there is none. -/
inductive Adds (name : String) (i : TestIteration) (r r' : Report) : Prop where
  | amended (before : List Test) (known : List TestIteration) (after : List Test)
      (was : r.tests = before ++ ⟨name, known⟩ :: after) (index : i.index = known.length.toUInt64)
      (becomes : r'.tests = before ++ ⟨name, known ++ [i]⟩ :: after)
  | created (new : ¬ r.Has name) (index : i.index = 0)
      (becomes : r'.tests = r.tests ++ [⟨name, [i]⟩])

theorem Adds.ne {name : String} {i : TestIteration} {r r' : Report} (h : r.Adds name i r') :
    r' ≠ r := by
  rintro rfl
  cases h with
  | amended before known after was _ becomes => simp [was] at becomes
  | created _ _ becomes => simp at becomes

/-- The iteration goes to the first test of the name. -/
theorem append_eq {name : String} {before : List Test} (h : ∀ t ∈ before, t.name ≠ name)
    (i : TestIteration) (known : List TestIteration) (after : List Test) :
    append name i (before ++ ⟨name, known⟩ :: after) =
      before ++ ⟨name, known ++ [i]⟩ :: after := by
  induction before with
  | nil => simp [append]
  | cons t r ih =>
    have ht := h t (.head _)
    simp [append, ht, ih fun u hu => h u (.tail _ hu)]

/-- What is recorded was filled in a fresh iteration, and is added to the report. -/
theorem adds_of_recordIteration? {r r' : Report} {name stage : String} {amend : Bool}
    {fill : TestIteration → Except CoordinatorError TestIteration} {i : TestIteration}
    (fills : ∀ {j k}, fill j = .ok k → j.Fills k)
    (h : r.recordIteration? name stage amend fill = .ok (r', i)) :
    r.Adds name i r' ∧ fill ⟨i.index, stage, .empty, .empty⟩ = .ok i := by
  cases ht : r.test? name with
  | none =>
    have new : ¬ r.Has name := by simp [← test?_isSome_iff, ht]
    simp only [recordIteration?, ht] at h
    obtain ⟨j, hj, h⟩ := ok_of_bind h
    cases h
    have index : i.index = 0 := (fills hj).index
    exact ⟨.created new index rfl, index ▸ hj⟩
  | some t =>
    simp only [recordIteration?, ht] at h
    split at h
    · obtain ⟨j, hj, h⟩ := ok_of_bind h
      cases h
      have index := (fills hj).index
      obtain ⟨hn, before, after, was, first⟩ := List.find?_eq_some_iff_append.1 ht
      obtain rfl : t.name = name := by simpa using hn
      refine ⟨.amended before t.iterations after was index ?_, index ▸ hj⟩
      rw [was]
      exact append_eq (by simpa using first) i t.iterations after
    · cases h

end Report

/-- The stage is of a kind that has no test, or its test is not one to record. -/
def Stage.Unrecorded (stage : Stage) : Prop :=
  ∀ test, stage.kind.test? = some test → test.isRecorded = false

/-- A stage is passed over, cannot be recorded, or adds the iteration that it fills in. -/
theorem aggregate_cases (stage : Stage) (acks : Acknowledgements) (r : Report) :
    (stage.Unrecorded ∨ stage.Unrecordable acks r) ∧ (aggregate stage acks r).2 = r ∨
    ∃ test i, stage.kind.test? = some test ∧ test.isRecorded = true ∧
      r.Adds test.name i (aggregate stage acks r).2 ∧
      stage.kind.fill? acks ⟨i.index, stage.name, .empty, .empty⟩ = .ok i := by
  cases hr : record? stage acks r with
  | error e =>
    exact .inl ⟨.inr (record?_error_iff.1 ⟨e, hr⟩), by simp [aggregate, hr]⟩
  | ok r' =>
    rw [show (aggregate stage acks r).2 = r' by simp [aggregate, hr]]
    cases ht : stage.kind.test? with
    | none =>
      simp only [record?, ht] at hr
      cases hr
      exact .inl ⟨.inl fun test h => by simp [ht] at h, rfl⟩
    | some test =>
      simp only [record?, ht] at hr
      split at hr
      · next recorded =>
        cases hi : r.recordIteration? test.name stage.name test.amend (stage.kind.fill? acks) with
        | error e => simp [hi, Except.map] at hr
        | ok added =>
          obtain ⟨r'', i⟩ := added
          rw [hi] at hr
          cases hr
          exact .inr ⟨test, i, rfl, recorded, Report.adds_of_recordIteration? StageKind.fills hi⟩
      · next unrecorded =>
        cases hr
        refine .inl ⟨.inl fun test' h => ?_, rfl⟩
        cases ht.symm.trans h
        simpa using unrecorded

/-! ### Reports that come about -/

/-- The iterations of a test are numbered from zero, and every result stands under its own name. -/
structure Test.WellFormed (t : Test) : Prop where
  numbered : ∀ (n : Nat) (i : TestIteration), t.iterations[n]? = some i → i.index = n.toUInt64
  named : ∀ i ∈ t.iterations, i.Named

theorem Test.WellFormed.append {name : String} {known : List TestIteration} {i : TestIteration}
    (wf : WellFormed ⟨name, known⟩) (index : i.index = known.length.toUInt64) (hi : i.Named) :
    WellFormed ⟨name, known ++ [i]⟩ := by
  constructor
  · intro n j hj
    dsimp only at hj
    rcases Nat.lt_trichotomy n known.length with hlt | rfl | hgt
    · exact wf.numbered n j (by rwa [List.getElem?_append_left hlt] at hj)
    · simp only [List.getElem?_concat_length, Option.some.injEq] at hj
      exact hj ▸ index
    · rw [List.getElem?_eq_none (by simp; omega)] at hj
      cases hj
  · intro j hj
    rcases List.mem_append.1 hj with hj | hj
    · exact wf.named j hj
    · exact List.mem_singleton.1 hj ▸ hi

namespace Report

variable {r r' r'' : Report} {name : String} {i : TestIteration}

/-- Names of tests differ, and all tests are well formed. -/
structure WellFormed (r : Report) : Prop where
  distinct : (r.tests.map Test.name).Nodup
  tests : ∀ t ∈ r.tests, t.WellFormed

theorem WellFormed.empty : Report.empty.WellFormed := ⟨.nil, nofun⟩

/-- A test that was not there before has the new iteration, behind those of the test of its name
if there was one. -/
theorem Adds.mem (h : r.Adds name i r') {t : Test} (ht : t ∈ r'.tests) :
    t ∈ r.tests ∨ ∃ known, (⟨name, known⟩ ∈ r.tests ∨ known = []) ∧
      i.index = known.length.toUInt64 ∧ t = ⟨name, known ++ [i]⟩ := by
  cases h with
  | amended before known after was index becomes =>
    rw [becomes] at ht
    rw [was]
    rcases List.mem_append.1 ht with ht | ht
    · exact .inl (List.mem_append_left _ ht)
    · rcases List.mem_cons.1 ht with rfl | ht
      · exact .inr ⟨known, .inl (by simp), index, rfl⟩
      · exact .inl (List.mem_append_right _ (.tail _ ht))
  | created new index becomes =>
    rw [becomes] at ht
    rcases List.mem_append.1 ht with ht | ht
    · exact .inl ht
    · exact .inr ⟨[], .inr rfl, index, List.mem_singleton.1 ht⟩

theorem Adds.distinct (h : r.Adds name i r') (distinct : (r.tests.map Test.name).Nodup) :
    (r'.tests.map Test.name).Nodup := by
  cases h with
  | amended before known after was _ becomes => simpa [was, becomes] using distinct
  | created new _ becomes =>
    rw [becomes, List.map_append, List.nodup_append]
    refine ⟨distinct, by simp, fun a ha b hb => ?_⟩
    obtain ⟨t, ht, rfl⟩ := List.mem_map.1 ha
    obtain rfl : b = name := by simpa using hb
    exact fun hn => new ⟨t, ht, hn⟩

/-- Adding an iteration whose results stand under their names keeps a report well formed. -/
theorem WellFormed.adds (wf : r.WellFormed) (h : r.Adds name i r') (hi : i.Named) :
    r'.WellFormed := by
  refine ⟨h.distinct wf.distinct, fun t ht => ?_⟩
  obtain old | ⟨known, there, index, rfl⟩ := h.mem ht
  · exact wf.tests t old
  · have before : Test.WellFormed ⟨name, known⟩ := by
      rcases there with there | rfl
      · exact wf.tests _ there
      · exact ⟨nofun, nofun⟩
    exact before.append index hi

/-- Every test of a report stands at its place in the other one, which has all its iterations, as
they were, before any others. -/
def Extends (r r' : Report) : Prop :=
  ∀ (n : Nat) (t : Test), r.tests[n]? = some t →
    ∃ t' : Test, r'.tests[n]? = some t' ∧ t'.name = t.name ∧ t.iterations <+: t'.iterations

theorem Extends.refl (r : Report) : r.Extends r :=
  fun _ t h => ⟨t, h, rfl, List.prefix_rfl⟩

theorem Extends.trans (h : r.Extends r') (h' : r'.Extends r'') : r.Extends r'' := by
  intro n t ht
  obtain ⟨t', ht', hn, hp⟩ := h n t ht
  obtain ⟨t'', ht'', hn', hp'⟩ := h' n t' ht'
  exact ⟨t'', ht'', hn'.trans hn, hp.trans hp'⟩

theorem Adds.extends (h : r.Adds name i r') : r.Extends r' := by
  intro n t ht
  cases h with
  | amended before known after was _ becomes =>
    rw [was] at ht
    rw [becomes]
    rcases Nat.lt_trichotomy n before.length with hlt | rfl | hgt
    · rw [List.getElem?_append_left hlt] at ht ⊢
      exact ⟨t, ht, rfl, List.prefix_rfl⟩
    · simp only [List.getElem?_append_right (Nat.le_refl _), Nat.sub_self, List.getElem?_cons_zero,
        Option.some.injEq] at ht ⊢
      exact ⟨_, rfl, by rw [← ht], by rw [← ht]; exact List.prefix_append _ _⟩
    · rw [List.getElem?_append_right (Nat.le_of_lt hgt)] at ht ⊢
      obtain ⟨m, hm⟩ : ∃ m, n - before.length = m + 1 := ⟨n - before.length - 1, by omega⟩
      rw [hm, List.getElem?_cons_succ] at ht ⊢
      exact ⟨t, ht, rfl, List.prefix_rfl⟩
  | created _ _ becomes =>
    have hlt := (List.getElem?_eq_some_iff.1 ht).1
    exact ⟨t, by rw [becomes, List.getElem?_append_left hlt, ht], rfl, List.prefix_rfl⟩

/-- The report of stages and their acknowledgements, one after the other. -/
def ofStages (calls : List (Stage × Acknowledgements)) : Report :=
  calls.foldl (fun r e => (aggregate e.1 e.2 r).2) empty

theorem ofStages_append (calls more : List (Stage × Acknowledgements)) :
    ofStages (calls ++ more) = more.foldl (fun r e => (aggregate e.1 e.2 r).2) (ofStages calls) :=
  List.foldl_append

end Report

/-- One stage keeps a report well formed, and everything in it. -/
theorem aggregate_grows (stage : Stage) (acks : Acknowledgements) (r : Report) :
    (r.WellFormed → (aggregate stage acks r).2.WellFormed) ∧
      r.Extends (aggregate stage acks r).2 := by
  obtain ⟨-, same⟩ | ⟨test, i, -, -, adds, fill⟩ := aggregate_cases stage acks r
  · rw [same]
    exact ⟨id, .refl r⟩
  · have named : i.Named := (StageKind.fills fill).named nofun
    exact ⟨fun wf => wf.adds adds named, adds.extends⟩

theorem foldl_aggregate_grows (calls : List (Stage × Acknowledgements)) (r : Report) :
    (r.WellFormed → (calls.foldl (fun r e => (aggregate e.1 e.2 r).2) r).WellFormed) ∧
      r.Extends (calls.foldl (fun r e => (aggregate e.1 e.2 r).2) r) := by
  induction calls generalizing r with
  | nil => exact ⟨id, .refl r⟩
  | cons e rest ih =>
    obtain ⟨wf, ext⟩ := aggregate_grows e.1 e.2 r
    obtain ⟨wf', ext'⟩ := ih (aggregate e.1 e.2 r).2
    exact ⟨wf' ∘ wf, ext.trans ext'⟩

/-- What aggregating a stage does to a report: nothing, exactly if the stage is not recorded or
recording it fails; otherwise it adds one iteration to the test that the stage names. -/
structure Report.Records (stage : Stage) (acks : Acknowledgements) (r r' : Report) : Prop where
  failed : stage.Unrecordable acks r ↔ ∃ e, record? stage acks r = .error e
  unchanged : r' = r ↔ stage.Unrecorded ∨ stage.Unrecordable acks r
  changed : r' ≠ r → ∃ test i, stage.kind.test? = some test ∧ r.Adds test.name i r' ∧
    i.stage = stage.name

theorem aggregate_records (stage : Stage) (acks : Acknowledgements) (r : Report) :
    r.Records stage acks (aggregate stage acks r).2 := by
  obtain ⟨why, same⟩ | ⟨test, i, ht, recorded, adds, fill⟩ := aggregate_cases stage acks r
  · exact ⟨record?_error_iff.symm, iff_of_true same why, fun h => absurd same h⟩
  · refine ⟨record?_error_iff.symm, iff_of_false adds.ne ?_,
      fun _ => ⟨test, i, ht, adds, (StageKind.fills fill).stage⟩⟩
    rintro (unrecorded | unrecordable)
    · simp [unrecorded test ht] at recorded
    · obtain ⟨e, he⟩ := record?_error_iff.2 unrecordable
      exact adds.ne (by simp [aggregate, he])

/-- **Growth of reports.**  After any stages the report is well formed; every stage leaves it as it
is or adds one iteration; and whatever stages follow, all that is in it stays. -/
theorem aggregate_run_grows (calls : List (Stage × Acknowledgements)) :
    (Report.ofStages calls).WellFormed ∧
    (∀ stage acks, (Report.ofStages calls).Records stage acks
      (Report.ofStages (calls ++ [(stage, acks)]))) ∧
    ∀ more, (Report.ofStages calls).Extends (Report.ofStages (calls ++ more)) := by
  refine ⟨(foldl_aggregate_grows calls .empty).1 .empty, fun stage acks => ?_, fun more => ?_⟩
  · rw [Report.ofStages_append]
    exact aggregate_records stage acks _
  · rw [Report.ofStages_append]
    exact (foldl_aggregate_grows more _).2

end LoadFleet
