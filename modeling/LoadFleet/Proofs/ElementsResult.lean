import LoadFleet.Proofs.Enforcement
import LoadFleet.Proofs.PassAccounts
import LoadFleet.Proofs.PassReport
import Mathlib.Data.Set.Insert
import Mathlib.Data.Set.Lattice
/-!
# The numbers of entries, checked and reported

The numbers of entries that stressors found are looked at twice.  The check walks over the
stressors and compares each with the first one that has a range.  The report joins the ranges of
each worker, and then those of all workers.  Where no range is upside down both come to the same:
the report has something suspicious to show exactly if the check has something to say.

* `ElementRange.Spans`: a range goes from the least number of a set of ranges to the greatest.
* `ElementRange.joinAll?_eq_some_iff`: the join of a list spans it.
* `Acknowledgements.seen`, `Acknowledgements.seenBy`: the ranges of all results that have one.
* `mem_workerRanges`: what is joined of a worker spans what the worker saw.
* `Spans.exact_iff`: the span is a single number exactly if all ranges are that number.
* `messagesAbout_sublist`: what a check says is a failure or a warning.
* `aggregate_elements`: the main statement.
-/

namespace LoadFleet

namespace ElementRange

/-! ### Spans -/

/-- The range goes from the least number of the ranges of a set to the greatest. -/
structure Spans (all : ElementRange) (s : Set ElementRange) : Prop where
  least : IsLeast (ElementRange.least '' s) all.least
  greatest : IsGreatest (ElementRange.greatest '' s) all.greatest

namespace Spans

variable {a b all : ElementRange} {s : Set ElementRange}

theorem nonempty (h : all.Spans s) : s.Nonempty := by
  obtain ⟨r, hr, -⟩ := h.least.1
  exact ⟨r, hr⟩

theorem unique (h : a.Spans s) (h' : b.Spans s) : a = b := by
  obtain ⟨least, greatest⟩ := a
  obtain ⟨least', greatest'⟩ := b
  have low : least = least' := UInt64.le_antisymm (h.least.2 h'.least.1) (h'.least.2 h.least.1)
  have high : greatest = greatest' :=
    UInt64.le_antisymm (h'.greatest.2 h.greatest.1) (h.greatest.2 h'.greatest.1)
  rw [low, high]

theorem singleton (r : ElementRange) : r.Spans {r} := by
  constructor
  · rw [Set.image_singleton]
    exact ⟨rfl, fun _ hn => UInt64.le_of_eq (Eq.symm hn)⟩
  · rw [Set.image_singleton]
    exact ⟨rfl, fun _ hn => UInt64.le_of_eq hn⟩

/-- Joining one more range. -/
theorem join (h : all.Spans s) (r : ElementRange) : (all.join r).Spans (insert r s) := by
  constructor
  · rw [Set.image_insert_eq]
    exact Iterate.isLeast_insert h.least r.least
  · rw [Set.image_insert_eq]
    exact Iterate.isGreatest_insert h.greatest r.greatest

/-- Joining a list of further ranges. -/
theorem foldl_join (h : all.Spans s) (l : List ElementRange) :
    (l.foldl ElementRange.join all).Spans (s ∪ {r | r ∈ l}) := by
  induction l generalizing all s with
  | nil => simpa using h
  | cons r rest ih =>
    have same : s ∪ {x | x ∈ r :: rest} = insert r s ∪ {x | x ∈ rest} := by
      ext x
      simp [or_left_comm, or_assoc]
    rw [same]
    exact ih (h.join r)

/-- The span of spans is the span of everything in them. -/
theorem iUnion {W : Type} {s : W → Set ElementRange}
    (h : all.Spans {own | ∃ w, own.Spans (s w)})
    (each : ∀ w, (s w).Nonempty → ∃ own : ElementRange, own.Spans (s w)) :
    all.Spans (⋃ w, s w) := by
  constructor
  · obtain ⟨own, ⟨w, spans⟩, same⟩ := h.least.1
    obtain ⟨r, hr, least⟩ := spans.least.1
    refine ⟨⟨r, Set.mem_iUnion.2 ⟨w, hr⟩, least.trans same⟩, ?_⟩
    rintro _ ⟨r, hr, rfl⟩
    obtain ⟨w, hr⟩ := Set.mem_iUnion.1 hr
    obtain ⟨own, spans⟩ := each w ⟨r, hr⟩
    exact UInt64.le_trans (h.least.2 ⟨own, ⟨w, spans⟩, rfl⟩) (spans.least.2 ⟨r, hr, rfl⟩)
  · obtain ⟨own, ⟨w, spans⟩, same⟩ := h.greatest.1
    obtain ⟨r, hr, greatest⟩ := spans.greatest.1
    refine ⟨⟨r, Set.mem_iUnion.2 ⟨w, hr⟩, greatest.trans same⟩, ?_⟩
    rintro _ ⟨r, hr, rfl⟩
    obtain ⟨w, hr⟩ := Set.mem_iUnion.1 hr
    obtain ⟨own, spans⟩ := each w ⟨r, hr⟩
    exact UInt64.le_trans (spans.greatest.2 ⟨r, hr, rfl⟩) (h.greatest.2 ⟨own, ⟨w, spans⟩, rfl⟩)

/-- Where no range is upside down, the span is a single number exactly if all ranges are that
number: every range lies within the span. -/
theorem exact_iff (h : all.Spans s) (upright : ∀ r ∈ s, r.least ≤ r.greatest) :
    all.least = all.greatest ↔ ∃ n, ∀ r ∈ s, r.isExactly n := by
  simp only [isExactly, Bool.and_eq_true, decide_eq_true_eq]
  constructor
  · intro single
    refine ⟨all.least, fun r hr => ?_⟩
    have low : all.least ≤ r.least := h.least.2 ⟨r, hr, rfl⟩
    have high : r.greatest ≤ all.least := single ▸ h.greatest.2 ⟨r, hr, rfl⟩
    have within := upright r hr
    exact ⟨UInt64.le_antisymm (UInt64.le_trans within high) low,
      UInt64.le_antisymm high (UInt64.le_trans low within)⟩
  · rintro ⟨n, exactly⟩
    obtain ⟨r, hr, least⟩ := h.least.1
    obtain ⟨r', hr', greatest⟩ := h.greatest.1
    rw [← least, ← greatest, (exactly r hr).1, (exactly r' hr').2]

end Spans

theorem joinAll?_eq_none_iff {l : List ElementRange} : joinAll? l = none ↔ l = [] := by
  cases l <;> simp [joinAll?]

theorem joinAll?_eq_some_iff {l : List ElementRange} {all : ElementRange} :
    joinAll? l = some all ↔ all.Spans {r | r ∈ l} := by
  have spans {all : ElementRange} (h : joinAll? l = some all) : all.Spans {r | r ∈ l} := by
    cases l with
    | nil => cases h
    | cons r rest =>
      cases h
      have same : {x | x ∈ r :: rest} = {r} ∪ {x | x ∈ rest} := Set.ext fun _ => List.mem_cons
      rw [same]
      exact (Spans.singleton r).foldl_join rest
  refine ⟨spans, fun h => ?_⟩
  cases joined : joinAll? l with
  | none =>
    obtain ⟨r, hr⟩ := h.nonempty
    rw [joinAll?_eq_none_iff.1 joined] at hr
    cases hr
  | some other => rw [(spans joined).unique h]

end ElementRange

/-! ### What workers saw -/

namespace Acknowledgements

variable {acks : Acknowledgements} {worker : WorkerIndex}

/-- The ranges of the results of a worker that have both bounds. -/
def seenBy (acks : Acknowledgements) (worker : WorkerIndex) : Set ElementRange :=
  {range | ∃ results size, acks.Iterated worker results size ∧
    ∃ r ∈ results, r.minElements = some range.least ∧ r.maxElements = some range.greatest}

/-- The ranges of the results of all workers that have both bounds. -/
def seen (acks : Acknowledgements) : Set ElementRange := ⋃ worker, acks.seenBy worker

theorem Iterated.unique {results results' : List IterationResult} {size size' : Option UInt64}
    (h : acks.Iterated worker results size) (h' : acks.Iterated worker results' size') :
    results = results' := by
  obtain ⟨ack, found, payload⟩ := h
  obtain ⟨ack', found', payload'⟩ := h'
  cases found.symm.trans found'
  cases payload.symm.trans payload'
  rfl

theorem Iterated.seenBy_eq {results : List IterationResult} {size : Option UInt64}
    (h : acks.Iterated worker results size) :
    acks.seenBy worker = {range | range ∈ results.filterMap IterationResult.range?} := by
  ext range
  simp only [seenBy, Set.mem_ofPred_eq, List.mem_filterMap, IterationResult.range?_eq_some_iff]
  constructor
  · rintro ⟨results', size', h', there⟩
    exact h.unique h' ▸ there
  · exact fun there => ⟨results, size, h, there⟩

/-- There is no uneven number to tell of exactly if one number is all that was seen. -/
theorem respects_evenElements_iff_seen :
    Respects (iterationFindings acks) .evenElements ↔ ∃ n, ∀ range ∈ acks.seen,
      range.isExactly n := by
  rw [respects_evenElements]
  refine exists_congr fun n => ?_
  simp only [seen, seenBy, Set.mem_iUnion, Set.mem_ofPred_eq, IterationResult.counts_iff,
    IterationResult.range?_eq_some_iff]
  constructor
  · rintro h range ⟨worker, results, size, iterated, r, hr, bounds⟩
    exact h worker results size iterated r hr range bounds
  · intro h worker results size iterated r hr range bounds
    exact h range ⟨worker, results, size, iterated, r, hr, bounds⟩

end Acknowledgements

section

variable {acks : Acknowledgements} {worker : WorkerIndex}

/-- What is joined of a worker spans what the worker saw, and nothing is joined of a worker that
saw nothing. -/
theorem mem_workerRanges {own : ElementRange} :
    (worker, own) ∈ workerRanges acks ↔ own.Spans (acks.seenBy worker) := by
  simp only [workerRanges, List.mem_filterMap, Option.map_eq_some_iff, Prod.exists, Prod.mk.injEq]
  constructor
  · rintro ⟨w, results, size, there, joined, spans, rfl, rfl⟩
    rw [(Acknowledgements.mem_iterations.1 there).seenBy_eq]
    exact ElementRange.joinAll?_eq_some_iff.1 spans
  · intro spans
    obtain ⟨-, results, size, iterated, -⟩ := spans.nonempty
    rw [iterated.seenBy_eq] at spans
    exact ⟨worker, results, size, Acknowledgements.mem_iterations.2 iterated, own,
      ElementRange.joinAll?_eq_some_iff.2 spans, rfl, rfl⟩

theorem exists_spans_seenBy (h : (acks.seenBy worker).Nonempty) :
    ∃ own : ElementRange, own.Spans (acks.seenBy worker) := by
  obtain ⟨range, results, size, iterated, r, hr, bounds⟩ := h
  rw [iterated.seenBy_eq]
  cases joined : ElementRange.joinAll? (results.filterMap IterationResult.range?) with
  | some own => exact ⟨own, ElementRange.joinAll?_eq_some_iff.1 joined⟩
  | none =>
    have there : range ∈ results.filterMap IterationResult.range? :=
      List.mem_filterMap.2 ⟨r, hr, IterationResult.range?_eq_some_iff.2 bounds⟩
    rw [ElementRange.joinAll?_eq_none_iff.1 joined] at there
    cases there

/-- No worker has two ranges. -/
theorem nodup_workerRanges (acks : Acknowledgements) : ((workerRanges acks).map (·.1)).Nodup := by
  refine acks.nodup_iterations.sublist (sublist_filterMap_keys ?_ acks.iterations)
  rintro ⟨worker, results, size⟩ kept found
  obtain ⟨own, -, rfl⟩ := Option.map_eq_some_iff.1 found
  rfl

/-! ### The result -/

/-- A result shows the ranges that were seen: for all workers together from the least number to the
greatest, and for each worker that saw some the same of its own. -/
structure TestResult.Shows (acks : Acknowledgements) (r : TestResult) : Prop where
  name : r.name = elementsName
  aggregated : ∃ all : ElementRange, all.Spans acks.seen ∧ r.aggregated = all.text
  known : ∀ worker, (∃ v, r.workers.find? worker = some v) ↔ (acks.seenBy worker).Nonempty
  each : ∀ worker v, r.workers.find? worker = some v →
    ∃ own : ElementRange, own.Spans (acks.seenBy worker) ∧ v.value = own.text ∧
      (v.suspicious = true ↔ own.least ≠ own.greatest)

theorem joinAll?_workerRanges {all : ElementRange}
    (h : ElementRange.joinAll? ((workerRanges acks).map (·.2)) = some all) :
    all.Spans acks.seen := by
  refine .iUnion ?_ fun worker => exists_spans_seenBy
  have same : {own | ∃ worker, own.Spans (acks.seenBy worker)} =
      {own | own ∈ (workerRanges acks).map (·.2)} := by
    ext own
    simp [← mem_workerRanges]
  rw [same]
  exact ElementRange.joinAll?_eq_some_iff.1 h

/-- There is a result exactly if something was seen. -/
theorem elementsResult?_eq_none_iff : elementsResult? acks = none ↔ acks.seen = ∅ := by
  rw [elementsResult?, Option.map_eq_none_iff, ElementRange.joinAll?_eq_none_iff,
    List.map_eq_nil_iff, Acknowledgements.seen, Set.iUnion_eq_empty]
  constructor
  · intro none worker
    by_contra some
    obtain ⟨own, spans⟩ := exists_spans_seenBy (Set.nonempty_iff_ne_empty.2 some)
    rw [← mem_workerRanges, none] at spans
    cases spans
  · intro nothing
    refine List.eq_nil_iff_forall_not_mem.2 ?_
    rintro ⟨worker, own⟩ there
    exact (mem_workerRanges.1 there).nonempty.ne_empty (nothing worker)

theorem elementsResult?_shows {r : TestResult} (h : elementsResult? acks = some r) :
    r.Shows acks := by
  obtain ⟨all, joined, rfl⟩ := Option.map_eq_some_iff.1 h
  have found (worker : WorkerIndex) (v : WorkerResult) :
      (OrderedMap.ofList ((workerRanges acks).map fun e => (e.1, e.2.toResult))).find?
        worker = some v ↔
      ∃ own : ElementRange, own.Spans (acks.seenBy worker) ∧ v = own.toResult := by
    rw [OrderedMap.find?_ofList_iff]
    · simp [mem_workerRanges, eq_comm]
    · rw [List.map_map]
      exact nodup_workerRanges acks
  refine ⟨rfl, ⟨all, joinAll?_workerRanges joined, rfl⟩, fun worker => ?_, fun worker v hv => ?_⟩
  · constructor
    · rintro ⟨v, hv⟩
      obtain ⟨own, spans, -⟩ := (found worker v).1 hv
      exact spans.nonempty
    · intro some
      obtain ⟨own, spans⟩ := exists_spans_seenBy some
      exact ⟨own.toResult, (found worker _).2 ⟨own, spans, rfl⟩⟩
  · obtain ⟨own, spans, rfl⟩ := (found worker v).1 hv
    exact ⟨own, spans, rfl, by simp [ElementRange.toResult]⟩

/-- The result is suspicious exactly if there is an uneven number to tell of.  What the workers'
own ranges add is in the range of all. -/
theorem elementsResult?_suspicious_iff (upright : ∀ range ∈ acks.seen, range.least ≤ range.greatest)
    {r : TestResult} (h : elementsResult? acks = some r) :
    r.suspicious = true ↔ ¬ Respects (iterationFindings acks) .evenElements := by
  obtain ⟨all, joined, rfl⟩ := Option.map_eq_some_iff.1 h
  have spans := joinAll?_workerRanges joined
  rw [Acknowledgements.respects_evenElements_iff_seen, ← spans.exact_iff upright, ← ne_eq]
  simp only [Bool.or_eq_true, List.any_eq_true, decide_eq_true_eq, or_iff_right_iff_imp]
  rintro ⟨⟨worker, own⟩, there, differ⟩ single
  obtain ⟨n, exactly⟩ := (spans.exact_iff upright).1 single
  have part : acks.seenBy worker ⊆ acks.seen := Set.subset_iUnion acks.seenBy worker
  refine differ (((mem_workerRanges.1 there).exact_iff fun range hr => upright range (part hr)).2
    ⟨n, fun range hr => exactly range (part hr)⟩)

/-- Ranges that are upside down may cancel out in a join. -/
example :
    let result (least greatest : UInt64) : IterationResult :=
      ⟨.empty .basic, some least, some greatest, none⟩
    let acks : Acknowledgements :=
      .ofList [(0, .success 0 .zero (.iteration [result 5 5, result 7 3] none))]
    (elementsResult? acks).map (·.suspicious) = some false ∧
      (iterationFindings acks).any (·.rule = .evenElements) = true := by decide

end

/-! ### What the check says -/

/-- The messages of the findings about a rule. -/
def messagesAbout (rule : Rule) (findings : List Finding) : List String :=
  (findings.filter fun f => f.rule = rule).map (·.message)

theorem messagesAbout_eq_nil_iff {rule : Rule} {findings : List Finding} :
    messagesAbout rule findings = [] ↔ Respects findings rule := by
  simp [messagesAbout, Respects]

/-- Everything that is said about a rule is a failure of the stage if the stage enforces the rule,
and a warning if it does not. -/
theorem messagesAbout_sublist (stage : Stage) (acks : Acknowledgements) (report : Report)
    (rule : Rule) :
    (messagesAbout rule (stage.kind.findings acks)).Sublist
      (if stage.kind.enforces rule then (aggregate stage acks report).1.failures
        else (aggregate stage acks report).1.warnings) := by
  split
  · next enforced =>
    rw [aggregate_failures]
    refine .trans (.map _ (List.monotone_filter_right _ fun f about => ?_))
      ((List.sublist_append_right _ _).trans (List.sublist_append_left _ _))
    rwa [of_decide_eq_true about]
  · next ignored =>
    rw [aggregate_warnings]
    refine .map _ (List.monotone_filter_right _ fun f about => ?_)
    rw [of_decide_eq_true about]
    simpa using ignored

/-! ### Both together -/

/-- What an iteration tells of the numbers of entries goes with the outcome of its stage. -/
structure IterateSettings.TellsAlike (settings : IterateSettings) (acks : Acknowledgements)
    (outcome : StageOutcome) (i : TestIteration) : Prop where
  /-- There is a result exactly if some result of some worker has both bounds. -/
  has : (∃ r, i.results.find? elementsName = some r) ↔ acks.seen.Nonempty
  shows : ∀ r, i.results.find? elementsName = some r → r.Shows acks
  /-- It is suspicious exactly if the check of uneven numbers has something to say. -/
  suspicious : ∀ r, i.results.find? elementsName = some r →
    (r.suspicious = true ↔ messagesAbout .evenElements (iterationFindings acks) ≠ [])
  /-- It has nothing to say exactly if one number is all that was seen, or nothing was. -/
  even : messagesAbout .evenElements (iterationFindings acks) = [] ↔
    ∃ n, ∀ range ∈ acks.seen, range.isExactly n
  /-- What the check says is told as failures or as warnings. -/
  told : (messagesAbout .evenElements (iterationFindings acks)).Sublist
    (if settings.failOnUnevenElements then outcome.failures else outcome.warnings)

/-- The result that an iteration has of the numbers of entries. -/
theorem find?_elementsName {test : String} {acks : Acknowledgements} {i j : TestIteration}
    (statistics : i.statistics = .empty) (results : i.results = .empty)
    (fill : fillIteration? test acks i = .ok j) :
    j.results.find? elementsName = elementsResult? acks := by
  rw [(fillIteration?_eq_ok statistics results fill).2]
  cases made : elementsResult? acks with
  | none => rfl
  | some r =>
    rw [Option.elim_some, OrderedMap.find?_ofList_iff (by simp),
      ← (elementsResult?_shows made).name]
    exact .head _

/-- **Elements.**  An iteration that is recorded has a result about the numbers of entries exactly
if some result of some worker has both bounds.  It shows the least number and the greatest, of all
workers and of each.  It is suspicious exactly if the check of uneven numbers has something to say,
which is told as failures or as warnings, and that is so unless one number is all that was seen. -/
theorem aggregate_elements {stage : Stage} {settings : IterateSettings} {acks : Acknowledgements}
    {report recorded : Report} (kind : stage.kind = .iterate settings)
    (isRecorded : settings.test.isRecorded = true)
    (upright : ∀ range ∈ acks.seen, range.least ≤ range.greatest)
    (ok : record? stage acks report = .ok recorded) :
    (aggregate stage acks report).2 = recorded ∧ ∃ i, report.Adds settings.test.name i recorded ∧
      settings.TellsAlike acks (aggregate stage acks report).1 i := by
  have same : (aggregate stage acks report).2 = recorded := by
    rw [aggregate_report, ok]
  refine ⟨same, ?_⟩
  obtain ⟨i, adds, fill⟩ : ∃ i, report.Adds settings.test.name i recorded ∧
      fillIteration? settings.test.name acks ⟨i.index, stage.name, .empty, .empty⟩ = .ok i := by
    have test : stage.kind.test? = some settings.test := by
      rw [kind]
      rfl
    obtain ⟨unrecorded | unrecordable, -⟩ | ⟨_, i, known, -, adds, fill⟩ :=
      aggregate_cases stage acks report
    · rw [unrecorded _ test] at isRecorded
      cases isRecorded
    · obtain ⟨e, failed⟩ := record?_error_iff.2 unrecordable
      cases ok.symm.trans failed
    · cases test.symm.trans known
      rw [kind] at fill
      exact ⟨i, same ▸ adds, fill⟩
  have found := find?_elementsName rfl rfl fill
  refine ⟨i, adds, ?_, fun r hr => ?_, fun r hr => ?_, ?_, ?_⟩
  · rw [found, ← Option.isSome_iff_exists, Option.isSome_iff_ne_none, ne_eq,
      elementsResult?_eq_none_iff, Set.nonempty_iff_ne_empty]
  · exact elementsResult?_shows (found ▸ hr)
  · rw [ne_eq, messagesAbout_eq_nil_iff]
    exact elementsResult?_suspicious_iff upright (found ▸ hr)
  · exact messagesAbout_eq_nil_iff.trans Acknowledgements.respects_evenElements_iff_seen
  · have told := messagesAbout_sublist stage acks report .evenElements
    rw [kind] at told
    exact told

/-- Of three workers one has a stressor without completed passes, one has no other, and one found
an entry more: the result is suspicious. -/
theorem aggregate_elements_three :
    let settings : IterateSettings := {}
    let stage : Stage := { name := "iterate", kind := .iterate settings }
    let result (n : Option UInt64) : IterationResult := ⟨.empty .basic, n, n, none⟩
    let ack (worker : WorkerIndex) (results : List IterationResult) : Acknowledgement :=
      .success worker .zero (.iteration results none)
    let acks : Acknowledgements :=
      .ofList [(0, ack 0 [result none, result (some 10)]), (1, ack 1 [result none]),
        (2, ack 2 [result (some 11)])]
    settings.test.isRecorded = true ∧ (∀ range ∈ acks.seen, range.least ≤ range.greatest) ∧
      ∃ recorded i r, record? stage acks .empty = .ok recorded ∧
        Report.empty.Adds settings.test.name i recorded ∧
        i.results.find? elementsName = some r ∧ r.Shows acks ∧ r.suspicious = true := by
  intro settings stage result ack acks
  have each : acks.iterations = [(0, [result none, result (some 10)], none),
      (1, [result none], none), (2, [result (some 11)], none)] := rfl
  have upright : ∀ range ∈ acks.seen, range.least ≤ range.greatest := by
    intro range there
    obtain ⟨worker, results, size, iterated, r, hr, least, greatest⟩ := Set.mem_iUnion.1 there
    have same : r.minElements = r.maxElements := by
      have entry := Acknowledgements.mem_iterations.2 iterated
      simp only [each, List.mem_cons, Prod.mk.injEq, List.not_mem_nil, or_false] at entry
      obtain ⟨-, rfl, -⟩ | ⟨-, rfl, -⟩ | ⟨-, rfl, -⟩ := entry <;>
        simp only [List.mem_cons, List.not_mem_nil, or_false] at hr
      · obtain rfl | rfl := hr <;> rfl
      · rw [hr]
      · rw [hr]
    rw [same, greatest, Option.some.injEq] at least
    exact UInt64.le_of_eq least.symm
  have recordable : (record? stage acks .empty).isOk = true := by decide
  obtain ⟨recorded, ok⟩ : ∃ recorded, record? stage acks .empty = .ok recorded := by
    cases made : record? stage acks .empty with
    | ok recorded => exact ⟨recorded, rfl⟩
    | error e => simp [made, Except.isOk, Except.toBool] at recordable
  obtain ⟨-, i, adds, alike⟩ := aggregate_elements rfl (by decide) upright ok
  have uneven : messagesAbout .evenElements (iterationFindings acks) ≠ [] := by decide
  have some : acks.seen.Nonempty := by
    by_contra none
    exact uneven (alike.even.2 ⟨0, fun range there => absurd ⟨range, there⟩ none⟩)
  obtain ⟨r, found⟩ := alike.has.2 some
  exact ⟨by decide, upright, recorded, i, r, ok, adds, found, alike.shows r found,
    (alike.suspicious r found).2 uneven⟩

end LoadFleet
