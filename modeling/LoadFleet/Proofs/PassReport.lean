import LoadFleet.Proofs.ReportGrowth
import LoadFleet.Proofs.Verdict
import LoadFleet.Proofs.WholePasses
/-!
# The report of an iteration

When all stressors of all workers found the same number of entries, an iteration passes, and what
the report gets of it can be told ahead: the statistics of each stressor, the number of requests of
all of them together, and a result that reads the number of entries everywhere.

* `Statistics.CountsPasses`: what statistics count of passes over entries.
* `Statistics.Tally.mergeAll`: statistics of the same requests, merged.
* `fillIteration?_eq_ok`: what an iteration is filled with.
* `TestIteration.Tells`: what an iteration tells of passes over entries.
* `Iterate.Confirms`: the acknowledgement of a worker that found some number of entries.
* `Iterate.Agreed`: the acknowledgements of workers that all confirm the same number.
* `Iterate.Agreed.passed`, `Iterate.Agreed.tells`: the main statements.
-/

namespace LoadFleet

namespace Iterate

/-! ### The number of requests -/

theorem wholeLog_replicate (entries passes n : Nat) :
    (List.replicate n (wholeLog entries passes)).flatten = wholeLog entries (n * passes) := by
  rw [wholeLog, wholeLog, ← List.flatten_replicate_replicate, List.flatten_flatten,
    List.map_replicate]

theorem count_wholeLog (entries passes : Nat) (name : String) :
    (wholeLog entries passes).count name = passes * (passLog entries).count name := by
  rw [wholeLog, List.count_flatten, List.map_replicate, List.sum_replicate, smul_eq_mul]

theorem count_stepLog (entries : Nat) (name : String) :
    (stepLog entries).count name = entries * [hasNext, next].count name := by
  rw [stepLog, List.count_flatten, List.map_replicate, List.sum_replicate, smul_eq_mul]

theorem count_passLog (entries : Nat) (name : String) :
    (passLog entries).count name = [getIterator].count name +
      entries * [hasNext, next].count name + [hasNext, fullLoop].count name := by
  rw [passLog, ← List.singleton_append, List.append_assoc, List.count_append, List.count_append,
    count_stepLog, Nat.add_assoc]

theorem count_fullLoop (entries passes : Nat) :
    (wholeLog entries passes).count fullLoop = passes := by
  simp [count_wholeLog, count_passLog, show [getIterator].count fullLoop = 0 from rfl,
    show [hasNext, next].count fullLoop = 0 from rfl,
    show [hasNext, fullLoop].count fullLoop = 1 from rfl]

theorem count_getIterator (entries passes : Nat) :
    (wholeLog entries passes).count getIterator = passes := by
  simp [count_wholeLog, count_passLog, show [hasNext, next].count getIterator = 0 from rfl,
    show [hasNext, fullLoop].count getIterator = 0 from rfl]

theorem count_next (entries passes : Nat) :
    (wholeLog entries passes).count next = passes * entries := by
  simp [count_wholeLog, count_passLog, show [getIterator].count next = 0 from rfl,
    show [hasNext, next].count next = 1 from rfl,
    show [hasNext, fullLoop].count next = 0 from rfl]

theorem count_hasNext (entries passes : Nat) :
    (wholeLog entries passes).count hasNext = passes * (entries + 1) := by
  simp [count_wholeLog, count_passLog, show [getIterator].count hasNext = 0 from rfl,
    show [hasNext, next].count hasNext = 1 from rfl,
    show [hasNext, fullLoop].count hasNext = 1 from rfl]

/-- The operation that is requested most often asks whether there is another entry. -/
theorem count_wholeLog_le (entries passes : Nat) (name : String) :
    (wholeLog entries passes).count name ≤ passes * (entries + 1) := by
  have ends : [getIterator].count name + [hasNext, fullLoop].count name ≤ 1 := by
    rw [← List.count_append]
    exact List.nodup_iff_count.1 (by decide) name
  have steps : [hasNext, next].count name ≤ 1 := List.nodup_iff_count.1 (by decide) name
  rw [count_wholeLog, count_passLog]
  refine Nat.mul_le_mul_left _ ?_
  have := Nat.mul_le_mul_left entries steps
  omega

theorem mem_wholeLog {entries passes : Nat} (some : passes ≠ 0) (name : String) :
    name ∈ wholeLog entries passes ↔ name = fullLoop ∨ name = getIterator ∨ name = hasNext ∨
      name = next ∧ entries ≠ 0 := by
  have steps : name ∈ stepLog entries ↔ entries ≠ 0 ∧ (name = hasNext ∨ name = next) := by
    simp [stepLog]
  have pass : name ∈ passLog entries ↔
      name = getIterator ∨ name ∈ stepLog entries ∨ name = hasNext ∨ name = fullLoop := by
    simp [passLog]
  have whole : name ∈ wholeLog entries passes ↔ name ∈ passLog entries := by
    simp [wholeLog, some]
  rw [whole, pass, steps]
  grind

end Iterate

/-! ### Statistics together -/

namespace Statistics

/-- Statistics of stressors that made the same requests are together those of all these requests, as
long as words count them. -/
theorem Tally.mergeAll {kind : StatsKind} {log : List String} {l : List RunStatistics}
    (any : l ≠ []) (all : ∀ s ∈ l, Tally kind log s)
    (few : ∀ name, l.length * log.count name < 2 ^ 64) :
    ∃ total, Statistics.mergeAll l = .ok (some total) ∧
      Tally kind (List.replicate l.length log).flatten total := by
  have positive : 0 < l.length := List.length_pos_of_ne_nil any
  have requests (name : String) : (l.map fun s => (s.requestsOf name).toNat) =
      List.replicate l.length (log.count name) := by
    refine List.map_eq_replicate_iff.2 fun s hs => ?_
    have small : log.count name < 2 ^ 64 :=
      Nat.lt_of_le_of_lt (Nat.le_mul_of_pos_left _ positive) (few name)
    rw [(all s hs).requests]
    simpa using small
  have errors (name : String) : (l.map fun s => (s.errorsOf name).toNat) =
      List.replicate l.length 0 :=
    List.map_eq_replicate_iff.2 fun s hs => by rw [(all s hs).errors]; rfl
  have fits : FitTogether l := fun name => by
    rw [requests, errors, List.sum_replicate, List.sum_replicate, smul_eq_mul, smul_zero]
    exact ⟨Nat.le_of_lt_succ (few name), Nat.zero_le _⟩
  obtain ⟨u, merges, merged⟩ := (mergeAll_of_kind fun s hs =>
    ⟨(all s hs).uniform, (all s hs).like⟩).1 (fits_sum_iff.2 fits)
  cases u with
  | none => exact absurd (merged.none.1 rfl) any
  | some total =>
    have like := merged.kind total rfl
    have totals : Totals l total := .of_figures any
      (fun s hs => (all s hs).like.trans like.symm) (by simpa using merged.figures)
    refine ⟨total, merges, merged.uniform total rfl, like, fun name => ?_, fun name => ?_,
      fun name => ?_⟩
    · have names := totals.names name
      simp only [OrderedMap.mem_keys_iff, ← Option.isSome_iff_exists] at names
      refine names.trans ?_
      have one (s : RunStatistics) (hs : s ∈ l) :
          (s.operations.find? name).isSome = true ↔ name ∈ log := (all s hs).known name
      obtain ⟨s, hs⟩ := List.exists_mem_of_ne_nil l any
      simp only [List.mem_flatten, List.mem_replicate, ne_eq, List.length_eq_zero_iff, any,
        not_false_eq_true, true_and, exists_eq_left]
      exact ⟨fun ⟨s, hs, known⟩ => (one s hs).1 known, fun known => ⟨s, hs, (one s hs).2 known⟩⟩
    · rw [List.count_flatten, List.map_replicate, List.sum_replicate, smul_eq_mul]
      refine UInt64.toNat_inj.1 ((totals.requests name).trans ?_)
      rw [requests, List.sum_replicate, smul_eq_mul]
      simpa using (Nat.mod_eq_of_lt (few name)).symm
    · refine UInt64.toNat_inj.1 ((totals.errors name).trans ?_)
      rw [errors, List.sum_replicate, smul_zero]
      rfl

open Iterate in
/-- Statistics count passes over entries: what was requested how often, and that nothing failed. -/
structure CountsPasses (kind : StatsKind) (entries passes : Nat) (s : RunStatistics) : Prop where
  kind : s.kind = kind
  /-- An operation that was never requested is not told of. -/
  names : ∀ name, name ∈ s.operations.keys ↔ name = fullLoop ∨ name = getIterator ∨
    name = hasNext ∨ name = next ∧ entries ≠ 0
  loops : s.requestsOf fullLoop = passes.toUInt64
  cursors : s.requestsOf getIterator = passes.toUInt64
  steps : s.requestsOf next = (passes * entries).toUInt64
  questions : s.requestsOf hasNext = (passes * (entries + 1)).toUInt64
  errors : ∀ name, s.errorsOf name = 0

theorem Tally.countsPasses {kind : StatsKind} {entries passes : Nat} {s : RunStatistics}
    (tally : s.Tally kind (Iterate.wholeLog entries passes)) (any : passes ≠ 0) :
    s.CountsPasses kind entries passes where
  kind := tally.like
  names name := by
    rw [← Iterate.mem_wholeLog any, ← tally.known, OrderedMap.mem_keys_iff,
      ← Option.isSome_iff_exists]
    rfl
  loops := by rw [tally.requests, Iterate.count_fullLoop]
  cursors := by rw [tally.requests, Iterate.count_getIterator]
  steps := by rw [tally.requests, Iterate.count_next]
  questions := by rw [tally.requests, Iterate.count_hasNext]
  errors := tally.errors

end Statistics

/-! ### Results and statistics by worker -/

namespace ElementRange

/-- Ranges that are all the same are together that range. -/
theorem joinAll?_eq {l : List ElementRange} {r : ElementRange} (any : l ≠ [])
    (same : ∀ other ∈ l, other = r) : joinAll? l = some r := by
  cases l with
  | nil => exact absurd rfl any
  | cons first rest =>
    obtain ⟨rfl, same⟩ := List.forall_mem_cons.1 same
    refine congrArg some ?_
    rw [List.eq_replicate_of_mem same]
    generalize rest.length = n
    induction n with
    | zero => rfl
    | succ n ih => rw [List.replicate_succ, List.foldl_cons, join_self, ih]

end ElementRange

namespace TestIteration

theorem statistics_foldl {l : List (WorkerIndex × List RunStatistics)}
    (distinct : (l.map (·.1)).Nodup) {i : TestIteration}
    (fresh : ∀ e ∈ l, i.statistics.find? e.1 = none) :
    (l.foldl (fun i e => i.addStatistics e.1 e.2) i).statistics =
      l.foldl (fun m e => m.insert e.1 e.2) i.statistics := by
  induction l generalizing i with
  | nil => rfl
  | cons e r ih =>
    obtain ⟨other, distinct⟩ := List.nodup_cons.1 distinct
    obtain ⟨here, fresh⟩ := List.forall_mem_cons.1 fresh
    have added : (i.addStatistics e.1 e.2).statistics = i.statistics.insert e.1 e.2 := by
      simp [addStatistics, here]
    rw [List.foldl_cons, List.foldl_cons, ih distinct, added]
    intro e' he'
    rw [added, OrderedMap.find?_insert, if_neg, fresh e' he']
    intro same
    exact other (List.mem_map.2 ⟨e', he', Std.LawfulEqCmp.eq_of_compare same⟩)

/-- The statistics of workers with the same number of stressors, all of which made the same
requests, are together those of all these requests, as long as words count them. -/
theorem mergedStatistics?_of_each (i : TestIteration) {workers : List WorkerIndex} {threads : Nat}
    {kind : StatsKind} {log : List String} (keys : i.statistics.keys.Perm workers)
    (any : workers ≠ []) (some : 0 < threads)
    (each : ∀ worker stats, i.statistics.find? worker = .some stats →
      stats.length = threads ∧ ∀ s ∈ stats, s.Tally kind log)
    (few : ∀ name, workers.length * threads * log.count name < 2 ^ 64) :
    ∃ all, i.mergedStatistics? = .ok (.some all) ∧
      all.Tally kind (List.replicate (workers.length * threads) log).flatten := by
  have values : ∀ stats ∈ i.statistics.values, stats.length = threads ∧
      ∀ s ∈ stats, s.Tally kind log := by
    intro stats there
    obtain ⟨e, entry, rfl⟩ := List.mem_map.1 there
    exact each e.1 e.2 (OrderedMap.find?_eq_some_iff.2 entry)
  have lengths : i.statistics.values.map List.length =
      List.replicate i.statistics.values.length threads :=
    List.map_eq_replicate_iff.2 fun stats there => (values stats there).1
  have workers_length : i.statistics.values.length = workers.length := by
    rw [← keys.length_eq, OrderedMap.values, OrderedMap.keys, List.length_map, List.length_map]
  have length : i.statistics.values.flatten.length = workers.length * threads := by
    rw [List.length_flatten, lengths, List.sum_replicate, smul_eq_mul, workers_length]
  rw [← length] at few ⊢
  refine Statistics.Tally.mergeAll (List.ne_nil_of_length_pos ?_) (fun s hs => ?_) few
  · rw [length]
    exact Nat.mul_pos (List.length_pos_of_ne_nil any) some
  · obtain ⟨stats, there, hs⟩ := List.mem_flatten.1 hs
    exact (values stats there).2 s hs

end TestIteration

/-- What is kept of a list of entries, each under its key, has keys of the list. -/
theorem sublist_filterMap_keys {K V U : Type} {f : K × V → Option (K × U)}
    (own : ∀ e kept, f e = some kept → kept.1 = e.1) (l : List (K × V)) :
    ((l.filterMap f).map (·.1)).Sublist (l.map (·.1)) := by
  induction l with
  | nil => exact .slnil
  | cons e r ih =>
    cases found : f e with
    | none =>
      rw [List.filterMap_cons_none found]
      exact ih.cons e.1
    | some kept =>
      rw [List.filterMap_cons_some found, List.map_cons, List.map_cons, own e kept found]
      exact ih.cons_cons e.1

/-- No worker has results twice. -/
theorem Acknowledgements.nodup_iterations (acks : Acknowledgements) :
    (acks.iterations.map (·.1)).Nodup := by
  refine acks.nodup_keys.sublist (sublist_filterMap_keys ?_ acks.entries)
  rintro ⟨worker, ack⟩ kept found
  cases payload : ack.payload with
  | iteration =>
    simp only [payload, Option.some.injEq] at found
    rw [← found]
  | none | statistics => simp [payload] at found

/-- An iteration that is filled from an iteration stage has the statistics of each worker that sent
results, and the result that tells the numbers of entries, if there is one. -/
theorem fillIteration?_eq_ok {test : String} {acks : Acknowledgements} {i j : TestIteration}
    (statistics : i.statistics = .empty) (results : i.results = .empty)
    (fill : fillIteration? test acks i = .ok j) :
    j.statistics = .ofList (acks.iterations.map fun e => (e.1, e.2.1.map (·.stats))) ∧
      j.results = (elementsResult? acks).elim .empty fun r => .ofList [(r.name, r)] := by
  have fresh (name : String) :
      (acks.iterations.foldl (fun i e => i.addStatistics e.1 (e.2.1.map (·.stats)))
        i).results.find? name = none :=
    TestIteration.find?_foldl_fresh (fun _ _ => by rfl) results
  rw [fillIteration?, TestIteration.addIfAny?_of_new test fun r _ => fresh r.name] at fill
  cases fill
  constructor
  · have := TestIteration.statistics_foldl (i := i)
      (l := acks.iterations.map fun e => (e.1, e.2.1.map (·.stats)))
      (by simpa [Function.comp_def] using acks.nodup_iterations) (by simp [statistics])
    rw [List.foldl_map, statistics] at this
    exact this
  · dsimp only
    rw [OrderedMap.ext_find? (n := .empty) fresh]
    rfl

/-! ### What is told of passes -/

/-- A result that reads the same for all workers and for all of them together, without trouble. -/
structure TestResult.Reads (workers : List WorkerIndex) (value : String) (r : TestResult) :
    Prop where
  keys : r.workers.keys.Perm workers
  each : ∀ worker v, r.workers.find? worker = some v → v = ⟨value, false⟩
  aggregated : r.aggregated = value
  calm : r.suspicious = false

/-- What an iteration tells of workers with the same number of stressors, all of which made passes
over the same number of entries. -/
structure TestIteration.Tells (workers : List WorkerIndex) (kind : StatsKind)
    (threads passes entries : Nat) (i : TestIteration) : Prop where
  keys : i.statistics.keys.Perm workers
  each : ∀ worker stats, i.statistics.find? worker = some stats →
    stats.length = threads ∧ ∀ s ∈ stats, s.CountsPasses kind entries passes
  /-- A larger number of requests is an overflow. -/
  total : workers.length * threads * passes * (entries + 1) < 2 ^ 64 →
    ∃ all, i.mergedStatistics? = .ok (some all) ∧
      all.CountsPasses kind entries (workers.length * threads * passes)
  elements : ∃ result, i.results.find? elementsName = some result ∧
    result.Reads workers (toString entries.toUInt64)

namespace Iterate

/-- The acknowledgement of a worker whose stressors all found the same number of entries, and which
saw some size of the container. -/
structure Confirms (settings : IterateSettings) (entries : Nat) (size : UInt64)
    (ack : Acknowledgement) : Prop where
  unfailed : ack.error = none
  results : ∃ results, ack.payload = .iteration results (some size) ∧
    results.length = settings.test.threads.toNat ∧ ∀ r ∈ results, Finds settings entries r

/-- The acknowledgements of workers that agree on the number of entries and on the size. -/
structure Agreed (settings : IterateSettings) (entries : Nat) (size : UInt64)
    (workers : List WorkerIndex) (acks : Acknowledgements) : Prop where
  keys : acks.keys.Perm workers
  given : ∀ worker ack, acks.find? worker = some ack → Confirms settings entries size ack

section

variable {settings : IterateSettings} {entries : Nat} {size : UInt64}
  {workers : List WorkerIndex} {acks : Acknowledgements} {r : IterationResult}

theorem Finds.range? (finds : Finds settings entries r) :
    r.range? = some ⟨entries.toUInt64, entries.toUInt64⟩ :=
  IterationResult.range?_eq_some_iff.2 ⟨finds.least, finds.greatest⟩

theorem Finds.counts (finds : Finds settings entries r) : r.Counts entries.toUInt64 :=
  (IterationResult.counts_of_range? finds.range? _).2 ⟨rfl, rfl⟩

namespace Agreed

variable (agreed : Agreed settings entries size workers acks)

include agreed

theorem iterated {worker : WorkerIndex} {results : List IterationResult} {told : Option UInt64}
    (h : acks.Iterated worker results told) :
    told = some size ∧ results.length = settings.test.threads.toNat ∧
      ∀ r ∈ results, Finds settings entries r := by
  obtain ⟨ack, found, payload⟩ := h
  obtain ⟨_, same, length, finds⟩ := (agreed.given worker ack found).results
  cases payload.symm.trans same
  exact ⟨rfl, length, finds⟩

theorem accepted (told : settings.requiresTotalSize → size = entries.toUInt64) :
    settings.Accepts acks where
  complete _ _ _ _ h r hr := ((agreed.iterated h).2.2 r hr).unfailed
  even _ := ⟨entries.toUInt64, fun _ _ _ h r hr => ((agreed.iterated h).2.2 r hr).counts⟩
  sized required _ _ n h r hr := by
    obtain ⟨same, -, finds⟩ := agreed.iterated h
    cases same
    exact told required ▸ (finds r hr).counts
  agreed _ _ _ _ _ _ _ h h' := by
    cases (agreed.iterated h).1
    cases (agreed.iterated h').1
    rfl

/-- Nothing fails a stage whose stressors all found the entries, if it can be recorded. -/
theorem passed {stage : Stage} {report : Report} (kind : stage.kind = .iterate settings)
    (told : settings.requiresTotalSize → size = entries.toUInt64)
    (recordable : ¬ stage.Unrecordable acks report) :
    (aggregate stage acks report).1.status = .passed ∧
      (aggregate stage acks report).1.failures = [] := by
  rw [aggregate_status_passed_iff, and_self, aggregate_failures, List.append_eq_nil_iff,
    List.append_eq_nil_iff, workerErrors_eq_nil_iff, enforcedMessages_eq_nil_iff,
    respects_enforced_iff, recordingErrors_eq_nil_iff]
  refine ⟨⟨fun worker ack found => (agreed.given worker ack found).unfailed, fun s hs => ?_⟩, ?_⟩
  · cases kind.symm.trans hs
    exact agreed.accepted told
  · cases recorded : record? stage acks report with
    | ok report' => exact ⟨report', rfl⟩
    | error e => exact absurd (record?_error_iff.1 ⟨e, recorded⟩) recordable

/-- What is listed of each worker that sent results is listed of all workers, and told of what they
agree on. -/
theorem byWorker {V : Type} (f : WorkerIndex × List IterationResult × Option UInt64 → V) :
    (OrderedMap.ofList (acks.iterations.map fun e => (e.1, f e))).keys.Perm workers ∧
      ∀ worker v, (OrderedMap.ofList (acks.iterations.map fun e => (e.1, f e))).find? worker =
        some v → ∃ results, v = f (worker, results, some size) ∧
          results.length = settings.test.threads.toNat ∧
            ∀ r ∈ results, Finds settings entries r := by
  have indices : (acks.iterations.map fun e => (e.1, f e)).map (·.1) =
      acks.iterations.map (·.1) := by
    rw [List.map_map]
    rfl
  have distinct := indices ▸ acks.nodup_iterations
  constructor
  · refine ((OrderedMap.entries_ofList distinct).map _).trans (.trans ?_ agreed.keys)
    rw [indices]
    refine (List.perm_ext_iff_of_nodup acks.nodup_iterations acks.nodup_keys).2 fun worker => ?_
    rw [OrderedMap.mem_keys_iff, List.mem_map]
    constructor
    · rintro ⟨⟨_, results, told⟩, there, rfl⟩
      obtain ⟨ack, found, -⟩ := Acknowledgements.mem_iterations.1 there
      exact ⟨ack, found⟩
    · rintro ⟨ack, found⟩
      obtain ⟨results, payload, -⟩ := (agreed.given worker ack found).results
      exact ⟨(worker, results, some size),
        Acknowledgements.mem_iterations.2 ⟨ack, found, payload⟩, rfl⟩
  · intro worker v found
    rw [OrderedMap.find?_ofList_iff distinct] at found
    obtain ⟨⟨_, results, told⟩, there, same⟩ := List.mem_map.1 found
    cases same
    obtain ⟨rfl, length, finds⟩ := agreed.iterated (Acknowledgements.mem_iterations.1 there)
    exact ⟨results, rfl, length, finds⟩

/-! ### Ranges -/

variable (threads : 0 < settings.test.threads.toNat)

include threads

theorem workerRanges_eq :
    workerRanges acks =
      acks.iterations.map fun e => (e.1, ⟨entries.toUInt64, entries.toUInt64⟩) := by
  rw [workerRanges, ← List.filterMap_eq_map]
  refine List.filterMap_congr fun ⟨worker, results, told⟩ there => ?_
  obtain ⟨-, length, finds⟩ := agreed.iterated (Acknowledgements.mem_iterations.1 there)
  have ranges : results.filterMap IterationResult.range? =
      results.map fun _ => ⟨entries.toUInt64, entries.toUInt64⟩ := by
    rw [← List.filterMap_eq_map]
    exact List.filterMap_congr fun r hr => (finds r hr).range?
  have any : results ≠ [] := List.ne_nil_of_length_pos (length ▸ threads)
  dsimp only
  rw [ranges, ElementRange.joinAll?_eq (r := ⟨entries.toUInt64, entries.toUInt64⟩)
    (by simpa using any) (by simp)]
  rfl

variable (any : workers ≠ [])

include any

theorem elementsResult?_eq :
    ∃ result, elementsResult? acks = some result ∧ result.name = elementsName ∧
      result.Reads workers (toString entries.toUInt64) := by
  have some : acks.iterations ≠ [] := by
    intro none
    obtain ⟨keys, -⟩ := agreed.byWorker fun _ => ()
    rw [none] at keys
    exact any keys.nil_eq.symm
  have joined : ElementRange.joinAll? ((workerRanges acks).map (·.2)) =
      .some ⟨entries.toUInt64, entries.toUInt64⟩ := by
    rw [agreed.workerRanges_eq threads]
    exact ElementRange.joinAll?_eq (by simpa using some) (by simp +contextual)
  have values : (workerRanges acks).map (fun e => (e.1, e.2.toResult)) =
      acks.iterations.map fun e => (e.1, ⟨toString entries.toUInt64, false⟩) := by
    rw [agreed.workerRanges_eq threads, List.map_map]
    simp [Function.comp_def, ElementRange.toResult, ElementRange.text]
  obtain ⟨keys, each⟩ :=
    agreed.byWorker fun _ => (⟨toString entries.toUInt64, false⟩ : WorkerResult)
  rw [← values] at keys each
  refine ⟨_, by rw [elementsResult?, joined]; rfl, rfl, keys, fun worker v found => ?_, ?_, ?_⟩
  · obtain ⟨-, same, -⟩ := each worker v found
    exact same
  · simp [ElementRange.text]
  · simp [agreed.workerRanges_eq threads]

/-! ### Statistics -/

variable (loops : 0 < settings.numLoops.toNat)

include loops

/-- **What is told of an iteration.** An iteration that is filled from acknowledgements which agree
tells what they agree on. -/
theorem tells {stage : Stage} {i : TestIteration} (kind : stage.kind = .iterate settings)
    (fill : stage.kind.fill? acks ⟨i.index, stage.name, .empty, .empty⟩ = .ok i) :
    i.Tells workers settings.test.stats settings.test.threads.toNat settings.numLoops.toNat
      entries := by
  rw [kind] at fill
  obtain ⟨statistics, results⟩ := fillIteration?_eq_ok rfl rfl fill
  obtain ⟨keys, each⟩ := agreed.byWorker fun e => e.2.1.map (·.stats)
  rw [← statistics] at keys each
  have each (worker : WorkerIndex) (stats : List RunStatistics)
      (found : i.statistics.find? worker = some stats) :
      stats.length = settings.test.threads.toNat ∧ ∀ s ∈ stats,
        s.Tally settings.test.stats (wholeLog entries settings.numLoops.toNat) := by
    obtain ⟨rs, rfl, length, finds⟩ := each worker stats found
    exact ⟨by rw [List.length_map, length], List.forall_mem_map.2 fun r hr => (finds r hr).tally⟩
  refine ⟨keys, fun worker stats found => ?_, fun few => ?_, ?_⟩
  · obtain ⟨length, tally⟩ := each worker stats found
    exact ⟨length, fun s hs => (tally s hs).countsPasses loops.ne'⟩
  · have fewer (name : String) := Nat.lt_of_le_of_lt (Nat.mul_le_mul_left
      (workers.length * settings.test.threads.toNat)
      (count_wholeLog_le entries settings.numLoops.toNat name)) (Nat.mul_assoc .. ▸ few)
    obtain ⟨all, merged, tally⟩ := i.mergedStatistics?_of_each keys any threads each fewer
    refine ⟨all, merged, Statistics.Tally.countsPasses (wholeLog_replicate .. ▸ tally) ?_⟩
    exact (Nat.mul_pos (Nat.mul_pos (List.length_pos_of_ne_nil any) threads) loops).ne'
  · obtain ⟨result, found, name, reads⟩ := agreed.elementsResult?_eq threads any
    refine ⟨result, ?_, reads⟩
    rw [results, found, ← name]
    exact (OrderedMap.find?_ofList_iff (by simp)).2 (by simp)

end Agreed

end

end Iterate

end LoadFleet
