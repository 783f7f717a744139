import LoadFleet.Report.Verdict
/-!
# What the findings of an iteration say

The checks of an iteration walk over the stressors once, comparing each with the first one that has
a range.  Seen from outside they decide three conditions on the acknowledgements, one for each
rule; a rule is respected when no finding is about it.

* `respects_completeIteration`: no stressor tells of a failure.
* `respects_evenElements`: there is one number that all stressors found.
* `respects_totalSize`: the stressors found as many entries as their worker saw in the container,
  and all workers saw the same number.

The second one is by induction over the walk (`respects_evenElements_walk`): what is kept is that
the stressor to compare with, once there is one, has the number that all others are to have.
-/

namespace LoadFleet

/-- No finding is about the rule. -/
def Respects (findings : List Finding) (rule : Rule) : Prop := ∀ f ∈ findings, f.rule ≠ rule

@[simp] theorem respects_nil (rule : Rule) : Respects [] rule := by simp [Respects]

@[simp] theorem respects_append {a b : List Finding} {rule : Rule} :
    Respects (a ++ b) rule ↔ Respects a rule ∧ Respects b rule := by
  simp [Respects, or_imp, forall_and]

@[simp] theorem respects_cons {f : Finding} {r : List Finding} {rule : Rule} :
    Respects (f :: r) rule ↔ f.rule ≠ rule ∧ Respects r rule := by simp [Respects]

@[simp] theorem respects_unless {condition : Bool} {about rule : Rule} {message : String} :
    Respects (Finding.unless condition about message) rule ↔ (about = rule → condition = true) := by
  cases condition <;> simp [Finding.unless, Respects]

/-- Every completed pass of the stressor found this number of entries: both bounds, where both are
known, are that number. -/
def IterationResult.Counts (r : IterationResult) (n : UInt64) : Prop :=
  ∀ least greatest, r.minElements = some least → r.maxElements = some greatest →
    least = n ∧ greatest = n

namespace IterationResult

theorem range?_eq_some_iff {r : IterationResult} {range : ElementRange} :
    r.range? = some range ↔
      r.minElements = some range.least ∧ r.maxElements = some range.greatest := by
  obtain ⟨least, greatest⟩ := range
  cases hl : r.minElements <;> cases hg : r.maxElements <;> simp [range?, hl, hg]

theorem counts_iff {r : IterationResult} {n : UInt64} :
    r.Counts n ↔ ∀ range, r.range? = some range → range.isExactly n := by
  simp only [range?_eq_some_iff, ElementRange.isExactly, Bool.and_eq_true, decide_eq_true_eq]
  constructor
  · exact fun h range hr => h _ _ hr.1 hr.2
  · exact fun h least greatest hl hg => h ⟨least, greatest⟩ ⟨hl, hg⟩

theorem counts_of_range?_none {r : IterationResult} (h : r.range? = none) (n : UInt64) :
    r.Counts n := by
  simp [counts_iff, h]

theorem counts_of_range? {r : IterationResult} {range : ElementRange}
    (h : r.range? = some range) (n : UInt64) :
    r.Counts n ↔ range.least = n ∧ range.greatest = n := by
  simp [counts_iff, h, ElementRange.isExactly]

end IterationResult

/-! ### One stressor -/

namespace StressorResult

/-- What one stressor respects: the first rule if it tells of no failure, and the others if its
range, should it have one, is as they want it. -/
theorem respects_findings {s : StressorResult} {reference : Option Reference} {rule : Rule} :
    Respects (s.findings reference) rule ↔
      (rule = .completeIteration → s.result.failure = none) ∧
      ∀ range, s.result.range? = some range →
        (rule = .evenElements → range.least = range.greatest ∧
          ∀ other, reference = some other → range.isExactly other.elements) ∧
        (rule = .totalSize → ∀ size, s.totalSize = some size → range.isExactly size) := by
  cases hf : s.result.failure <;> cases hr : s.result.range? <;> cases reference <;>
    cases hs : s.totalSize <;> cases rule <;> simp [findings, hf, hr, hs]

end StressorResult

/-! ### The walk over the stressors -/

theorem respects_completeIteration_walk {l : List StressorResult} {reference : Option Reference} :
    Respects (stressorFindings reference l) .completeIteration ↔
      ∀ s ∈ l, s.result.failure = none := by
  induction l generalizing reference with
  | nil => simp [stressorFindings]
  | cons s r ih =>
    simp [stressorFindings, ih, StressorResult.respects_findings]

theorem respects_totalSize_walk {l : List StressorResult} {reference : Option Reference} :
    Respects (stressorFindings reference l) .totalSize ↔
      ∀ s ∈ l, ∀ size, s.totalSize = some size → s.result.Counts size := by
  induction l generalizing reference with
  | nil => simp [stressorFindings]
  | cons s r ih =>
    have hs : (∀ range, s.result.range? = some range →
        ∀ size, s.totalSize = some size → range.isExactly size) ↔
        ∀ size, s.totalSize = some size → s.result.Counts size := by
      simp only [IterationResult.counts_iff]
      constructor
      · exact fun h size hs range hr => h range hr size hs
      · exact fun h range hr size hs => h size hs range hr
    simp [stressorFindings, ih, StressorResult.respects_findings, hs]

/-- A walk finds no uneven numbers exactly if one number is that of the stressor to compare with,
if there is one yet, and of all stressors still to come. -/
theorem respects_evenElements_walk {l : List StressorResult} {reference : Option Reference} :
    Respects (stressorFindings reference l) .evenElements ↔
      ∃ n, (∀ other, reference = some other → other.elements = n) ∧
        ∀ s ∈ l, s.result.Counts n := by
  induction l generalizing reference with
  | nil =>
    refine ⟨fun _ => ?_, fun _ => by simp [stressorFindings]⟩
    -- without anything to compare with, any number will do
    cases reference with
    | none => exact ⟨0, by simp⟩
    | some other => exact ⟨other.elements, by simp⟩
  | cons s r ih =>
    simp only [stressorFindings, respects_append, ih, StressorResult.respects_findings,
      List.forall_mem_cons, reduceCtorEq, false_implies, forall_const, and_true, true_and]
    cases hr : s.result.range? with
    | none =>
      have hs := IterationResult.counts_of_range?_none hr
      simp [hs]
    | some range =>
      -- `s` has a range: it is compared with the reference, or becomes the reference
      have hs := IterationResult.counts_of_range? hr
      cases reference with
      | none =>
        simp only [Option.orElse_none, Option.map_some, Option.some.injEq, forall_eq',
          StressorResult.asReference, hs, reduceCtorEq, false_implies, implies_true, and_true,
          true_and]
        constructor
        · rintro ⟨he, n, rfl, h⟩
          exact ⟨_, ⟨he, rfl⟩, h⟩
        · rintro ⟨n, ⟨hl, rfl⟩, h⟩
          exact ⟨hl, _, rfl, h⟩
      | some other =>
        simp only [Option.orElse_some, Option.some.injEq, forall_eq', hs, ElementRange.isExactly,
          Bool.and_eq_true, decide_eq_true_eq]
        constructor
        · rintro ⟨⟨-, ho⟩, n, rfl, h⟩
          exact ⟨_, rfl, ho, h⟩
        · rintro ⟨n, rfl, ho, h⟩
          exact ⟨⟨ho.1.trans ho.2.symm, ho⟩, _, rfl, h⟩

/-! ### The sizes that workers saw -/

theorem respects_totalSize_sizes {sizes : List (WorkerIndex × UInt64)} :
    Respects (sizeFindings sizes) .totalSize ↔ ∀ a ∈ sizes, ∀ b ∈ sizes, a.2 = b.2 := by
  match sizes with
  | [] => simp [sizeFindings]
  | (worker, first) :: r =>
    simp only [sizeFindings, respects_unless, forall_const, List.all_eq_true, decide_eq_true_eq]
    constructor
    · intro h a ha b hb
      have eq : ∀ e ∈ (worker, first) :: r, e.2 = first := by simpa using h
      rw [eq a ha, eq b hb]
    · intro h e he
      exact h e (.tail _ he) _ (.head _)

theorem respects_sizes {sizes : List (WorkerIndex × UInt64)} {rule : Rule} (h : rule ≠ .totalSize) :
    Respects (sizeFindings sizes) rule := by
  match sizes with
  | [] => simp [sizeFindings]
  | e :: r => simpa [sizeFindings] using fun hr => absurd hr.symm h

/-! ### All acknowledgements -/

namespace Acknowledgements

variable {acks : Acknowledgements}

/-- The worker acknowledged an iteration with these results of its stressors, and saw this size of
the container. -/
def Iterated (acks : Acknowledgements) (worker : WorkerIndex) (results : List IterationResult)
    (size : Option UInt64) : Prop :=
  ∃ ack, acks.find? worker = some ack ∧ ack.payload = .iteration results size

theorem mem_iterations {worker : WorkerIndex} {results : List IterationResult}
    {size : Option UInt64} :
    (worker, results, size) ∈ acks.iterations ↔ acks.Iterated worker results size := by
  simp only [iterations, List.mem_filterMap, Iterated, OrderedMap.find?_eq_some_iff]
  constructor
  · rintro ⟨⟨w, ack⟩, hm, h⟩
    cases hp : ack.payload with
    | none | statistics => simp [hp] at h
    | iteration rs n =>
      simp only [hp, Option.some.injEq, Prod.mk.injEq] at h
      obtain ⟨rfl, rfl, rfl⟩ := h
      exact ⟨ack, hm, hp⟩
  · rintro ⟨ack, hm, hp⟩
    exact ⟨(worker, ack), hm, by simp [hp]⟩

theorem mem_totalSizes {worker : WorkerIndex} {n : UInt64} :
    (worker, n) ∈ acks.totalSizes ↔ ∃ results, acks.Iterated worker results (some n) := by
  simp only [totalSizes, List.mem_filterMap, ← mem_iterations]
  constructor
  · rintro ⟨⟨w, results, size⟩, hm, h⟩
    obtain ⟨k, rfl, h⟩ := Option.map_eq_some_iff.1 h
    cases h
    exact ⟨results, hm⟩
  · rintro ⟨results, hm⟩
    exact ⟨(worker, results, some n), hm, rfl⟩

/-- What holds of all stressors holds of all results of all workers. -/
theorem forall_stressors {P : IterationResult → Option UInt64 → Prop} :
    (∀ s ∈ acks.stressors, P s.result s.totalSize) ↔
      ∀ worker results size, acks.Iterated worker results size → ∀ r ∈ results, P r size := by
  simp only [stressors, List.mem_flatMap, List.mem_map, ← mem_iterations]
  constructor
  · intro h worker results size hm r hr
    obtain ⟨i, hi, rfl⟩ := List.mem_iff_getElem.1 hr
    refine h ⟨worker, i, results[i], size⟩ ⟨(worker, results, size), hm, (results[i], i), ?_, rfl⟩
    simp [List.mk_mem_zipIdx_iff_getElem?, hi]
  · rintro h s ⟨⟨worker, results, size⟩, hm, ⟨r, i⟩, hr, rfl⟩
    exact h worker results size hm r (List.fst_mem_of_mem_zipIdx hr)

/-- **Failures.**  No finding is about passes that failed exactly if no result tells of a
failure. -/
theorem respects_completeIteration :
    Respects (iterationFindings acks) .completeIteration ↔
      ∀ worker results size, acks.Iterated worker results size →
        ∀ r ∈ results, r.failure = none := by
  rw [iterationFindings, respects_append, respects_completeIteration_walk,
    forall_stressors (P := fun r _ => r.failure = none)]
  simp [respects_sizes]

/-- **Even numbers.**  No finding is about uneven numbers exactly if there is one number that all
stressors of all workers found. -/
theorem respects_evenElements :
    Respects (iterationFindings acks) .evenElements ↔
      ∃ n, ∀ worker results size, acks.Iterated worker results size →
        ∀ r ∈ results, r.Counts n := by
  rw [iterationFindings, respects_append, respects_evenElements_walk]
  simp only [respects_sizes, ne_eq, reduceCtorEq, not_false_eq_true, and_true, false_implies,
    implies_true, true_and]
  exact exists_congr fun n => forall_stressors (P := fun r _ => r.Counts n)

/-- **Sizes.**  No finding is about sizes exactly if all stressors found as many entries as their
worker saw in the container, where it saw a number, and all workers saw the same. -/
theorem respects_totalSize :
    Respects (iterationFindings acks) .totalSize ↔
      (∀ worker results n, acks.Iterated worker results (some n) → ∀ r ∈ results, r.Counts n) ∧
      ∀ worker worker' results results' n n', acks.Iterated worker results (some n) →
        acks.Iterated worker' results' (some n') → n = n' := by
  rw [iterationFindings, respects_append, respects_totalSize_walk, respects_totalSize_sizes,
    forall_stressors (P := fun r size => ∀ n, size = some n → r.Counts n)]
  refine and_congr ⟨fun h worker results n hi r hr => h worker results _ hi r hr n rfl, ?_⟩ ?_
  · rintro h worker results size hi r hr n rfl
    exact h worker results n hi r hr
  · constructor
    · intro h worker worker' results results' n n' hi hi'
      exact h _ (mem_totalSizes.2 ⟨results, hi⟩) _ (mem_totalSizes.2 ⟨results', hi'⟩)
    · rintro h ⟨worker, n⟩ ha ⟨worker', n'⟩ hb
      obtain ⟨results, hi⟩ := mem_totalSizes.1 ha
      obtain ⟨results', hi'⟩ := mem_totalSizes.1 hb
      exact h worker worker' results results' n n' hi hi'

end Acknowledgements

end LoadFleet
