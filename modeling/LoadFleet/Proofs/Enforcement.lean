import LoadFleet.Proofs.Verdict
import LoadFleet.Text.Numeral
import Mathlib.Data.List.Basic
/-!
# What the policy of an iteration decides

An iteration stage is run under two policies.  What is recorded and what is found is the same; the
policies only decide which findings fail the stage and which are warnings.

* `Stage.moved`: the findings that fail the stage under one policy and are warnings under another.
* `Worded.rule_unique`: the wording of a finding tells which rule it is about.  The templates of the
  rules are told apart by what follows their numerals.
* `aggregate_under_policies`: the main statement.
-/

namespace LoadFleet

/-- The part of the settings of an iteration that says which rules fail the stage. -/
structure Policy where
  failOnFailedIteration : Bool
  failOnUnevenElements : Bool
  failOnNotTotalSize : Option Bool

/-- The settings under another policy. -/
def IterateSettings.under (s : IterateSettings) (p : Policy) : IterateSettings :=
  { s with
    failOnFailedIteration := p.failOnFailedIteration
    failOnUnevenElements := p.failOnUnevenElements
    failOnNotTotalSize := p.failOnNotTotalSize }

/-- A stage under another policy, which only an iteration has. -/
def Stage.under (stage : Stage) (p : Policy) : Stage :=
  match stage.kind with
  | .iterate s => { stage with kind := .iterate (s.under p) }
  | _ => stage

namespace Stage

variable {stage : Stage} {acks : Acknowledgements} {report : Report} {p q : Policy}

/-! ### What the policy has no part in -/

@[simp] theorem under_name : (stage.under p).name = stage.name := by
  unfold under
  split <;> rfl

@[simp] theorem under_test? : (stage.under p).kind.test? = stage.kind.test? := by
  unfold under
  split
  · next h => rw [h]; rfl
  · rfl

@[simp] theorem under_fill? : (stage.under p).kind.fill? = stage.kind.fill? := by
  unfold under
  split
  · next h => rw [h]; rfl
  · rfl

@[simp] theorem under_findings :
    (stage.under p).kind.findings acks = stage.kind.findings acks := by
  unfold under
  split
  · next h => rw [h]; rfl
  · rfl

@[simp] theorem record?_under :
    record? (stage.under p) acks report = record? stage acks report := by
  simp [record?]

end Stage

variable {stage : Stage} {acks : Acknowledgements} {report : Report} {p q : Policy}

theorem recordingErrors_under :
    recordingErrors (stage.under p) acks report = recordingErrors stage acks report := by
  simp [recordingErrors]

/-- Recording alone decides which report there is after a stage. -/
theorem aggregate_report :
    (aggregate stage acks report).2 =
      match record? stage acks report with
      | .ok recorded => recorded
      | .error _ => report := by
  unfold aggregate
  cases record? stage acks report <;> rfl

theorem aggregate_warnings :
    (aggregate stage acks report).1.warnings =
      ((stage.kind.findings acks).filter fun f => !stage.kind.enforces f.rule).map (·.message) := by
  unfold aggregate
  cases record? stage acks report <;> rfl

/-! ### Findings that change sides -/

/-- The findings that fail a stage under one policy and are warnings under another. -/
def Stage.moved (stage : Stage) (acks : Acknowledgements) (p q : Policy) : List Finding :=
  (stage.kind.findings acks).filter fun f =>
    (stage.under p).kind.enforces f.rule && !(stage.under q).kind.enforces f.rule

/-- What one test keeps, and the other keeps besides, is what the other keeps and this one
besides. -/
theorem filter_append_filter_perm {α : Type} (f g : α → Bool) (l : List α) :
    (l.filter f ++ l.filter fun x => g x && !f x).Perm
      (l.filter g ++ l.filter fun x => f x && !g x) := by
  induction l with
  | nil => exact .nil
  | cons x r ih =>
    cases hf : f x <;> cases hg : g x <;> simp only [List.filter_cons, hf, hg, Bool.not_true,
      Bool.not_false, Bool.and_self, Bool.and_true, Bool.and_false, Bool.false_eq_true, ↓reduceIte]
    · exact ih
    · exact List.perm_middle.trans (ih.cons x)
    · exact (ih.cons x).trans List.perm_middle.symm
    · exact ih.cons x

theorem enforced_moved_perm :
    (enforcedMessages (stage.under p) acks ++ (stage.moved acks q p).map (·.message)).Perm
      (enforcedMessages (stage.under q) acks ++ (stage.moved acks p q).map (·.message)) := by
  simp only [enforcedMessages, Stage.moved, Stage.under_findings, ← List.map_append]
  exact (filter_append_filter_perm _ _ _).map _

/-- What fails a stage whatever its policy is, and the enforced findings. -/
theorem failures_perm :
    (aggregate stage acks report).1.failures.Perm
      (workerErrors acks ++ recordingErrors stage acks report ++ enforcedMessages stage acks) := by
  rw [aggregate_failures, List.append_assoc, List.append_assoc]
  exact .append_left _ List.perm_append_comm

/-- The failures under two policies differ by the findings that change sides. -/
theorem failures_moved_perm :
    ((aggregate (stage.under p) acks report).1.failures ++
      (stage.moved acks q p).map (·.message)).Perm
    ((aggregate (stage.under q) acks report).1.failures ++
      (stage.moved acks p q).map (·.message)) := by
  refine (failures_perm.append_right _).trans (.trans ?_ (failures_perm.append_right _).symm)
  rw [recordingErrors_under, recordingErrors_under, List.append_assoc _ _ (List.map _ _),
    List.append_assoc _ _ (List.map _ _)]
  exact enforced_moved_perm.append_left _

/-- So do the warnings, the other way round. -/
theorem warnings_moved_perm :
    ((aggregate (stage.under p) acks report).1.warnings ++
      (stage.moved acks p q).map (·.message)).Perm
    ((aggregate (stage.under q) acks report).1.warnings ++
      (stage.moved acks q p).map (·.message)) := by
  have flip (p q : Policy) : stage.moved acks p q =
      (stage.kind.findings acks).filter fun f =>
        !(stage.under q).kind.enforces f.rule && !!(stage.under p).kind.enforces f.rule := by
    simp [Stage.moved, Bool.and_comm]
  rw [aggregate_warnings, aggregate_warnings, Stage.under_findings, Stage.under_findings,
    flip p q, flip q p, ← List.map_append, ← List.map_append]
  exact (filter_append_filter_perm _ _ _).map _

/-- All messages together are those that fail the stage whatever its policy is, and those of all
findings. -/
theorem messages_perm :
    ((aggregate stage acks report).1.failures ++ (aggregate stage acks report).1.warnings).Perm
      (workerErrors acks ++ recordingErrors stage acks report ++
        (stage.kind.findings acks).map (·.message)) := by
  refine (failures_perm.append_right _).trans ?_
  rw [List.append_assoc, aggregate_warnings, enforcedMessages, ← List.map_append]
  exact .append_left _ ((List.filter_append_perm _ _).map _)

/-! ### The wording of findings -/

/-- How findings about each rule are worded. -/
inductive Worded : Rule → List Char → Prop where
  | failure (worker : Nat) (text : List Char) :
    Worded .completeIteration ("worker ".toList ++ (Nat.toDigits 10 worker ++ ':' :: text))
  | between (worker stressor : Nat) (text : List Char) :
    Worded .evenElements ("worker ".toList ++ (Nat.toDigits 10 worker ++
      (" stressor ".toList ++ (Nat.toDigits 10 stressor ++ (" saw b".toList ++ text)))))
  | unlike (worker stressor least greatest : Nat) (text : List Char) :
    Worded .evenElements ("worker ".toList ++ (Nat.toDigits 10 worker ++
      (" stressor ".toList ++ (Nat.toDigits 10 stressor ++ (" saw ".toList ++
        (Nat.toDigits 10 least ++ (" to ".toList ++ (Nat.toDigits 10 greatest ++
          (" elements, but w".toList ++ text)))))))))
  | unlikeStore (worker stressor least greatest : Nat) (text : List Char) :
    Worded .totalSize ("worker ".toList ++ (Nat.toDigits 10 worker ++
      (" stressor ".toList ++ (Nat.toDigits 10 stressor ++ (" saw ".toList ++
        (Nat.toDigits 10 least ++ (" to ".toList ++ (Nat.toDigits 10 greatest ++
          (" elements, but t".toList ++ text)))))))))
  | sizes (text : List Char) : Worded .totalSize ("workers".toList ++ text)

/-- The wording of a finding tells the rule: two templates differ where they go on after the same
numerals. -/
theorem Worded.rule_unique {r r' : Rule} {a b : List Char} (ha : Worded r a) (hb : Worded r' b)
    (h : a = b) : r = r' := by
  cases ha <;> cases hb <;> first
    | rfl
    | simp [numeral_append_inj, numeral_append_ne_cons, cons_ne_numeral_append] at h

theorem Finding.worded_unless {condition : Bool} {rule : Rule} {message : String}
    (h : Worded rule message.toList) :
    ∀ f ∈ Finding.unless condition rule message, Worded f.rule f.message.toList := by
  cases condition <;> simp [Finding.unless, h]

namespace StressorResult

variable (s : StressorResult) (range : ElementRange)

/-- What is said about a stressor that failed. -/
def failed : List Finding :=
  match s.result.failure with
  | some failure => [⟨.completeIteration, s!"worker {s.worker}: {failure}"⟩]
  | none => []

theorem worded_failed : ∀ f ∈ s.failed, Worded f.rule f.message.toList := by
  rw [failed]
  cases s.result.failure with
  | none => exact List.forall_mem_nil _
  | some failure =>
    rw [List.forall_mem_singleton]
    simpa [toString, Nat.toList_repr] using Worded.failure s.worker.toNat (' ' :: failure.toList)

/-- How messages about the entries of a stressor begin. -/
def who : String := s!"worker {s.worker} stressor {s.stressor} saw"

/-- What is said about the entries of a stressor when they are compared. -/
def seen : String := s!"{s.who} {range.least} to {range.greatest} elements"

theorem worded_between :
    Worded .evenElements
      (s!"{s.who} between {range.least} and {range.greatest} elements").toList := by
  simpa [who, toString, Nat.toList_repr] using Worded.between s.worker.toNat s.stressor
    ("etween ".toList ++ (Nat.toDigits 10 range.least.toNat ++ (" and ".toList ++
      (Nat.toDigits 10 range.greatest.toNat ++ " elements".toList))))

theorem worded_unlike (o : Reference) :
    Worded .evenElements (String.toList
      s!"{s.seen range}, but worker {o.worker} stressor {o.stressor} saw {o.elements}") := by
  simpa [seen, who, toString, Nat.toList_repr] using Worded.unlike s.worker.toNat s.stressor
    range.least.toNat range.greatest.toNat ("orker ".toList ++
      (Nat.toDigits 10 o.worker.toNat ++ (" stressor ".toList ++
        (Nat.toDigits 10 o.stressor ++ (" saw ".toList ++ Nat.toDigits 10 o.elements.toNat)))))

theorem worded_unlikeStore (size : UInt64) :
    Worded .totalSize (s!"{s.seen range}, but the store holds {size}").toList := by
  simpa [seen, who, toString, Nat.toList_repr] using Worded.unlikeStore s.worker.toNat s.stressor
    range.least.toNat range.greatest.toNat ("he store holds ".toList ++ Nat.toDigits 10 size.toNat)

theorem worded {reference : Option Reference} :
    ∀ f ∈ s.findings reference, Worded f.rule f.message.toList := by
  rw [findings]
  cases s.result.range? with
  | none => exact s.worded_failed
  | some range =>
    refine List.forall_mem_append.2 ⟨List.forall_mem_append.2
      ⟨List.forall_mem_append.2 ⟨s.worded_failed, Finding.worded_unless ?_⟩, ?_⟩, ?_⟩
    · exact s.worded_between range
    · cases reference with
      | none => exact List.forall_mem_nil _
      | some other => exact Finding.worded_unless (s.worded_unlike range other)
    · cases s.totalSize with
      | none => exact List.forall_mem_nil _
      | some size => exact Finding.worded_unless (s.worded_unlikeStore range size)

end StressorResult

theorem worded_stressorFindings (reference : Option Reference) (l : List StressorResult) :
    ∀ f ∈ stressorFindings reference l, Worded f.rule f.message.toList := by
  induction l generalizing reference with
  | nil => nofun
  | cons s r ih =>
    intro f hf
    rcases List.mem_append.1 hf with hf | hf
    · exact s.worded f hf
    · exact ih _ f hf

theorem worded_sizeFindings (sizes : List (WorkerIndex × UInt64)) :
    ∀ f ∈ sizeFindings sizes, Worded f.rule f.message.toList := by
  cases sizes with
  | nil => nofun
  | cons e r =>
    refine Finding.worded_unless ?_
    simpa [toString] using Worded.sizes
      (" report different total sizes: ".toList ++ (sizesText (e :: r)).toList)

theorem StageKind.worded_findings {kind : StageKind} {acks : Acknowledgements} :
    ∀ f ∈ kind.findings acks, Worded f.rule f.message.toList := by
  cases kind with
  | iterate s =>
    intro f hf
    rcases List.mem_append.1 hf with hf | hf
    · exact worded_stressorFindings none _ f hf
    · exact worded_sizeFindings _ f hf
  | stress | waitForEvent | waitForSettle | checkTopology => nofun

/-- Every wording starts alike. -/
theorem Worded.starts {rule : Rule} {text : List Char} (h : Worded rule text) :
    "worker".toList <+: text := by
  cases h <;> exact ⟨_, rfl⟩

/-! ### Two policies -/

/-- A message that fails the stage under one policy and is a warning under the other is the wording
of findings about one rule, which the first policy enforces and the second does not; unless a worker
tells of an error in the same words. -/
theorem rule_of_moved {text : String}
    (hf : text ∈ (aggregate (stage.under p) acks report).1.failures)
    (hw : text ∈ (aggregate (stage.under q) acks report).1.warnings) :
    text ∈ workerErrors acks ∨
    ∃ rule, (∀ f ∈ stage.kind.findings acks, f.message = text → f.rule = rule) ∧
      (stage.under p).kind.enforces rule ∧ ¬ (stage.under q).kind.enforces rule := by
  rw [aggregate_warnings, Stage.under_findings] at hw
  obtain ⟨g, hg, rfl⟩ := List.mem_map.1 hw
  obtain ⟨hg, ignored⟩ := List.mem_filter.1 hg
  have worded := StageKind.worded_findings g hg
  have own : ∀ f ∈ stage.kind.findings acks, f.message = g.message → f.rule = g.rule :=
    fun f hf h => (StageKind.worded_findings f hf).rule_unique worded (by rw [h])
  rw [aggregate_failures, recordingErrors_under] at hf
  rcases List.mem_append.1 hf with hf | hf
  · rcases List.mem_append.1 hf with error | enforced
    · exact .inl error
    · rw [enforcedMessages, Stage.under_findings] at enforced
      obtain ⟨f, hf, same⟩ := List.mem_map.1 enforced
      obtain ⟨hf, enforced⟩ := List.mem_filter.1 hf
      rw [own f hf same] at enforced
      exact .inr ⟨g.rule, own, enforced, by simpa using ignored⟩
  · -- the wording of a recording failure starts with another letter
    unfold recordingErrors at hf
    split at hf
    · cases hf
    · rw [List.mem_singleton.1 hf] at worded
      simpa [toString] using worded.starts

theorem aggregate_status_failed_iff :
    (aggregate stage acks report).1.status = .failed ↔
      (aggregate stage acks report).1.failures ≠ [] := by
  unfold aggregate
  cases record? stage acks report <;> simp [StageOutcome.ofFindings]

/-- A policy that enforces no less fails no fewer stages. -/
theorem status_failed_mono
    (h : ∀ rule, (stage.under p).kind.enforces rule → (stage.under q).kind.enforces rule)
    (failed : (aggregate (stage.under p) acks report).1.status = .failed) :
    (aggregate (stage.under q) acks report).1.status = .failed := by
  rw [aggregate_status_failed_iff] at failed ⊢
  have none : stage.moved acks p q = [] := by
    rw [Stage.moved, List.filter_eq_nil_iff]
    intro f _ hf
    simp only [Bool.and_eq_true, Bool.not_eq_true'] at hf
    simp [h f.rule hf.1] at hf
  have perm := @failures_moved_perm stage acks report p q
  rw [none, List.map_nil, List.append_nil] at perm
  intro passed
  rw [passed, List.perm_nil, List.append_eq_nil_iff] at perm
  exact failed perm.1

/-- **Enforcement.**  Two policies leave the same report and come to the same messages.  They
differ in the findings whose rule only one of them enforces: those, and no others, change between
failures and warnings.  A message tells which rule it is about, unless a worker tells of an error in
the same words.  Enforcing more rules can fail a stage that passed, and never the reverse. -/
theorem aggregate_under_policies (stage : Stage) (acks : Acknowledgements) (report : Report)
    (p q : Policy) :
    let a := aggregate (stage.under p) acks report
    let b := aggregate (stage.under q) acks report
    a.2 = b.2 ∧
    (a.1.failures ++ a.1.warnings).Perm (b.1.failures ++ b.1.warnings) ∧
    (a.1.failures ++ (stage.moved acks q p).map (·.message)).Perm
      (b.1.failures ++ (stage.moved acks p q).map (·.message)) ∧
    (a.1.warnings ++ (stage.moved acks p q).map (·.message)).Perm
      (b.1.warnings ++ (stage.moved acks q p).map (·.message)) ∧
    (∀ text ∈ a.1.failures, text ∈ b.1.warnings → text ∈ workerErrors acks ∨
      ∃ rule, (∀ f ∈ stage.kind.findings acks, f.message = text → f.rule = rule) ∧
        (stage.under p).kind.enforces rule ∧ ¬ (stage.under q).kind.enforces rule) ∧
    ((∀ rule, (stage.under p).kind.enforces rule → (stage.under q).kind.enforces rule) →
      a.1.status = .failed → b.1.status = .failed) := by
  refine ⟨?_, ?_, failures_moved_perm, warnings_moved_perm, fun text => rule_of_moved,
    status_failed_mono⟩
  · rw [aggregate_report, aggregate_report, Stage.record?_under, Stage.record?_under]
  · refine messages_perm.trans (.trans ?_ messages_perm.symm)
    rw [recordingErrors_under, recordingErrors_under, Stage.under_findings, Stage.under_findings]

end LoadFleet
