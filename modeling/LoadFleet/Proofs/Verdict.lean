import LoadFleet.Proofs.Recording
/-!
# When a stage passes

`aggregate_passed_iff`: a stage passes exactly if no worker tells of an error, the stage can be
recorded, and, for an iteration, the acknowledgements are as the enforced rules of its settings
want them (`IterateSettings.Accepts`).  The errors of the workers come first among the failures,
whatever the settings are.

A stage passes when its list of failures is empty (`aggregate_status_passed_iff`), and that list
has three parts: the errors of the workers, the messages of the enforced findings, and why
recording failed (`aggregate_failures`).  Each part is empty under a condition of its own.
-/

namespace LoadFleet

/-- The acknowledgements are as the enforced rules of an iteration want them. -/
structure IterateSettings.Accepts (s : IterateSettings) (acks : Acknowledgements) : Prop where
  /-- No result tells of a failure. -/
  complete : s.failOnFailedIteration → ∀ worker results size,
    acks.Iterated worker results size → ∀ r ∈ results, r.failure = none
  /-- There is one number of entries that all results of all workers have. -/
  even : s.failOnUnevenElements → ∃ n, ∀ worker results size,
    acks.Iterated worker results size → ∀ r ∈ results, r.Counts n
  /-- All results have the number of entries that their worker saw in the container, if it saw
  one. -/
  sized : s.requiresTotalSize → ∀ worker results n,
    acks.Iterated worker results (some n) → ∀ r ∈ results, r.Counts n
  /-- All workers that saw a number of entries in the container saw the same. -/
  agreed : s.requiresTotalSize → ∀ worker worker' results results' n n',
    acks.Iterated worker results (some n) → acks.Iterated worker' results' (some n') → n = n'

/-! ### The three parts of the failures -/

/-- Why recording a stage failed, if it did. -/
def recordingErrors (stage : Stage) (acks : Acknowledgements) (report : Report) : List String :=
  match record? stage acks report with
  | .ok _ => []
  | .error e => [s!"failed to record results: {e.message}"]

/-- The messages of the findings that fail a stage. -/
def enforcedMessages (stage : Stage) (acks : Acknowledgements) : List String :=
  ((stage.kind.findings acks).filter fun f => stage.kind.enforces f.rule).map (·.message)

variable {stage : Stage} {acks : Acknowledgements} {report : Report}

theorem aggregate_failures :
    (aggregate stage acks report).1.failures =
      workerErrors acks ++ enforcedMessages stage acks ++ recordingErrors stage acks report := by
  unfold aggregate recordingErrors
  cases record? stage acks report with
  | ok recorded => simp [StageOutcome.ofFindings, enforcedMessages]
  | error e => simp [StageOutcome.ofFindings, enforcedMessages]

theorem aggregate_status_passed_iff :
    (aggregate stage acks report).1.status = .passed ↔
      (aggregate stage acks report).1.failures = [] := by
  unfold aggregate
  cases record? stage acks report <;> simp [StageOutcome.ofFindings]

theorem workerErrors_eq_nil_iff :
    workerErrors acks = [] ↔ ∀ worker ack, acks.find? worker = some ack → ack.error = none := by
  simp only [workerErrors, OrderedMap.values, List.filterMap_eq_nil_iff, List.mem_map,
    Option.map_eq_none_iff, OrderedMap.find?_eq_some_iff]
  constructor
  · intro h worker ack hm
    exact h ack ⟨_, hm, rfl⟩
  · rintro h ack ⟨⟨worker, _⟩, hm, rfl⟩
    exact h worker _ hm

theorem recordingErrors_eq_nil_iff :
    recordingErrors stage acks report = [] ↔
      ∃ recorded, record? stage acks report = .ok recorded := by
  rw [recordingErrors]
  cases record? stage acks report <;> simp

theorem enforcedMessages_eq_nil_iff :
    enforcedMessages stage acks = [] ↔
      ∀ rule, stage.kind.enforces rule → Respects (stage.kind.findings acks) rule := by
  simp only [enforcedMessages, List.map_eq_nil_iff, List.filter_eq_nil_iff, Respects]
  constructor
  · rintro h rule he f hf rfl
    exact h f hf he
  · intro h f hf he
    exact h f.rule he f hf rfl

/-- Only an iteration has findings, and what its enforced rules want is `Accepts`. -/
theorem respects_enforced_iff :
    (∀ rule, stage.kind.enforces rule → Respects (stage.kind.findings acks) rule) ↔
      ∀ s, stage.kind = .iterate s → s.Accepts acks := by
  cases hk : stage.kind with
  | iterate s =>
    simp only [StageKind.iterate.injEq, forall_eq', StageKind.findings]
    constructor
    · intro h
      exact
        { complete := fun he => Acknowledgements.respects_completeIteration.1 (h _ he)
          even := fun he => Acknowledgements.respects_evenElements.1 (h _ he)
          sized := fun he => (Acknowledgements.respects_totalSize.1 (h .totalSize he)).1
          agreed := fun he => (Acknowledgements.respects_totalSize.1 (h .totalSize he)).2 }
    · intro h rule he
      cases rule with
      | completeIteration => exact Acknowledgements.respects_completeIteration.2 (h.complete he)
      | evenElements => exact Acknowledgements.respects_evenElements.2 (h.even he)
      | totalSize => exact Acknowledgements.respects_totalSize.2 ⟨h.sized he, h.agreed he⟩
  | stress | waitForEvent | waitForSettle | checkTopology => simp [StageKind.enforces]

end LoadFleet
