import LoadFleet.Proofs.Merging
import LoadFleet.Store.Operation
/-!
# What recording counts

Statistics that record requests and their answers one by one count each of them once: as a request
of its operation, and as an error exactly if the store answered with one.

* `Statistics.operation?_record`: recording touches the accumulator of one operation.
* `Statistics.record?_of_few`, `Statistics.record?_eq_error_iff`: recording is an overflow exactly
  if words have no room for one more.
* `Statistics.counts_of_record?`: a request that is recorded is counted once.
* `Statistics.Recorded`: statistics hold a list of rounds, each made of a request and its answer.
* `Statistics.Recorded.record`: recording one more round, as long as words can count them.
* `Statistics.Recorded.total_eq`: the requests of the operations of a stress test are all rounds.
-/

namespace LoadFleet

/-! ### Accumulators -/

namespace Accumulator

variable {R : Type} [Scalar R] (a : Accumulator R) (latency : Span) (success : Bool)

theorem requests_empty (kind : StatsKind) : (empty kind : Accumulator R).requests = 0 := by
  cases kind <;> rfl

theorem errors_empty (kind : StatsKind) : (empty kind : Accumulator R).errors = 0 := by
  cases kind <;> rfl

theorem requests_record : (a.record latency success).requests = a.requests + 1 := by
  cases a with
  | basic m => rfl
  | recording s => simp [record, requests, Samples.record, Samples.count]
  | sketch s errors => exact Sketch.count_add _

theorem errors_record :
    (a.record latency success).errors = if success then a.errors else a.errors + 1 := by
  cases a <;> rfl

end Accumulator

namespace Statistics

/-! ### Statistics -/

variable {R : Type} [Scalar R] (s : Statistics R) (operation : String) (latency : Span)
  (success : Bool) (name : String)

theorem operation?_record :
    (s.record operation latency success).operation? name =
      if name = operation then
        some (((s.operation? operation).getD (.empty s.kind)).record latency success)
      else s.operation? name := by
  rw [operation?, record, OrderedMap.find?_insert]
  simp only [Std.LawfulEqCmp.compare_eq_iff_eq]
  rfl

theorem mem_keys_record :
    name ∈ (s.record operation latency success).operations.keys ↔
      name = operation ∨ name ∈ s.operations.keys := by
  have := operation?_record s operation latency success name
  simp only [operation?] at this
  simp only [OrderedMap.mem_keys_iff, this]
  by_cases h : name = operation <;> simp [h]

theorem requestsOf_record :
    (s.record operation latency success).requestsOf name =
      if name = operation then s.requestsOf name + 1 else s.requestsOf name := by
  rw [requestsOf, operation?_record]
  split
  · next h =>
    subst h
    rw [requestsOf]
    cases s.operation? name with
    | none => simp [Accumulator.requests_record, Accumulator.requests_empty]
    | some a => simp [Accumulator.requests_record]
  · rfl

theorem errorsOf_record :
    (s.record operation latency success).errorsOf name =
      if name = operation ∧ success = false then s.errorsOf name + 1 else s.errorsOf name := by
  rw [errorsOf, operation?_record]
  by_cases h : name = operation
  · subst h
    rw [errorsOf]
    cases s.operation? name with
    | none => cases success <;> simp [Accumulator.errors_record, Accumulator.errors_empty]
    | some a => cases success <;> simp [Accumulator.errors_record]
  · simp [h, errorsOf]

omit [Scalar R] in
theorem requestsOf_empty (kind : StatsKind) : (empty kind : Statistics R).requestsOf name = 0 := rfl

omit [Scalar R] in
theorem errorsOf_empty (kind : StatsKind) : (empty kind : Statistics R).errorsOf name = 0 := rfl

theorem requests_target : (s.target operation).requests = s.requestsOf operation := by
  rw [target, requestsOf, operation?]
  cases s.operations.find? operation with
  | none => exact Accumulator.requests_empty s.kind
  | some a => rfl

theorem errors_target : (s.target operation).errors = s.errorsOf operation := by
  rw [target, errorsOf, operation?]
  cases s.operations.find? operation with
  | none => exact Accumulator.errors_empty s.kind
  | some a => rfl

/-- As long as there are few requests and errors, one more is recorded without an overflow. -/
theorem record?_of_few (requests : (s.requestsOf operation).toNat < wordMax)
    (errors : (s.errorsOf operation).toNat < wordMax) :
    s.record? operation latency success = .ok (s.record operation latency success) := by
  refine record?_eq_ok_iff.2 ⟨⟨?_, ?_⟩, rfl⟩
  · rw [requests_target]
    exact requests
  · rw [errors_target]
    split
    · exact errors.le
    · exact errors

/-- A request that is recorded is counted once. -/
theorem counts_of_record? {s t : Statistics R} {operation : String} {latency : Span}
    {success : Bool} (h : s.record? operation latency success = .ok t) (name : String) :
    (t.requestsOf name).toNat = (s.requestsOf name).toNat + (if name = operation then 1 else 0) ∧
      (t.errorsOf name).toNat = (s.errorsOf name).toNat +
        (if name = operation ∧ success = false then 1 else 0) := by
  obtain ⟨⟨requests, errors⟩, rfl⟩ := record?_eq_ok_iff.1 h
  rw [requests_target] at requests
  rw [errors_target] at errors
  rw [requestsOf_record, errorsOf_record]
  constructor
  · split
    · next here => exact toNat_add_of_le (here ▸ requests)
    · rfl
  · split
    · next here =>
      obtain ⟨rfl, rfl⟩ := here
      exact toNat_add_of_le errors
    · rfl

/-- And one that is not is an overflow. -/
theorem record?_eq_error_iff {e : StatsError} :
    s.record? operation latency success = .error e ↔ e = .overflow ∧
      (wordMax ≤ (s.requestsOf operation).toNat ∨
        success = false ∧ wordMax ≤ (s.errorsOf operation).toNat) := by
  have full : ¬ (s.target operation).HasRoom 1 (if success then 0 else 1) ↔
      wordMax ≤ (s.requestsOf operation).toNat ∨
        success = false ∧ wordMax ≤ (s.errorsOf operation).toNat := by
    rw [Accumulator.HasRoom, requests_target, errors_target]
    have : (s.errorsOf operation).toNat ≤ wordMax := Nat.le_of_lt_succ (UInt64.toNat_lt _)
    cases success <;> simp <;> omega
  rw [record?, Accumulator.record?, ← full]
  by_cases room : (s.target operation).HasRoom 1 (if success then 0 else 1)
  · simp [Except.map, room]
  · simp [Except.map, room, eq_comm]

/-- One request is few. -/
theorem counts_of_one (kind : StatsKind) :
    (((empty kind : Statistics R).record operation latency success).requestsOf name).toNat ≤ 1 ∧
      (((empty kind : Statistics R).record operation latency success).errorsOf name).toNat ≤ 1 := by
  rw [requestsOf_record, errorsOf_record, requestsOf_empty, errorsOf_empty]
  constructor <;> split <;> decide

/-! ### Rounds -/

/-- A request and its answer. -/
structure Round where
  operation : Operation
  response : Except StoreError Response

/-- The number of requests that statistics have of the operations of a stress test. -/
def total (s : RunStatistics) : Nat :=
  (s.requestsOf "GET").toNat + (s.requestsOf "PUT").toNat + (s.requestsOf "REMOVE").toNat

/-- Statistics hold rounds: each of them counts once as a request of its operation, and as an error
exactly if the store answered with one. -/
structure Recorded (s : RunStatistics) (log : List Round) : Prop where
  names : ∀ name, name ∈ s.operations.keys ↔ ∃ r ∈ log, r.operation.name = name
  requests : ∀ name, (s.requestsOf name).toNat = log.countP fun r => r.operation.name = name
  errors : ∀ name, (s.errorsOf name).toNat =
    log.countP fun r => r.operation.name = name ∧ r.response.isOk = false

namespace Recorded

variable {s t : RunStatistics} {log : List Round}

theorem empty (kind : StatsKind) : Recorded (.empty kind) [] where
  names _ := by simp [Statistics.empty, OrderedMap.keys, OrderedMap.empty]
  requests _ := rfl
  errors _ := rfl

/-- Only the operations matter. -/
theorem of_operations (h : Recorded s log) (same : t.operations = s.operations) :
    Recorded t log := by
  refine ⟨fun name => ?_, fun name => ?_, fun name => ?_⟩
  · rw [same, h.names]
  · rw [requestsOf, operation?, same]
    exact h.requests name
  · rw [errorsOf, operation?, same]
    exact h.errors name

theorem record (h : Recorded s log) (r : Round) (latency : Span) (few : log.length + 1 < 2 ^ 64) :
    Recorded (s.record r.operation.name latency r.response.isOk) (log ++ [r]) := by
  -- a counter that tells how many rounds have a property counts one more
  have count {n : UInt64} {p : Round → Bool} (hn : n.toNat = log.countP p) :
      (if p r then n + 1 else n).toNat = (log ++ [r]).countP p := by
    have := log.countP_le_length (p := p)
    rw [List.countP_append, List.countP_singleton]
    split
    · rw [UInt64.toNat_add, hn, UInt64.toNat_one, Nat.mod_eq_of_lt (by omega)]
    · exact hn
  refine ⟨fun name => ?_, fun name => ?_, fun name => ?_⟩
  · rw [mem_keys_record, h.names]
    simp only [List.mem_append, List.mem_singleton, or_and_right, exists_or, exists_eq_left]
    exact or_comm.trans (or_congr_right eq_comm)
  · rw [requestsOf_record, ← count (h.requests name)]
    simp only [decide_eq_true_eq, @eq_comm _ name]
  · rw [errorsOf_record, ← count (h.errors name)]
    simp only [decide_eq_true_eq, @eq_comm _ name]

/-- The operations of a stress test have three names. -/
theorem total_eq (h : Recorded s log) : s.total = log.length := by
  rw [total, h.requests, h.requests, h.requests]
  clear h
  induction log with
  | nil => rfl
  | cons r rest ih =>
    simp only [List.countP_cons, List.length_cons, ← ih]
    cases r.operation <;> simp [Operation.name] <;> omega

end Recorded

end Statistics

end LoadFleet
