import LoadFleet.Proofs.FailedMerges
import LoadFleet.Proofs.Rounds
/-!
# Counters after merging and recording

Counters are words.  Whatever the two sides of a merge hold, for statistics can be read from
anywhere, a merge that succeeds adds their counters operation by operation, and every request that
is recorded afterwards adds one.  A counter is the exact sum of what went into it, for where that is
no word merging or recording is an overflow, and so is adding up the requests of all operations.

* `Statistics.recordEach?_cases`: by induction over the requests, what recording them adds, and that
  it is an overflow exactly if a sum is no word.
* `Statistics.totals?_eq`: adding up the requests of all operations is an overflow exactly if their
  sum is no word, whatever it comes to on the way.
* `Statistics.counts_of_merged`: the main statement.
* `Statistics.totals?_overflows`: two statistics that can be read and merge, with an overflow when
  their requests are added up.
-/

namespace LoadFleet

namespace Statistics

variable {R : Type} [Scalar R] {s t u v : Statistics R}

/-! ### Recording -/

/-- Records samples, each under the name of its operation, up to an overflow. -/
def recordEach? (s : Statistics R) (log : List (String × Sample)) :
    Except StatsError (Statistics R) :=
  log.foldlM (fun s e => s.record? e.1 e.2.1 e.2.2) s

/-- The number of requests of an operation in a list of requests. -/
def requestsIn (name : String) (log : List (String × Sample)) : Nat :=
  log.countP fun e => e.1 = name

/-- The number of failed requests of an operation in a list of requests. -/
def errorsIn (name : String) (log : List (String × Sample)) : Nat :=
  log.countP fun e => e.1 = name && !e.2.2

theorem requestsIn_cons (name operation : String) (x : Sample) (r : List (String × Sample)) :
    requestsIn name ((operation, x) :: r) =
      (if name = operation then 1 else 0) + requestsIn name r := by
  rw [requestsIn, List.countP_cons, Nat.add_comm, requestsIn]
  simp only [decide_eq_true_eq, @eq_comm _ name]

theorem errorsIn_cons (name operation : String) (x : Sample) (r : List (String × Sample)) :
    errorsIn name ((operation, x) :: r) =
      (if name = operation ∧ x.2 = false then 1 else 0) + errorsIn name r := by
  rw [errorsIn, List.countP_cons, Nat.add_comm, errorsIn]
  simp only [Bool.and_eq_true, decide_eq_true_eq, Bool.not_eq_true', @eq_comm _ name]

/-- The second statistics count what the first do, and what was recorded besides. -/
structure Adds (s : Statistics R) (log : List (String × Sample)) (v : Statistics R) : Prop where
  names : ∀ name, name ∈ v.operations.keys ↔ name ∈ s.operations.keys ∨ name ∈ log.map (·.1)
  requests : ∀ name, (v.requestsOf name).toNat = (s.requestsOf name).toNat + requestsIn name log
  errors : ∀ name, (v.errorsOf name).toNat = (s.errorsOf name).toNat + errorsIn name log

/-- Words have room for what statistics count and what is recorded besides. -/
def HasRoomFor (s : Statistics R) (log : List (String × Sample)) : Prop := ∀ name,
  (s.requestsOf name).toNat + requestsIn name log ≤ wordMax ∧
    (s.errorsOf name).toNat + errorsIn name log ≤ wordMax

section

variable {operation : String} {latency : Span} {success : Bool} {log : List (String × Sample)}

/-- What is recorded first counts as what was there before the rest. -/
theorem counts_cons (first : s.record? operation latency success = .ok t) (name : String) :
    (s.requestsOf name).toNat + requestsIn name ((operation, latency, success) :: log) =
        (t.requestsOf name).toNat + requestsIn name log ∧
      (s.errorsOf name).toNat + errorsIn name ((operation, latency, success) :: log) =
        (t.errorsOf name).toNat + errorsIn name log := by
  obtain ⟨requests, errors⟩ := counts_of_record? first name
  rw [requestsIn_cons, errorsIn_cons, requests, errors]
  exact ⟨(Nat.add_assoc ..).symm, (Nat.add_assoc ..).symm⟩

theorem hasRoomFor_cons (first : s.record? operation latency success = .ok t) :
    s.HasRoomFor ((operation, latency, success) :: log) ↔ t.HasRoomFor log := by
  simp only [HasRoomFor, counts_cons first]

/-- If there is no room for the first request, there is none for all of them. -/
theorem not_hasRoomFor_cons (first : s.record? operation latency success = .error .overflow) :
    ¬ s.HasRoomFor ((operation, latency, success) :: log) := fun room => by
  obtain ⟨requests, errors⟩ := room operation
  rw [requestsIn_cons, if_pos rfl] at requests
  rw [errorsIn_cons] at errors
  rcases ((record?_eq_error_iff ..).1 first).2 with full | ⟨rfl, full⟩
  · omega
  · rw [if_pos ⟨rfl, rfl⟩] at errors
    omega

theorem Adds.cons (first : s.record? operation latency success = .ok t) (rest : t.Adds log v) :
    s.Adds ((operation, latency, success) :: log) v where
  names name := by
    rw [rest.names, ← (record?_eq_ok_iff.1 first).2, mem_keys_record, List.map_cons, List.mem_cons]
    tauto
  requests name := by rw [rest.requests, (counts_cons first name).1]
  errors name := by rw [rest.errors, (counts_cons first name).2]

end

/-- **Recording requests** counts each of them once, and is an overflow exactly if there is no
room. -/
theorem recordEach?_cases (log : List (String × Sample)) :
    (s.HasRoomFor log ∧ ∃ v, s.recordEach? log = .ok v ∧ s.Adds log v) ∨
      ¬ s.HasRoomFor log ∧ s.recordEach? log = .error .overflow := by
  induction log generalizing s with
  | nil =>
    have room : s.HasRoomFor [] := fun name =>
      ⟨Nat.le_of_lt_succ (UInt64.toNat_lt _), Nat.le_of_lt_succ (UInt64.toNat_lt _)⟩
    exact .inl ⟨room, s, rfl, by simp, fun _ => rfl, fun _ => rfl⟩
  | cons e r ih =>
    obtain ⟨operation, latency, success⟩ := e
    rw [recordEach?, List.foldlM_cons]
    cases first : s.record? operation latency success with
    | error e =>
      obtain ⟨rfl, -⟩ := (record?_eq_error_iff ..).1 first
      exact .inr ⟨not_hasRoomFor_cons first, rfl⟩
    | ok t =>
      rw [hasRoomFor_cons first]
      rcases ih (s := t) with ⟨room, v, recorded, adds⟩ | ⟨full, overflows⟩
      · exact .inl ⟨room, v, recorded, adds.cons first⟩
      · exact .inr ⟨full, overflows⟩

/-! ### All operations -/

/-- The number of requests of all operations. -/
def requestTotal (s : Statistics R) : Nat :=
  (s.operations.values.map fun a => a.requests.toNat).sum

/-- Adds the mean latency of an accumulator as often as there are requests. -/
def weigh (weighted : R) (a : Accumulator R) : R :=
  weighted + a.mean * Scalar.ofNat a.requests.toNat

/-- The weighted mean latencies of all operations. -/
def weightedTotal (s : Statistics R) : R := s.operations.values.foldl weigh (Scalar.ofNat 0)

/-- Adding up accumulators is an overflow exactly if their sum is no word, whatever it comes to on
the way. -/
theorem foldlM_addTotals? (l : List (Accumulator R)) (requests : UInt64) (weighted : R) :
    l.foldlM addTotals? (requests, weighted) =
      if requests.toNat + (l.map fun a => a.requests.toNat).sum ≤ wordMax then
        .ok ((requests.toNat + (l.map fun a => a.requests.toNat).sum).toUInt64,
          l.foldl weigh weighted)
      else .error .overflow := by
  induction l generalizing requests weighted with
  | nil =>
    have fits : requests.toNat ≤ wordMax := Nat.le_of_lt_succ requests.toNat_lt
    simp [fits, pure, Except.pure]
  | cons a r ih =>
    rw [List.foldlM_cons, addTotals?, List.map_cons, List.sum_cons, ← Nat.add_assoc]
    by_cases room : requests.toNat + a.requests.toNat ≤ wordMax
    · rw [if_pos room, List.foldl_cons, ← toNat_add_of_le room]
      exact ih _ _
    · rw [if_neg room, if_neg (fun fits => room ((Nat.le_add_right ..).trans fits))]
      rfl

theorem totals?_eq (s : Statistics R) :
    s.totals? =
      if s.requestTotal ≤ wordMax then .ok (s.requestTotal.toUInt64, s.weightedTotal)
      else .error .overflow := by
  rw [totals?, foldlM_addTotals?, UInt64.toNat_zero, Nat.zero_add]
  rfl

omit [Scalar R] in
/-- The requests of all operations, operation by operation. -/
theorem requestTotal_eq (s : Statistics R) :
    s.requestTotal = (s.operations.keys.map fun name => (s.requestsOf name).toNat).sum := by
  rw [requestTotal, OrderedMap.values, OrderedMap.keys, List.map_map, List.map_map]
  refine congrArg List.sum (List.map_congr_left fun e he => ?_)
  have found : s.operation? e.1 = some e.2 := OrderedMap.find?_eq_some_iff.2 he
  simp [requestsOf, found]

/-! ### Both together -/

/-- How the counters of two sides come to be `both` when they are merged, and `later` after a number
of things more are counted. -/
structure AddsUp (left right both later : UInt64) (more : Nat) : Prop where
  merged : both.toNat = left.toNat + right.toNat
  counted : later.toNat = left.toNat + right.toNat + more
  /-- No counter has become smaller on the way. -/
  grows : left ≤ both ∧ right ≤ both ∧ both ≤ later
  /-- And none is zero unless nothing was counted. -/
  zero : later = 0 ↔ left = 0 ∧ right = 0 ∧ more = 0

theorem addsUp_of_counted {left right both later : UInt64} {more : Nat}
    (merged : both.toNat = left.toNat + right.toNat) (counted : later.toNat = both.toNat + more) :
    AddsUp left right both later more := by
  rw [merged] at counted
  refine ⟨merged, counted, ?_, ?_⟩
  all_goals
    simp only [UInt64.le_iff_toNat_le, ← UInt64.toNat_inj, UInt64.toNat_zero]
    omega

/-- **Counters after merging and recording.**  Let a merge succeed, of any two statistics, and let
any requests be recorded afterwards.  Recording is an overflow exactly if a sum of what both sides
count and what is recorded is no word.  Otherwise the counters of each operation are these sums, no
counter has become smaller on the way, and an operation counts as empty only if nothing was counted.
The total number of requests is the sum over the operations, or an overflow exactly if that is no
word. -/
theorem counts_of_merged (h : s.merge? t = .ok u) (log : List (String × Sample)) :
    let requests (name : String) : Nat :=
      (s.requestsOf name).toNat + (t.requestsOf name).toNat + requestsIn name log
    let errors (name : String) : Nat :=
      (s.errorsOf name).toNat + (t.errorsOf name).toNat + errorsIn name log
    (u.recordEach? log = .error .overflow ↔
      ∃ name, wordMax < requests name ∨ wordMax < errors name) ∧
    ((∀ name, requests name ≤ wordMax ∧ errors name ≤ wordMax) → ∃ v, u.recordEach? log = .ok v ∧
      (∀ name, name ∈ v.operations.keys ↔
        name ∈ s.operations.keys ∨ name ∈ t.operations.keys ∨ name ∈ log.map (·.1)) ∧
      (∀ name, AddsUp (s.requestsOf name) (t.requestsOf name) (u.requestsOf name)
        (v.requestsOf name) (requestsIn name log)) ∧
      (∀ name, AddsUp (s.errorsOf name) (t.errorsOf name) (u.errorsOf name) (v.errorsOf name)
        (errorsIn name log)) ∧
      (∀ name a, v.operation? name = some a → (a.isEmpty ↔ requests name = 0)) ∧
      v.totals? =
        if (v.operations.keys.map requests).sum ≤ wordMax then
          .ok ((v.operations.keys.map requests).sum.toUInt64, v.weightedTotal)
        else .error .overflow) := by
  intro requests errors
  obtain ⟨-, joins⟩ := joins_of_merge? h
  have room : u.HasRoomFor log ↔ ∀ name, requests name ≤ wordMax ∧ errors name ≤ wordMax := by
    simp only [HasRoomFor, joins.requests, joins.errors, requests, errors]
  have full : (¬ ∀ name, requests name ≤ wordMax ∧ errors name ≤ wordMax) ↔
      ∃ name, wordMax < requests name ∨ wordMax < errors name := by
    simp only [not_forall, not_and_or, Nat.not_le]
  rcases recordEach?_cases (s := u) log with ⟨fits, v, recorded, adds⟩ | ⟨noRoom, overflows⟩
  · rw [room] at fits
    refine ⟨iff_of_false (by rw [recorded]; nofun) (mt full.2 (not_not_intro fits)),
      fun _ => ⟨v, recorded, fun name => ?_, fun name => ?_, fun name => ?_, fun name a found => ?_,
        ?_⟩⟩
    · rw [adds.names, joins.names, or_assoc]
    · exact addsUp_of_counted (joins.requests name) (adds.requests name)
    · exact addsUp_of_counted (joins.errors name) (adds.errors name)
    · have held : v.requestsOf name = a.requests := by simp [requestsOf, found]
      rw [Accumulator.isEmpty, decide_eq_true_iff, ← held, ← UInt64.toNat_inj, adds.requests,
        joins.requests]
      rfl
    · have each : (v.operations.keys.map fun name => (v.requestsOf name).toNat) =
          v.operations.keys.map requests :=
        List.map_congr_left fun name _ => by rw [adds.requests, joins.requests]
      rw [totals?_eq, requestTotal_eq, each]
  · rw [room] at noRoom
    exact ⟨iff_of_true overflows (full.1 noRoom), fun fits => absurd fits noRoom⟩

/-- A request on each side, one of which failed, and two more afterwards. -/
theorem counts_of_merged_two :
    let s : RunStatistics := (empty .basic).record "GET" (.ofNanos 5) true
    let t : RunStatistics := (empty .basic).record "GET" (.ofNanos 9) false
    let log : List (String × Sample) := [("GET", .ofNanos 7, false), ("PUT", .ofNanos 1, true)]
    ∃ u v, s.merge? t = .ok u ∧ u.recordEach? log = .ok v ∧ (v.requestsOf "GET").toNat = 3 ∧
      (v.errorsOf "GET").toNat = 2 ∧ "PUT" ∈ v.operations.keys := by
  intro s t log
  have merges : (s.merge? t).toOption.isSome := by decide
  cases merged : s.merge? t with
  | error e => simp [merged, Except.toOption] at merges
  | ok u =>
    obtain ⟨-, recorded⟩ := counts_of_merged merged log
    -- no more than four requests
    obtain ⟨v, hv, names, requests, errors, -⟩ := recorded fun name => by
      have hs := counts_of_one (R := Float) "GET" (.ofNanos 5) true name .basic
      have ht := counts_of_one (R := Float) "GET" (.ofNanos 9) false name .basic
      exact ⟨(Nat.add_le_add (Nat.add_le_add hs.1 ht.1) List.countP_le_length).trans (by decide),
        (Nat.add_le_add (Nat.add_le_add hs.2 ht.2) List.countP_le_length).trans (by decide)⟩
    exact ⟨u, v, rfl, hv, (requests "GET").counted.trans (by decide),
      (errors "GET").counted.trans (by decide), (names "PUT").2 (.inr (.inr (by decide)))⟩

/-! ### More requests than a word counts -/

/-- Statistics of a second, with a number of requests of a microsecond of one operation. -/
def counted (name : String) (requests : UInt64) : RunStatistics :=
  ⟨.basic, some (.ofNanos 0), some (.ofNanos 1000000000),
    .ofList [(name, .basic ⟨requests, 0, 1000, 1000, 1000, 0⟩)]⟩

theorem written_counted (name : String) (requests : UInt64) : (counted name requests).Written := by
  have numbers : Json.Rereads 1000 ∧ Json.Rereads 0 := by decide +kernel
  intro e he
  have listed := (OrderedMap.entries_ofList (by simp)).mem_iff.1 he
  cases List.mem_singleton.1 listed
  exact numbers

/-- **A total that is no word.**  Both sides can be read, and they merge.  The total number of
requests is not the sum over the operations, but an overflow, and so is the rate of all
operations. -/
theorem totals?_overflows :
    let s := counted "GET" 0x8000000000000000
    let t := counted "PUT" 0x8000000000000000
    read? s.toJson.compact = some s ∧ read? t.toJson.compact = some t ∧
    ∃ u, s.merge? t = .ok u ∧ (u.requestsOf "GET").toNat = 2 ^ 63 ∧
      (u.requestsOf "PUT").toNat = 2 ^ 63 ∧ u.totals? = .error .overflow ∧
      ∀ units, u.totalThroughput? units = .error .overflow := by
  intro s t
  refine ⟨(written_counted _ _).read?_compact, (written_counted _ _).read?_compact, ?_⟩
  have merges : (s.merge? t).toOption.any fun u => decide ((u.requestsOf "GET").toNat = 2 ^ 63) &&
      decide ((u.requestsOf "PUT").toNat = 2 ^ 63) && decide (wordMax < u.requestTotal) := by
    decide +kernel
  cases merged : s.merge? t with
  | error e => simp [merged, Except.toOption] at merges
  | ok u =>
    simp only [merged, Except.toOption, Option.any_some, Bool.and_eq_true, decide_eq_true_eq]
      at merges
    obtain ⟨⟨first, second⟩, large⟩ := merges
    have overflows : u.totals? = .error .overflow := by
      rw [totals?_eq, if_neg (Nat.not_le.2 large)]
    exact ⟨u, rfl, first, second, overflows, fun units => by
      rw [totalThroughput?, overflows]
      rfl⟩

end Statistics

end LoadFleet
