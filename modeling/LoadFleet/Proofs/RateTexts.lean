import LoadFleet.Proofs.ElementsResult
import LoadFleet.Proofs.Percentiles
import LoadFleet.Proofs.RoundingErrors
/-!
# Rates of workers and of all workers

A stress test reports the rates of each worker and adds them up for all workers.  A rate of a worker
that is alone is added to zero, which changes no number that has no sign, and rates have none: they
are quotients of numbers without a sign.  So the texts are the same.

There is one number with a sign that is added up.  A worker that moved no payload has the empty sum,
which is a negative zero and is written so; added to zero it is zero.

* `Signless`, `Unsigned.signless_bytesText`: numbers without a sign are written without one.
* `bytesPerSecond?_eq_none_iff`: however short an interval is, its length in seconds is above zero.
* `Statistics.Transfers`: some payload was moved, so that the sum of a worker is not empty.
* `throughputResult?_shows`, `dataThroughputResult?_shows`: what the two results show.
* `aggregate_rates`: the main statement.
* `aggregate_of_removals`: a worker that moved no payload.
-/

namespace LoadFleet

open Float.Model Float.Model.UnpackedFloat

/-! ### Texts without a sign -/

/-- A text has no sign in it. -/
def Signless (text : String) : Prop := '-' ∉ text.toList

theorem Signless.append {a b : String} (ha : Signless a) (hb : Signless b) : Signless (a ++ b) := by
  rw [Signless, String.toList_append, List.mem_append]
  exact not_or.2 ⟨ha, hb⟩

theorem signless_repr (n : Nat) : Signless (Nat.repr n) := by
  rw [Signless, Nat.toList_repr]
  exact fun sign => absurd (isDigit_of_mem_numeral sign) (by decide)

theorem signless_pointText (units places : Nat) : Signless (pointText units places) := by
  unfold pointText
  split
  · exact signless_repr units
  · have point : Signless "." := by unfold Signless; decide
    have zeros (n : Nat) : Signless (String.ofList (List.replicate n '0')) := by
      rw [Signless, String.toList_ofList]
      exact fun sign => absurd (List.eq_of_mem_replicate sign) (by decide)
    exact (((signless_repr _).append point).append (zeros _)).append (signless_repr _)

/-- No number without a sign is below zero. -/
theorem Unsigned.not_lt {x : Float} (h : Unsigned x) : ¬ x < 0 := by
  have zero : (0 : Float).toModel.unpack = .zero .positive := rfl
  change ¬ decide (x.toModel.unpack.lt (0 : Float).toModel.unpack = true) = true
  rw [zero, decide_eq_true_iff]
  unfold Unsigned at h
  generalize x.toModel.unpack = a at h
  cases a <;> cases h <;> exact Bool.false_ne_true

theorem Unsigned.signless_fixedPlaces {x : Float} (h : Unsigned x) (places : Nat) :
    Signless (fixedPlaces places x) := by
  unfold fixedPlaces
  cases known : Dyadic.ofFloat? x with
  | none =>
    have texts : Signless "NaN" ∧ Signless "inf" ∧ Signless "" := by unfold Signless; decide
    dsimp only
    rw [nonFinite?]
    split
    · exact texts.1
    · rw [if_neg h.not_lt]
      split
      · exact texts.2.1
      · exact texts.2.2
  | some d =>
    have positive : d.negative = false := by
      have small := h.toBits_lt
      rw [Dyadic.ofFloat?] at known
      split_ifs at known <;> cases known <;> simpa using small
    dsimp only
    rw [positive]
    have none : Signless "" := by unfold Signless; decide
    exact none.append (signless_pointText _ _)

theorem Unsigned.signless_bytesText {x : Float} (h : Unsigned x) : Signless (bytesText x) := by
  have unit : Signless " B/s" := by unfold Signless; decide
  exact (h.signless_fixedPlaces 2).append unit

/-! ### Rates without a sign -/

theorem unsigned_ofNat {n : Nat} (few : n < 2 ^ 64) : Unsigned (Scalar.ofNat n) := by
  change Unsigned (floatOfCount n)
  rw [floatOfCount_eq few]
  exact unsigned_toFloat _

theorem unsigned_ofNat_word (n : UInt64) : Unsigned (Scalar.ofNat n.toNat) :=
  unsigned_ofNat n.toNat_lt

/-- A number that a rate is divided by is not at most zero, and so has no sign. -/
theorem unsigned_of_atMost {x : Float} (h : Scalar.atMost x (Scalar.ofNat 0 : Float) = false) :
    Unsigned x := by
  have zero : (Scalar.ofNat 0 : Float) = 0 := by decide
  rw [zero] at h
  exact unsigned_of_not_le (of_decide_eq_false h)

/-- Neither of two rates of requests has a sign. -/
def Throughput.Unsigned (t : Throughput Float) : Prop :=
  LoadFleet.Unsigned t.theoretical ∧ LoadFleet.Unsigned t.actual

theorem Throughput.unsigned_of_compute? {requests : UInt64} {mean : Float} {units : UInt64}
    {span : Span} {t : Throughput Float} (h : compute? requests mean units span = some t) :
    t.Unsigned := by
  simp only [compute?] at h
  split at h
  · cases h
  · next guard =>
    cases h
    obtain ⟨nanos, positive⟩ := Bool.or_eq_false_iff.1 (Bool.not_eq_true _ ▸ guard)
    have second := unsigned_ofNat (n := nanosPerSecond) (by decide)
    exact ⟨(second.mul (unsigned_ofNat_word units)).div (unsigned_of_atMost positive),
      (second.mul (unsigned_ofNat_word requests)).div (unsigned_of_atMost nanos)⟩

theorem unsigned_of_bytesPerSecond? {requests bytes : UInt64} {span : Span} {rate : Float}
    (h : bytesPerSecond? requests bytes span = some rate) : Unsigned rate := by
  simp only [bytesPerSecond?] at h
  split at h
  · cases h
  · next guard =>
    cases h
    exact ((unsigned_ofNat_word requests).mul (unsigned_ofNat_word bytes)).div
      (unsigned_of_atMost (Bool.not_eq_true _ ▸ guard))

theorem Statistics.unsigned_of_totalThroughput? {s : RunStatistics} {units : UInt64}
    {t : Throughput Float} (h : s.totalThroughput? units = .ok (some t)) : t.Unsigned := by
  rw [totalThroughput?] at h
  cases total : s.totals? with
  | error e =>
    rw [total] at h
    cases h
  | ok totals =>
    rw [total] at h
    have rate := Except.ok.inj h
    dsimp only [rateOf?] at rate
    split at rate
    · cases rate
    · obtain ⟨span, -, rate⟩ := Option.bind_eq_some_iff.1 rate
      exact Throughput.unsigned_of_compute? rate

/-! ### When there is a rate of bytes -/

namespace Rounding

/-- A span in seconds is four roundings away from its length. -/
theorem inSeconds_within (span : Span) :
    (span.inSeconds : Float).isFinite ∧
      Within 4 (span.nanos / nanosPerSecond) (valueOf (span.inSeconds : Float)) := by
  have few : span.seconds < 2 ^ 64 := Nat.div_lt_of_lt_mul (Nat.mul_comm .. ▸ span.bounded)
  have below : span.subsecond < nanosPerSecond := Nat.mod_lt _ (by decide)
  obtain ⟨finite, whole, within⟩ := floatOfCount_within few
  obtain ⟨finite₁, size₁, within₁⟩ := floatOfCount_within (below.trans (by decide))
  obtain ⟨finite₂, size₂, within₂⟩ := floatOfCount_within (by decide : nanosPerSecond < 2 ^ 64)
  have one := one_le_floatOfCount (by decide : nanosPerSecond ≠ 0) (by decide)
  obtain ⟨finite₃, part, rounded⟩ :=
    quotient_within finite₁ finite₂ size₁ one size₂.most (by decide) (by decide)
  have size : Sized (0 - 64) 65 (valueOf (floatOfCount span.seconds) +
      valueOf (floatOfCount span.subsecond / floatOfCount nanosPerSecond)) :=
    ⟨(whole.mono (by decide) le_rfl).add part,
      (add_le_add whole.most part.most).trans_eq (by norm_num)⟩
  obtain ⟨finite, -, last⟩ :=
    (add_rounds finite finite₃).sized_of_nonneg (by decide) (by decide) size
  have split : (span.nanos / nanosPerSecond : ℚ) =
      span.seconds + span.subsecond / nanosPerSecond := by
    have nanos : span.nanos = nanosPerSecond * span.seconds + span.subsecond :=
      (Nat.div_add_mod _ _).symm
    have second : (nanosPerSecond : ℚ) ≠ 0 := by decide
    rw [nanos, Nat.cast_add, Nat.cast_mul, add_div, mul_div_cancel_left₀ _ second]
  rw [split]
  exact ⟨finite, ((within.mono (by decide)).add ((within₁.div within₂).trans rounded)).trans last⟩

end Rounding

/-- There is no rate of bytes exactly if nothing passes. -/
theorem bytesPerSecond?_eq_none_iff {requests bytes : UInt64} {span : Span} :
    (bytesPerSecond? requests bytes span : Option Float) = none ↔ span.nanos = 0 := by
  have none : (bytesPerSecond? requests bytes span : Option Float) = none ↔
      Scalar.atMost (span.inSeconds : Float) (Scalar.ofNat 0) = true := by
    simp [bytesPerSecond?]
  rw [none]
  constructor
  · contrapose!
    intro passes
    obtain ⟨finite, within⟩ := Rounding.inSeconds_within span
    have zero : (Scalar.ofNat 0 : Float) = 0 := by decide
    have nanos : (0 : ℚ) < span.nanos := by exact_mod_cast Nat.pos_of_ne_zero passes
    have positive := within.pos (div_pos nanos (by norm_num [nanosPerSecond]))
    rw [zero]
    intro le
    exact positive.not_ge ((Rounding.le_iff finite rfl).1 (of_decide_eq_true le))
  · intro idle
    obtain rfl : span = .zero := Span.ext idle
    decide

/-! ### The bytes of a worker -/

/-- Some operation moved payload, in an interval in which something passed. -/
def Statistics.Transfers (s : RunStatistics) : Prop :=
  (∃ name ∈ ["GET", "PUT"], ∃ a, s.operation? name = some a) ∧
    ∃ span, s.span? = some span ∧ span.nanos ≠ 0

/-- There is a rate of an operation exactly if it is known and something passed. -/
theorem Statistics.exists_dataThroughput? {s : RunStatistics} {name : String} {bytes : UInt64} :
    (∃ rate, s.dataThroughput? name bytes = some rate) ↔
      (∃ a, s.operation? name = some a) ∧ ∃ span, s.span? = some span ∧ span.nanos ≠ 0 := by
  cases known : s.operation? name with
  | none => simp [dataThroughput?, known]
  | some a =>
    cases interval : s.span? with
    | none => simp [dataThroughput?, known, interval]
    | some span =>
      have rate : s.dataThroughput? name bytes = bytesPerSecond? a.requests bytes span := by
        simp [dataThroughput?, known, interval]
      rw [rate, ← Option.isSome_iff_exists, Option.isSome_iff_ne_none, ne_eq,
        bytesPerSecond?_eq_none_iff]
      simp

theorem Statistics.unsigned_of_dataThroughput? {s : RunStatistics} {name : String}
    {bytes : UInt64} {rate : Float} (h : s.dataThroughput? name bytes = some rate) :
    Unsigned rate := by
  obtain ⟨a, -, h⟩ := Option.bind_eq_some_iff.1 h
  obtain ⟨span, -, h⟩ := Option.bind_eq_some_iff.1 h
  exact unsigned_of_bytesPerSecond? h

variable {entrySize : UInt64} {s : RunStatistics}

theorem Statistics.Transfers.unsigned (h : s.Transfers) : Unsigned (transferred entrySize s) := by
  obtain ⟨⟨name, listed, known⟩, interval⟩ := h
  obtain ⟨rate, h⟩ : ∃ rate, s.dataThroughput? name entrySize = some rate :=
    exists_dataThroughput?.2 ⟨known, interval⟩
  refine Samples.unsigned_total (List.ne_nil_of_mem (List.mem_filterMap.2 ⟨name, listed, h⟩)) ?_
  intro x hx
  obtain ⟨_, -, h⟩ := List.mem_filterMap.1 hx
  exact unsigned_of_dataThroughput? h

/-- A worker that moved nothing has the empty sum. -/
theorem transferred_of_idle (idle : ¬ s.Transfers) : transferred entrySize s = -0.0 := by
  have nothing : ["GET", "PUT"].filterMap (fun name => s.dataThroughput? name entrySize) = [] := by
    rw [List.filterMap_eq_nil_iff]
    intro name listed
    by_contra some
    obtain ⟨known, interval⟩ :=
      Statistics.exists_dataThroughput?.1 (Option.ne_none_iff_exists'.1 some)
    exact idle ⟨⟨name, listed, known⟩, interval⟩
  rw [transferred, nothing]
  rfl

/-! ### Running totals -/

/-- One more rate of requests in a running total. -/
def Throughput.plus (sum t : Throughput Float) : Throughput Float :=
  ⟨sum.theoretical + t.theoretical, sum.actual + t.actual⟩

namespace Throughput.Unsigned

variable {sum t : Throughput Float}

theorem plus (hs : sum.Unsigned) (ht : t.Unsigned) : (sum.plus t).Unsigned :=
  ⟨hs.1.add ht.1, hs.2.add ht.2⟩

theorem foldl (hs : sum.Unsigned) {A : Type} {f : A → Throughput Float} {l : List A}
    (all : ∀ a ∈ l, (f a).Unsigned) : (l.foldl (fun sum a => sum.plus (f a)) sum).Unsigned := by
  induction l generalizing sum with
  | nil => exact hs
  | cons a r ih =>
    obtain ⟨first, rest⟩ := List.forall_mem_cons.1 all
    exact ih (hs.plus first) rest

theorem zero_plus (h : t.Unsigned) : Throughput.plus ⟨0, 0⟩ t = t := by
  rw [Throughput.plus, zero_add_of_unsigned h.1, zero_add_of_unsigned h.2]

theorem signless_text (h : t.Unsigned) : Signless t.text := by
  have between : Signless " reqs/s (theoretical " ∧ Signless " reqs/s)" := by
    unfold Signless
    decide
  exact (((h.2.signless_fixedPlaces 2).append between.1).append
    (h.1.signless_fixedPlaces 2)).append between.2

end Throughput.Unsigned

/-! ### The statistics of workers -/

namespace Acknowledgements

/-- The stressors of a worker, so many of them, have these statistics together. -/
def Together (acks : Acknowledgements) (worker : WorkerIndex) (units : UInt64)
    (s : RunStatistics) : Prop :=
  ∃ threads, acks.Stressed worker threads ∧ threads.length.toUInt64 = units ∧
    Statistics.mergeAll threads = .ok (some s)

/-- The stressors of a worker made requests at this rate. -/
def Reaches (acks : Acknowledgements) (worker : WorkerIndex) (t : Throughput Float) : Prop :=
  ∃ units s, acks.Together worker units s ∧ s.totalThroughput? units = .ok (some t)

variable {acks : Acknowledgements} {worker : WorkerIndex} {units units' : UInt64}
  {s s' : RunStatistics}

theorem Together.unique (h : acks.Together worker units s) (h' : acks.Together worker units' s') :
    s = s' := by
  obtain ⟨threads, ⟨ack, found, payload⟩, -, merged⟩ := h
  obtain ⟨threads', ⟨ack', found', payload'⟩, -, merged'⟩ := h'
  cases found.symm.trans found'
  cases payload.symm.trans payload'
  cases merged.symm.trans merged'
  rfl

/-- No worker has statistics twice. -/
theorem nodup_statistics (acks : Acknowledgements) : (acks.statistics.map (·.1)).Nodup := by
  refine acks.nodup_keys.sublist (sublist_filterMap_keys ?_ acks.entries)
  rintro ⟨worker, ack⟩ kept found
  cases payload : ack.payload with
  | statistics =>
    simp only [payload, Option.some.injEq] at found
    rw [← found]
  | none | iteration => simp [payload] at found

end Acknowledgements

section

variable {l : List (WorkerIndex × List RunStatistics)}
  {workers : List (WorkerIndex × WorkerTotal)} {acks : Acknowledgements}

theorem workerTotal?_eq_ok_iff {threads : List RunStatistics} {s : RunStatistics}
    {rate : Option (Throughput Float)} : workerTotal? threads = .ok (some (s, rate)) ↔
      Statistics.mergeAll threads = .ok (some s) ∧
        s.totalThroughput? threads.length.toUInt64 = .ok rate := by
  constructor
  · intro h
    obtain ⟨merged, merges, h⟩ := ok_of_bind h
    cases merged with
    | none => cases h
    | some u =>
      obtain ⟨reached, rated, h⟩ := ok_of_bind h
      cases h
      exact ⟨merges, rated⟩
  · rintro ⟨merges, rated⟩
    rw [workerTotal?, merges]
    show (s.totalThroughput? threads.length.toUInt64 >>= _) = _
    rw [rated]
    rfl

/-- What each worker comes to, if there is something. -/
theorem mergeWorkers?_eq_ok (h : mergeWorkers? l = .ok workers) :
    workers = l.filterMap fun e => (workerTotal? e.2).toOption.join.map fun t => (e.1, t) := by
  induction l generalizing workers with
  | nil =>
    cases h
    rfl
  | cons e r ih =>
    obtain ⟨total, here, h⟩ := ok_of_bind h
    obtain ⟨rest, there, h⟩ := ok_of_bind h
    rw [List.filterMap_cons, ← ih there, here]
    cases total <;> cases h <;> rfl

theorem mem_of_mergeWorkers? (h : mergeWorkers? acks.statistics = .ok workers)
    {worker : WorkerIndex} {s : RunStatistics} {rate : Option (Throughput Float)} :
    (worker, s, rate) ∈ workers ↔
      ∃ units, acks.Together worker units s ∧ s.totalThroughput? units = .ok rate := by
  have total (threads : List RunStatistics) :
      (workerTotal? threads).toOption.join = some (s, rate) ↔
        workerTotal? threads = .ok (some (s, rate)) := by
    rcases workerTotal? threads with e | none | t <;> simp [Except.toOption, Option.join]
  simp only [mergeWorkers?_eq_ok h, List.mem_filterMap, Option.map_eq_some_iff, Prod.exists,
    Prod.mk.injEq, Acknowledgements.mem_statistics]
  constructor
  · rintro ⟨_, threads, stressed, _, _, reached, rfl, rfl, rfl⟩
    obtain ⟨merges, rated⟩ := workerTotal?_eq_ok_iff.1 ((total threads).1 reached)
    exact ⟨_, ⟨threads, stressed, rfl, merges⟩, rated⟩
  · rintro ⟨_, ⟨threads, stressed, rfl, merges⟩, rated⟩
    exact ⟨worker, threads, stressed, s, rate,
      (total threads).2 (workerTotal?_eq_ok_iff.2 ⟨merges, rated⟩), rfl, rfl, rfl⟩

/-- The requests of each worker are added up without an overflow. -/
theorem rated_of_mergeWorkers? (h : mergeWorkers? acks.statistics = .ok workers)
    {worker : WorkerIndex} {units : UInt64} {s : RunStatistics}
    (together : acks.Together worker units s) : ∃ rate, s.totalThroughput? units = .ok rate := by
  obtain ⟨threads, stressed, rfl, merges⟩ := together
  cases known : s.totalThroughput? threads.length.toUInt64 with
  | ok rate => exact ⟨rate, rfl⟩
  | error e =>
    have fails : workerTotal? threads = .error e := by
      rw [workerTotal?, merges]
      show (s.totalThroughput? threads.length.toUInt64 >>= _) = _
      rw [known]
      rfl
    obtain ⟨e, failed⟩ := mergeWorkers?_error_iff.2
      ⟨worker, threads, Acknowledgements.mem_statistics.2 stressed, e, fails⟩
    cases failed.symm.trans h

theorem nodup_of_mergeWorkers? (h : mergeWorkers? acks.statistics = .ok workers) :
    (workers.map (·.1)).Nodup := by
  rw [mergeWorkers?_eq_ok h]
  refine acks.nodup_statistics.sublist (sublist_filterMap_keys ?_ _)
  rintro e kept found
  obtain ⟨s, -, rfl⟩ := Option.map_eq_some_iff.1 found
  rfl

end

/-! ### The results -/

section

variable {T : Type} {text : T → String} {values : List (WorkerIndex × T)} {worker : WorkerIndex}
  {v : WorkerResult}

/-- The texts of the values of workers. -/
def valueTexts (text : T → String) (values : List (WorkerIndex × T)) :
    OrderedMap WorkerIndex WorkerResult :=
  .ofList (values.map fun e => (e.1, ⟨text e.2, false⟩))

theorem find?_valueTexts (distinct : (values.map (·.1)).Nodup) :
    (valueTexts text values).find? worker = some v ↔
      ∃ t, (worker, t) ∈ values ∧ v = ⟨text t, false⟩ := by
  rw [valueTexts, OrderedMap.find?_ofList_iff]
  · simp [eq_comm]
  · rwa [List.map_map]

/-- Where one worker has a text, one worker has a value. -/
theorem eq_singleton_of_valueTexts (distinct : (values.map (·.1)).Nodup)
    (alone : (valueTexts text values).entries = [(worker, v)]) :
    ∃ t, values = [(worker, t)] ∧ v = ⟨text t, false⟩ := by
  have keys : ((values.map fun e => (e.1, (⟨text e.2, false⟩ : WorkerResult))).map
      (·.1)).Nodup := by rwa [List.map_map]
  have entries := OrderedMap.entries_ofList keys
  have same : values.map (fun e => (e.1, (⟨text e.2, false⟩ : WorkerResult))) = [(worker, v)] :=
    List.perm_singleton.1 (alone ▸ entries.symm)
  obtain ⟨⟨_, t⟩, rfl, pair⟩ := List.map_eq_singleton_iff.1 same
  cases pair
  exact ⟨t, rfl, rfl⟩

end

section

variable {workers : List (WorkerIndex × WorkerTotal)} {r : TestResult}

/-- The rates of requests of workers. -/
def requestRates (workers : List (WorkerIndex × WorkerTotal)) :
    List (WorkerIndex × Throughput Float) :=
  workers.filterMap fun e => e.2.2.map fun t => (e.1, t)

theorem throughputResult?_eq (workers : List (WorkerIndex × WorkerTotal)) :
    throughputResult? workers =
      if (requestRates workers).isEmpty then none
      else some
        { name := throughputName
          workers := valueTexts Throughput.text (requestRates workers)
          aggregated :=
            ((requestRates workers).foldl (fun sum e => Throughput.plus sum e.2) ⟨0, 0⟩).text
          suspicious := false } :=
  rfl

/-- The rates of bytes of workers. -/
def byteRates (entrySize : UInt64) (workers : List (WorkerIndex × WorkerTotal)) :
    List (WorkerIndex × Float) :=
  workers.map fun e => (e.1, transferred entrySize e.2.1)

theorem dataThroughputResult?_eq (entrySize : UInt64)
    (workers : List (WorkerIndex × WorkerTotal)) :
    dataThroughputResult? entrySize workers =
      if (byteRates entrySize workers).isEmpty then none
      else some
        { name := dataThroughputName
          workers := valueTexts bytesText (byteRates entrySize workers)
          aggregated := bytesText ((byteRates entrySize workers).foldl (fun sum e => sum + e.2) 0)
          suspicious := false } :=
  rfl

/-- A result shows the rates of requests of workers, and none of its texts has a sign. -/
structure TestResult.ShowsRequests (acks : Acknowledgements) (r : TestResult) : Prop where
  each : ∀ worker v, r.workers.find? worker = some v ↔
    ∃ t, acks.Reaches worker t ∧ v = ⟨t.text, false⟩
  calm : ∀ worker v, r.workers.find? worker = some v → Signless v.value
  aggregated : Signless r.aggregated
  /-- What one worker reaches alone is what all reach. -/
  alone : ∀ worker v, r.workers.entries = [(worker, v)] → r.aggregated = v.value

/-- A result shows the rates of bytes of workers. The one of a worker that moved nothing has a sign,
which is dropped from the rate of all of them. -/
structure TestResult.ShowsBytes (entrySize : UInt64) (acks : Acknowledgements) (r : TestResult) :
    Prop where
  each : ∀ worker v, r.workers.find? worker = some v ↔
    ∃ units s, acks.Together worker units s ∧ v = ⟨bytesText (transferred entrySize s), false⟩
  aggregated : Signless r.aggregated
  moving : ∀ worker units s v, acks.Together worker units s → s.Transfers →
    r.workers.find? worker = some v → Signless v.value ∧
      (r.workers.entries = [(worker, v)] → r.aggregated = v.value)
  idle : ∀ worker units s v, acks.Together worker units s → ¬ s.Transfers →
    r.workers.find? worker = some v → v.value = "-0.00 B/s" ∧
      (r.workers.entries = [(worker, v)] → r.aggregated = "0.00 B/s")

variable {acks : Acknowledgements} (merged : mergeWorkers? acks.statistics = .ok workers)

include merged

theorem mem_requestRates {worker : WorkerIndex} {t : Throughput Float} :
    (worker, t) ∈ requestRates workers ↔ acks.Reaches worker t := by
  simp only [requestRates, List.mem_filterMap, Option.map_eq_some_iff, Prod.exists, Prod.mk.injEq,
    mem_of_mergeWorkers? merged, Acknowledgements.Reaches]
  constructor
  · rintro ⟨_, s, _, ⟨units, together, rate⟩, _, rfl, rfl, rfl⟩
    exact ⟨units, s, together, rate⟩
  · rintro ⟨units, s, together, rate⟩
    exact ⟨worker, s, some t, ⟨units, together, rate⟩, t, rfl, rfl, rfl⟩

theorem nodup_requestRates : ((requestRates workers).map (·.1)).Nodup := by
  refine (nodup_of_mergeWorkers? merged).sublist (sublist_filterMap_keys ?_ _)
  rintro e kept found
  obtain ⟨t, -, rfl⟩ := Option.map_eq_some_iff.1 found
  rfl

/-- There is a result exactly if some worker reached a rate. -/
theorem exists_throughputResult? :
    (∃ r, throughputResult? workers = some r) ↔ ∃ worker t, acks.Reaches worker t := by
  have some : (∃ r, throughputResult? workers = some r) ↔ requestRates workers ≠ [] := by
    simp [throughputResult?_eq]
  rw [some, ne_eq, List.eq_nil_iff_forall_not_mem]
  simp [mem_requestRates merged]

theorem throughputResult?_shows (h : throughputResult? workers = some r) :
    r.ShowsRequests acks := by
  rw [throughputResult?_eq] at h
  split at h
  · cases h
  cases h
  have each (worker : WorkerIndex) (v : WorkerResult) :
      (valueTexts Throughput.text (requestRates workers)).find? worker = some v ↔
        ∃ t, acks.Reaches worker t ∧ v = ⟨t.text, false⟩ := by
    rw [find?_valueTexts (nodup_requestRates merged)]
    simp only [mem_requestRates merged]
  have unsigned (e : WorkerIndex × Throughput Float) (he : e ∈ requestRates workers) :
      e.2.Unsigned := by
    obtain ⟨units, s, -, rate⟩ := (mem_requestRates merged).1 he
    exact Statistics.unsigned_of_totalThroughput? rate
  have zero : Throughput.Unsigned ⟨0, 0⟩ := ⟨unsigned_zero, unsigned_zero⟩
  have total := zero.foldl unsigned
  refine ⟨each, fun worker v found => ?_, total.signless_text, fun worker v alone => ?_⟩
  · obtain ⟨t, reaches, rfl⟩ := (each worker v).1 found
    exact (unsigned _ ((mem_requestRates merged).2 reaches)).signless_text
  · obtain ⟨t, single, rfl⟩ := eq_singleton_of_valueTexts (nodup_requestRates merged) alone
    have only : t.Unsigned := unsigned (worker, t) (single ▸ .head _)
    dsimp only
    rw [single, List.foldl_cons, List.foldl_nil, only.zero_plus]

theorem mem_byteRates {entrySize : UInt64} {worker : WorkerIndex} {x : Float} :
    (worker, x) ∈ byteRates entrySize workers ↔
      ∃ units s, acks.Together worker units s ∧ transferred entrySize s = x := by
  simp only [byteRates, List.mem_map, Prod.exists, Prod.mk.injEq, mem_of_mergeWorkers? merged]
  constructor
  · rintro ⟨_, s, _, ⟨units, together, -⟩, rfl, rate⟩
    exact ⟨units, s, together, rate⟩
  · rintro ⟨units, s, together, rate⟩
    obtain ⟨reached, rated⟩ := rated_of_mergeWorkers? merged together
    exact ⟨worker, s, reached, ⟨units, together, rated⟩, rfl, rate⟩

theorem nodup_byteRates (entrySize : UInt64) :
    ((byteRates entrySize workers).map (·.1)).Nodup := by
  have keys := nodup_of_mergeWorkers? merged
  rwa [byteRates, List.map_map]

/-- There is a result exactly if some worker has statistics. -/
theorem exists_dataThroughputResult? (entrySize : UInt64) :
    (∃ r, dataThroughputResult? entrySize workers = some r) ↔
      ∃ worker units s, acks.Together worker units s := by
  have some : (∃ r, dataThroughputResult? entrySize workers = some r) ↔ workers ≠ [] := by
    simp [dataThroughputResult?_eq, byteRates]
  rw [some]
  constructor
  · intro any
    obtain ⟨⟨worker, s, rate⟩, listed⟩ := List.exists_mem_of_ne_nil _ any
    obtain ⟨units, together, -⟩ := (mem_of_mergeWorkers? merged).1 listed
    exact ⟨worker, units, s, together⟩
  · rintro ⟨worker, units, s, together⟩
    obtain ⟨rate, rated⟩ := rated_of_mergeWorkers? merged together
    exact List.ne_nil_of_mem ((mem_of_mergeWorkers? merged).2 ⟨units, together, rated⟩)

theorem find?_byteTexts {entrySize : UInt64} {worker : WorkerIndex} {v : WorkerResult} :
    (valueTexts bytesText (byteRates entrySize workers)).find? worker = some v ↔
      ∃ units s, acks.Together worker units s ∧
        v = ⟨bytesText (transferred entrySize s), false⟩ := by
  rw [find?_valueTexts (nodup_byteRates merged entrySize)]
  simp only [mem_byteRates merged]
  constructor
  · rintro ⟨_, ⟨units, s, together, rfl⟩, rfl⟩
    exact ⟨units, s, together, rfl⟩
  · rintro ⟨units, s, together, rfl⟩
    exact ⟨_, ⟨units, s, together, rfl⟩, rfl⟩

/-- The rate of all workers has no sign, as it starts at zero. -/
theorem unsigned_total_byteRates (entrySize : UInt64) :
    Unsigned ((byteRates entrySize workers).foldl (fun sum e => sum + e.2) 0) := by
  refine unsigned_foldl (fun e he => ?_) unsigned_zero
  obtain ⟨units, s, -, rate⟩ := (mem_byteRates merged).1 he
  rw [← rate]
  by_cases transfers : s.Transfers
  · exact .inl transfers.unsigned
  · exact .inr (transferred_of_idle transfers)

/-- The rate of a worker that is alone is added to zero. -/
theorem total_byteRates_of_single {entrySize : UInt64} {worker : WorkerIndex} {units : UInt64}
    {s : RunStatistics} {v : WorkerResult} (together : acks.Together worker units s)
    (single : (valueTexts bytesText (byteRates entrySize workers)).entries = [(worker, v)]) :
    (byteRates entrySize workers).foldl (fun sum e => sum + e.2) 0 =
      0 + transferred entrySize s := by
  obtain ⟨x, only, -⟩ := eq_singleton_of_valueTexts (nodup_byteRates merged entrySize) single
  have listed : (worker, x) ∈ byteRates entrySize workers := only ▸ .head _
  obtain ⟨units', s', together', rate⟩ := (mem_byteRates merged).1 listed
  rw [only, together.unique together', rate]
  rfl

theorem dataThroughputResult?_shows {entrySize : UInt64}
    (h : dataThroughputResult? entrySize workers = some r) : r.ShowsBytes entrySize acks := by
  rw [dataThroughputResult?_eq] at h
  split at h
  · cases h
  cases h
  -- a text is the one of the statistics of its worker
  have own {worker : WorkerIndex} {units : UInt64} {s : RunStatistics} {v : WorkerResult}
      (together : acks.Together worker units s)
      (found : (valueTexts bytesText (byteRates entrySize workers)).find? worker = some v) :
      v.value = bytesText (transferred entrySize s) := by
    obtain ⟨units', s', together', rfl⟩ := (find?_byteTexts merged).1 found
    rw [together.unique together']
  refine ⟨fun _ _ => find?_byteTexts merged,
    (unsigned_total_byteRates merged entrySize).signless_bytesText,
    fun worker units s v together transfers found => ?_,
    fun worker units s v together idle found => ?_⟩
  · have unsigned : Unsigned (transferred entrySize s) := transfers.unsigned
    refine ⟨own together found ▸ unsigned.signless_bytesText, fun single => ?_⟩
    rw [own together found, total_byteRates_of_single merged together single,
      zero_add_of_unsigned unsigned]
  · have texts : bytesText (-0.0) = "-0.00 B/s" ∧ bytesText (0 + -0.0) = "0.00 B/s" := by decide
    refine ⟨?_, fun single => ?_⟩
    · rw [own together found, transferred_of_idle idle, texts.1]
    · rw [total_byteRates_of_single merged together single, transferred_of_idle idle, texts.2]

end

/-! ### Both rates of a stage -/

/-- What an iteration tells of rates. -/
structure StressSettings.TellsRates (settings : StressSettings) (acks : Acknowledgements)
    (i : TestIteration) : Prop where
  requests : (∃ r, i.results.find? throughputName = some r) ↔ ∃ worker t, acks.Reaches worker t
  showsRequests : ∀ r, i.results.find? throughputName = some r → r.ShowsRequests acks
  bytes : (∃ r, i.results.find? dataThroughputName = some r) ↔
    ∃ worker units s, acks.Together worker units s
  showsBytes : ∀ r, i.results.find? dataThroughputName = some r →
    r.ShowsBytes settings.entrySize acks

section

variable {result : Option TestResult} {name : String} {m : OrderedMap String TestResult}
  (named : ∀ r, result = some r → r.name = name)

include named

/-- A result that is added to others is found under its name. -/
theorem find?_added (new : m.find? name = none) :
    (result.elim m fun r => m.insert r.name r).find? name = result := by
  cases result with
  | none => exact new
  | some r => rw [Option.elim_some, named r rfl, OrderedMap.find?_insert_self]

theorem find?_added_of_ne {other : String} (apart : other ≠ name) :
    (result.elim m fun r => m.insert r.name r).find? other = m.find? other := by
  cases result with
  | none => rfl
  | some r => rw [Option.elim_some, named r rfl, OrderedMap.find?_insert_of_ne _ _ apart]

end

/-- The results of a fresh iteration that is filled from a stress test. -/
theorem fillStress?_eq_ok {settings : StressSettings} {acks : Acknowledgements}
    {i j : TestIteration} (fresh : i.results = .empty)
    (fill : fillStress? settings acks i = .ok j) :
    ∃ workers, mergeWorkers? acks.statistics = .ok workers ∧
      j.results.find? throughputName = throughputResult? workers ∧
      j.results.find? dataThroughputName =
        dataThroughputResult? settings.entrySize workers := by
  obtain ⟨workers, merged, fill⟩ := ok_of_bind fill
  obtain ⟨k, first, second⟩ := ok_of_bind fill
  have none (name : String) : (acks.statistics.foldl
      (fun i e => i.addStatistics e.1 e.2) i).results.find? name = none :=
    TestIteration.find?_foldl_fresh (fun _ _ => by rfl) fresh
  have requests (r : TestResult) (hr : throughputResult? workers = some r) :
      r.name = throughputName := name_of_throughputResult? hr
  have bytes (r : TestResult) (hr : dataThroughputResult? settings.entrySize workers = some r) :
      r.name = dataThroughputName := name_of_dataThroughputResult? hr
  have apart : dataThroughputName ≠ throughputName := by decide
  rw [TestIteration.addIfAny?_of_new _ fun r _ => none r.name] at first
  cases first
  rw [TestIteration.addIfAny?_of_new _ fun r hr => by
    rw [bytes r hr]
    exact (find?_added_of_ne requests apart).trans (none _)] at second
  cases second
  refine ⟨workers, ?_, ?_, ?_⟩
  · cases known : mergeWorkers? acks.statistics with
    | ok all =>
      rw [known] at merged
      cases merged
      rfl
    | error e =>
      rw [known] at merged
      cases merged
  · exact (find?_added_of_ne bytes apart.symm).trans (find?_added requests (none _))
  · exact find?_added bytes ((find?_added_of_ne requests apart).trans (none _))

theorem tellsRates_of_fill {settings : StressSettings} {acks : Acknowledgements}
    {i j : TestIteration} (fresh : i.results = .empty)
    (fill : fillStress? settings acks i = .ok j) :
    settings.TellsRates acks j := by
  obtain ⟨workers, merged, requests, bytes⟩ := fillStress?_eq_ok fresh fill
  refine ⟨?_, fun r hr => ?_, ?_, fun r hr => ?_⟩
  · rw [requests, exists_throughputResult? merged]
  · exact throughputResult?_shows merged (requests ▸ hr)
  · rw [bytes, exists_dataThroughputResult? merged]
  · exact dataThroughputResult?_shows merged (bytes ▸ hr)

/-- A stage that can be recorded adds the iteration that its acknowledgements fill. -/
theorem exists_adds_of_recordable {stage : Stage} {test : TestSettings} {acks : Acknowledgements}
    {report : Report} (known : stage.kind.test? = some test) (isRecorded : test.isRecorded = true)
    (recordable : ¬ stage.Unrecordable acks report) :
    ∃ i, report.Adds test.name i (aggregate stage acks report).2 ∧
      stage.kind.fill? acks ⟨i.index, stage.name, .empty, .empty⟩ = .ok i := by
  obtain ⟨unrecorded | unrecordable, -⟩ | ⟨_, i, known', -, adds, fill⟩ :=
    aggregate_cases stage acks report
  · rw [unrecorded _ known] at isRecorded
    cases isRecorded
  · exact absurd unrecordable recordable
  · cases known.symm.trans known'
    exact ⟨i, adds, fill⟩

theorem recordable_of_isOk {stage : Stage} {acks : Acknowledgements} {report : Report}
    (ok : (record? stage acks report).isOk = true) : ¬ stage.Unrecordable acks report := by
  intro unrecordable
  obtain ⟨e, failed⟩ := record?_error_iff.2 unrecordable
  rw [failed] at ok
  cases ok

/-- **Rates.**  A stress test that can be recorded adds an iteration which has the rates of its
workers and of all of them together.  What one worker alone reaches is what all reach, to the text,
and no rate of requests is negative.  So it is with bytes, but for workers that moved nothing. -/
theorem aggregate_rates {stage : Stage} {settings : StressSettings} {acks : Acknowledgements}
    {report : Report} (kind : stage.kind = .stress settings)
    (isRecorded : settings.test.isRecorded = true)
    (recordable : ¬ stage.Unrecordable acks report) :
    ∃ i, report.Adds settings.test.name i (aggregate stage acks report).2 ∧
      settings.TellsRates acks i := by
  have known : stage.kind.test? = some settings.test := by
    rw [kind]
    rfl
  obtain ⟨i, adds, fill⟩ := exists_adds_of_recordable known isRecorded recordable
  rw [kind] at fill
  exact ⟨i, adds, tellsRates_of_fill rfl fill⟩

/-- A worker that wrote and removed: what it wrote is what all wrote. -/
theorem aggregate_rates_one :
    let settings : StressSettings := { getRatio := 0, removeRatio := 1 }
    let stage : Stage := { name := "stress", kind := .stress settings }
    let s : RunStatistics :=
      (((Statistics.empty .basic).record "PUT" (.ofNanos 1000) true).record "REMOVE"
        (.ofNanos 1000) true).setInterval (.ofNanos 0) (.ofNanos 500000000)
    let acks : Acknowledgements := .ofList [(3, .success 3 .zero (.statistics [s]))]
    settings.test.isRecorded = true ∧ ¬ stage.Unrecordable acks .empty ∧
      ∃ i r, Report.empty.Adds settings.test.name i (aggregate stage acks .empty).2 ∧
        i.results.find? dataThroughputName = some r ∧
        r.workers.entries = [(3, ⟨"2000.00 B/s", false⟩)] ∧ r.aggregated = "2000.00 B/s" := by
  intro settings stage s acks
  have isRecorded : settings.test.isRecorded = true := by decide
  have recordable : ¬ stage.Unrecordable acks .empty := recordable_of_isOk (by decide +kernel)
  have text : bytesText (transferred settings.entrySize s) = "2000.00 B/s" := by decide +kernel
  have transfers : s.Transfers := ⟨⟨"PUT", by decide, _, rfl⟩, _, rfl, by decide⟩
  have together : acks.Together 3 1 s := ⟨[s], ⟨_, rfl, rfl⟩, rfl, rfl⟩
  have only {worker : WorkerIndex} {units : UInt64} {s' : RunStatistics}
      (h : acks.Together worker units s') : worker = 3 := by
    obtain ⟨threads, stressed, -⟩ := h
    have listed : (worker, threads) ∈ [(3, [s])] := Acknowledgements.mem_statistics.2 stressed
    exact congrArg Prod.fst (List.mem_singleton.1 listed)
  obtain ⟨i, adds, tells⟩ := aggregate_rates rfl isRecorded recordable
  obtain ⟨r, found⟩ := tells.bytes.2 ⟨3, 1, s, together⟩
  have shows := tells.showsBytes r found
  have workers : r.workers = .ofList [(3, ⟨"2000.00 B/s", false⟩)] := by
    refine OrderedMap.ext_find? fun worker => Option.ext fun v => ?_
    rw [shows.each, OrderedMap.find?_ofList_iff (by simp), List.mem_singleton]
    constructor
    · rintro ⟨units, s', together', rfl⟩
      obtain rfl := only together'
      rw [together'.unique together, text]
    · rintro ⟨⟩
      exact ⟨1, s, together, by rw [text]⟩
  have alone : r.workers.entries = [(3, ⟨"2000.00 B/s", false⟩)] := by
    rw [workers]
    rfl
  refine ⟨isRecorded, recordable, i, r, adds, found, alone, ?_⟩
  exact (shows.moving 3 1 s _ together transfers (by rw [workers]; rfl)).2 alone

/-- A worker that only removed: what it moved has a sign, and what all moved has none. -/
theorem aggregate_of_removals :
    let settings : StressSettings := { getRatio := 0, putRatio := 0, removeRatio := 1 }
    let stage : Stage := { name := "stress", kind := .stress settings }
    let s : RunStatistics :=
      ((Statistics.empty .basic).record "REMOVE" (.ofNanos 1000) true).setInterval (.ofNanos 0)
        (.ofNanos 1000000000)
    let acks : Acknowledgements := .ofList [(0, .success 0 .zero (.statistics [s]))]
    ∃ i r, Report.empty.Adds settings.test.name i (aggregate stage acks .empty).2 ∧
      i.results.find? dataThroughputName = some r ∧
      r.workers.entries = [(0, ⟨"-0.00 B/s", false⟩)] ∧ r.aggregated = "0.00 B/s" := by
  intro settings stage s acks
  have isRecorded : settings.test.isRecorded = true := by decide
  have recordable : ¬ stage.Unrecordable acks .empty := recordable_of_isOk (by decide +kernel)
  obtain ⟨i, adds, fill⟩ := exists_adds_of_recordable rfl isRecorded recordable
  obtain ⟨workers, merged, -, bytes⟩ := fillStress?_eq_ok rfl fill
  have shown : (mergeWorkers? acks.statistics).toOption.bind
      (dataThroughputResult? settings.entrySize) =
        some ⟨dataThroughputName, .ofList [(0, ⟨"-0.00 B/s", false⟩)], "0.00 B/s", false⟩ := by
    decide +kernel
  rw [merged] at shown
  exact ⟨i, _, adds, bytes.trans shown, rfl, rfl⟩

end LoadFleet
