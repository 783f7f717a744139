import LoadFleet.Proofs.ExactNumbers
import LoadFleet.Stats.Distribution
import Mathlib.Tactic.FieldSimp
import Mathlib.Tactic.LinearCombination
import Mathlib.Tactic.Ring
/-!
# Summaries of samples

Moments are kept up to date by two recurrences, one for a sample more and one for two sides that are
merged.  Over exact numbers both keep the same closed forms.

* `Describes`: what moments say about a list of samples.  The mean is kept as a product with the
  number of samples, and the deviation as the sum of squares less that product times the mean, so
  that no case of an empty side is needed.
* `Describes.record` keeps it when one sample more moves the mean by a share of the distance, and
  `Describes.merge` when two sides are weighed by their numbers of samples; `Describes.unique` makes
  laws of samples laws of moments.
* `Keeps`: what recorded samples say about the same list, with the figures computed from them.
-/

namespace LoadFleet

/-! ### Words -/

theorem toNat_max (a b : UInt64) : (max a b).toNat = max a.toNat b.toNat := by
  rw [show max a b = if a ≤ b then b else a from rfl]
  by_cases h : a ≤ b
  · rw [if_pos h, Nat.max_eq_right (UInt64.le_iff_toNat_le.1 h)]
  · rw [if_neg h, Nat.max_eq_left (Nat.le_of_not_le (UInt64.le_iff_toNat_le.not.1 h))]

theorem toNat_min (a b : UInt64) : (min a b).toNat = min a.toNat b.toNat := by
  rw [show min a b = if a ≤ b then a else b from rfl]
  by_cases h : a ≤ b
  · rw [if_pos h, Nat.min_eq_left (UInt64.le_iff_toNat_le.1 h)]
  · rw [if_neg h, Nat.min_eq_right (Nat.le_of_not_le (UInt64.le_iff_toNat_le.not.1 h))]

theorem toNat_add_of_lt {a b : UInt64} {m n : Nat} (ha : a.toNat = m) (hb : b.toNat = n)
    (few : m + n < 2 ^ 64) : (a + b).toNat = m + n := by
  rw [UInt64.toNat_add, ha, hb, Nat.mod_eq_of_lt few]

theorem toNat_add_of_le {a b : UInt64} (room : a.toNat + b.toNat ≤ wordMax) :
    (a + b).toNat = a.toNat + b.toNat :=
  toNat_add_of_lt rfl rfl (Nat.lt_succ_of_le room)

theorem toNat_addSaturating (a b : UInt64) :
    (addSaturating a b).toNat = min wordMax (a.toNat + b.toNat) := by
  rw [addSaturating]
  split
  · next h =>
    rw [toNat_add_of_le h, Nat.min_eq_right h]
  · next h =>
    rw [Nat.min_eq_left (Nat.le_of_not_le h)]
    rfl

theorem Span.toNat_toWord (a : Span) : a.toWord.toNat = min wordMax a.nanos := by
  have h : min a.nanos wordMax < UInt64.size := Nat.lt_succ_of_le (Nat.min_le_right _ _)
  rw [Span.toWord, Nat.toUInt64_eq, UInt64.toNat_ofNat_of_lt' h, Nat.min_comm]

/-! ### Samples -/

/-- A sample: a latency, and whether the request succeeded. -/
abbrev Sample := Span × Bool

namespace Sample

/-- The latency in nanoseconds as it is kept: as far as a word can hold it. -/
def value (s : Sample) : ℚ := s.1.toWord.toNat

end Sample

/-- The sum of the latencies. -/
def latencySum (l : List Sample) : ℚ := (l.map Sample.value).sum

/-- The sum of the squares of the latencies. -/
def squareSum (l : List Sample) : ℚ := (l.map fun s => s.value ^ 2).sum

/-- The largest latency in nanoseconds, zero when there is none. -/
def largestNanos (l : List Sample) : Nat := (l.map fun s => s.1.nanos).foldr max 0

/-- All latencies in nanoseconds together. -/
def totalNanos (l : List Sample) : Nat := (l.map fun s => s.1.nanos).sum

@[simp] theorem latencySum_append (a b : List Sample) :
    latencySum (a ++ b) = latencySum a + latencySum b := by simp [latencySum]

@[simp] theorem squareSum_append (a b : List Sample) :
    squareSum (a ++ b) = squareSum a + squareSum b := by simp [squareSum]

@[simp] theorem totalNanos_append (a b : List Sample) :
    totalNanos (a ++ b) = totalNanos a + totalNanos b := by simp [totalNanos]

@[simp] theorem largestNanos_append (a b : List Sample) :
    largestNanos (a ++ b) = max (largestNanos a) (largestNanos b) := by
  induction a with
  | nil => simp [largestNanos]
  | cons s r ih =>
    simp only [largestNanos, List.cons_append, List.map_cons, List.foldr_cons] at ih ⊢
    rw [ih, Nat.max_assoc]

/-- The squared deviations from any number, summed up. -/
theorem sum_sq_sub (l : List Sample) (x : ℚ) :
    (l.map fun s => (s.value - x) ^ 2).sum =
      squareSum l - 2 * x * latencySum l + l.length * x ^ 2 := by
  induction l with
  | nil => simp [squareSum, latencySum]
  | cons s r ih =>
    simp only [squareSum, latencySum, List.map_cons, List.sum_cons, List.length_cons,
      Nat.cast_add, Nat.cast_one] at ih ⊢
    rw [ih]
    ring

/-! ### What moments say about samples -/

/-- The moments are those of the samples. -/
structure Describes (m : Moments ℚ) (l : List Sample) : Prop where
  requests : m.requests.toNat = l.length
  errors : m.errors.toNat = l.countP fun s => !s.2
  largest : m.largest.toNat = min wordMax (largestNanos l)
  sum : m.sum.toNat = min wordMax (totalNanos l)
  mean : l.length * m.mean = latencySum l
  deviation : m.deviation = squareSum l - l.length * m.mean ^ 2
  /-- The mean of no samples is zero. -/
  none : l = [] → m.mean = 0

namespace Describes

variable {m n : Moments ℚ} {a b : List Sample}

theorem empty : Describes .empty [] where
  requests := rfl
  errors := rfl
  largest := rfl
  sum := rfl
  mean := by simp [latencySum]
  deviation := by simp [Moments.empty, squareSum]
  none _ := by simp [Moments.empty]

/-! #### One sample more -/

theorem requests_record (h : Describes m a) (few : a.length + 1 < 2 ^ 64) (latency : Span)
    (success : Bool) : (m.record latency.toWord success).requests.toNat = a.length + 1 :=
  toNat_add_of_lt h.requests rfl few

theorem errors_record (h : Describes m a) (few : a.length + 1 < 2 ^ 64) (latency : Span)
    (success : Bool) :
    (m.record latency.toWord success).errors.toNat =
      (a ++ [(latency, success)]).countP fun s => !s.2 := by
  cases success with
  | true => simp [Moments.record, h.errors]
  | false =>
    -- there are no more failures than samples
    have fewer : a.countP (fun s => !s.2) + 1 < 2 ^ 64 :=
      Nat.lt_of_le_of_lt (Nat.add_le_add_right List.countP_le_length 1) few
    rw [List.countP_append]
    exact toNat_add_of_lt h.errors rfl fewer

/-- The mean moves by a share of the deviation of the new sample from it. -/
theorem mean_record (h : Describes m a) (few : a.length + 1 < 2 ^ 64) (latency : Span)
    (success : Bool) :
    (a.length + 1) * (m.record latency.toWord success).mean =
      latencySum a + Sample.value (latency, success) := by
  have count : (m.requests + 1).toNat = a.length + 1 := h.requests_record few latency success
  simp only [Moments.record, count, scalar_ofNat, Nat.cast_add, Nat.cast_one]
  rw [← h.mean, Sample.value]
  field_simp
  ring

theorem deviation_record (h : Describes m a) (few : a.length + 1 < 2 ^ 64) (latency : Span)
    (success : Bool) :
    (m.record latency.toWord success).deviation =
      squareSum a + Sample.value (latency, success) ^ 2 -
        (a.length + 1) * (m.record latency.toWord success).mean ^ 2 := by
  have mean := h.mean_record few latency success
  have deviation : (m.record latency.toWord success).deviation =
      m.deviation + (Sample.value (latency, success) - m.mean) *
        (Sample.value (latency, success) - (m.record latency.toWord success).mean) := rfl
  rw [deviation, h.deviation]
  generalize (m.record latency.toWord success).mean = next at mean ⊢
  linear_combination (next + m.mean) * mean - (next + m.mean) * h.mean

/-- **One sample more.** -/
theorem record (h : Describes m a) (few : a.length + 1 < 2 ^ 64) (latency : Span)
    (success : Bool) :
    Describes (m.record latency.toWord success) (a ++ [(latency, success)]) where
  requests := by
    rw [h.requests_record few latency success, List.length_append]
    rfl
  errors := h.errors_record few latency success
  largest := by
    rw [Moments.record, largestNanos_append, toNat_max, h.largest, Span.toNat_toWord]
    simp only [largestNanos, List.map_cons, List.map_nil, List.foldr_cons, List.foldr_nil]
    omega
  sum := by
    rw [Moments.record, totalNanos_append, toNat_addSaturating, h.sum, Span.toNat_toWord]
    simp only [totalNanos, List.map_cons, List.map_nil, List.sum_cons, List.sum_nil]
    omega
  mean := by simpa [latencySum] using h.mean_record few latency success
  deviation := by simpa [squareSum] using h.deviation_record few latency success
  none := by simp

/-! #### Two sides -/

theorem requests_merge (h : Describes m a) (k : Describes n b)
    (few : a.length + b.length < 2 ^ 64) : (m.merge n).requests.toNat = a.length + b.length :=
  toNat_add_of_lt h.requests k.requests few

theorem errors_merge (h : Describes m a) (k : Describes n b)
    (few : a.length + b.length < 2 ^ 64) :
    (m.merge n).errors.toNat = (a ++ b).countP fun s => !s.2 := by
  have fewer : a.countP (fun s => !s.2) + b.countP (fun s => !s.2) < 2 ^ 64 :=
    Nat.lt_of_le_of_lt (Nat.add_le_add List.countP_le_length List.countP_le_length) few
  rw [List.countP_append]
  exact toNat_add_of_lt h.errors k.errors fewer

/-- Without a sample on either side the mean and the deviation stay as they are. -/
theorem merge_of_none (h : Describes m a) (k : Describes n b)
    (none : a.length + b.length = 0) :
    (m.merge n).mean = m.mean ∧ (m.merge n).deviation = m.deviation := by
  have count : (m.requests + n.requests).toNat = 0 :=
    none ▸ h.requests_merge k (by rw [none]; decide)
  have zero : ¬ 0 < m.requests + n.requests := by
    rw [UInt64.lt_iff_toNat_lt, count]
    exact Nat.not_lt_zero _
  exact ⟨if_neg zero, if_neg zero⟩

/-- The means are weighed with the numbers of samples. -/
theorem merge_of_some (h : Describes m a) (k : Describes n b)
    (few : a.length + b.length < 2 ^ 64) (some : a.length + b.length ≠ 0) :
    (m.merge n).mean = (m.mean * a.length + n.mean * b.length) / (a.length + b.length) ∧
    (m.merge n).deviation = m.deviation + (n.deviation +
      (n.mean - m.mean) * (n.mean - m.mean) * a.length * b.length /
        (a.length + b.length)) := by
  have count : (m.requests + n.requests).toNat = a.length + b.length := h.requests_merge k few
  have positive : 0 < m.requests + n.requests := by
    rw [UInt64.lt_iff_toNat_lt, count]
    exact Nat.pos_of_ne_zero some
  simp only [Moments.merge, positive, if_true, count, h.requests, k.requests, scalar_ofNat,
    Nat.cast_add, and_self]

theorem mean_merge (h : Describes m a) (k : Describes n b) (few : a.length + b.length < 2 ^ 64) :
    (a.length + b.length) * (m.merge n).mean = latencySum a + latencySum b := by
  rw [← h.mean, ← k.mean]
  by_cases none : a.length + b.length = 0
  · obtain ⟨ha, hb⟩ := Nat.add_eq_zero_iff.1 none
    simp [ha, hb]
  · have all : (a.length + b.length : ℚ) ≠ 0 := by exact_mod_cast none
    rw [(h.merge_of_some k few none).1]
    field_simp

theorem deviation_merge (h : Describes m a) (k : Describes n b)
    (few : a.length + b.length < 2 ^ 64) :
    (m.merge n).deviation =
      squareSum a + squareSum b - (a.length + b.length) * (m.merge n).mean ^ 2 := by
  by_cases none : a.length + b.length = 0
  · obtain ⟨ha, hb⟩ := Nat.add_eq_zero_iff.1 none
    obtain rfl := List.eq_nil_of_length_eq_zero hb
    rw [(h.merge_of_none k none).2, h.deviation, ha]
    simp [squareSum]
  · have all : (a.length + b.length : ℚ) ≠ 0 := by exact_mod_cast none
    have mean := h.mean_merge k few
    rw [(h.merge_of_some k few none).2, h.deviation, k.deviation]
    generalize (m.merge n).mean = next at mean ⊢
    rw [← h.mean, ← k.mean] at mean
    field_simp
    linear_combination
      (next * (a.length + b.length) + m.mean * a.length + n.mean * b.length) * mean

/-- **Two sides.** -/
theorem merge (h : Describes m a) (k : Describes n b) (few : a.length + b.length < 2 ^ 64) :
    Describes (m.merge n) (a ++ b) where
  requests := by rw [h.requests_merge k few, List.length_append]
  errors := h.errors_merge k few
  largest := by
    rw [Moments.merge, largestNanos_append, toNat_max, h.largest, k.largest]
    omega
  sum := by
    rw [Moments.merge, totalNanos_append, toNat_addSaturating, h.sum, k.sum]
    omega
  mean := by simpa using h.mean_merge k few
  deviation := by simpa using h.deviation_merge k few
  none := by
    intro none
    obtain ⟨rfl, rfl⟩ := List.append_eq_nil_iff.1 none
    rw [(h.merge_of_none k rfl).1, h.none rfl]

/-! #### What follows from a description -/

/-- The mean is the sum of the latencies divided by their number. -/
theorem mean_eq (h : Describes m a) : m.mean = latencySum a / a.length := by
  by_cases ha : a = []
  · subst ha
    simp [h.none rfl]
  · have some : (a.length : ℚ) ≠ 0 := by simpa using ha
    rw [← h.mean, mul_div_cancel_left₀ _ some]

/-- The deviation is the sum of the squared deviations from the mean. -/
theorem deviation_eq (h : Describes m a) :
    m.deviation = (a.map fun s => (s.value - m.mean) ^ 2).sum := by
  rw [sum_sq_sub, h.deviation, ← h.mean]
  ring

theorem errors_le_requests (h : Describes m a) : m.errors ≤ m.requests := by
  rw [UInt64.le_iff_toNat_le, h.errors, h.requests]
  exact List.countP_le_length

/-- Moments do not depend on the order of the samples. -/
theorem perm (h : Describes m a) (p : a.Perm b) : Describes m b where
  requests := by rw [h.requests, p.length_eq]
  errors := by rw [h.errors, p.countP_eq]
  largest := by rw [h.largest, largestNanos, largestNanos, (p.map _).foldr_eq]
  sum := by rw [h.sum, totalNanos, totalNanos, (p.map _).sum_eq]
  mean := by rw [← p.length_eq, h.mean, latencySum, latencySum, (p.map _).sum_eq]
  deviation := by rw [← p.length_eq, h.deviation, squareSum, squareSum, (p.map _).sum_eq]
  none := by
    rintro rfl
    exact h.none p.eq_nil

/-- Samples have one description only. -/
theorem unique (h : Describes m a) (k : Describes n a) : m = n := by
  have mean : m.mean = n.mean := h.mean_eq.trans k.mean_eq.symm
  refine Moments.ext ?_ ?_ ?_ ?_ mean ?_
  · exact UInt64.toNat_inj.1 (h.requests.trans k.requests.symm)
  · exact UInt64.toNat_inj.1 (h.errors.trans k.errors.symm)
  · exact UInt64.toNat_inj.1 (h.largest.trans k.largest.symm)
  · exact UInt64.toNat_inj.1 (h.sum.trans k.sum.symm)
  · rw [h.deviation, k.deviation, mean]

end Describes

/-! ### What recorded samples say about samples -/

/-- The recorded samples are these, as far as words can hold them, and are few enough for a word to
count them. -/
structure Keeps (s : Samples) (l : List Sample) : Prop where
  latencies : s.toList = l.map fun x => x.1.toWord
  errors : s.errors.toNat = l.countP fun x => !x.2
  few : l.length < 2 ^ 64

namespace Keeps

variable {s t : Samples} {a b : List Sample}

theorem empty : Keeps .empty [] where
  latencies := rfl
  errors := rfl
  few := by decide

theorem record (h : Keeps s a) (few : a.length + 1 < 2 ^ 64) (latency : Span) (success : Bool) :
    Keeps (s.record latency.toWord success) (a ++ [(latency, success)]) where
  latencies := by
    have := h.latencies
    simp only [Samples.toList] at this
    simp [Samples.toList, Samples.record, this]
  errors := by
    cases success with
    | true => simp [Samples.record, h.errors]
    | false =>
      have fewer := Nat.lt_of_le_of_lt
        (Nat.add_le_add_right (List.countP_le_length (p := fun x : Sample => !x.2)) 1) few
      rw [List.countP_append]
      exact toNat_add_of_lt h.errors rfl fewer
  few := by rwa [List.length_append]

theorem merge (h : Keeps s a) (k : Keeps t b) (few : a.length + b.length < 2 ^ 64) :
    Keeps (s.merge t) (a ++ b) where
  latencies := by
    have := h.latencies
    have := k.latencies
    simp only [Samples.toList] at *
    simp [Samples.merge, *]
  errors := by
    have fewer := Nat.lt_of_le_of_lt (Nat.add_le_add
      (List.countP_le_length (p := fun x : Sample => !x.2))
      (List.countP_le_length (p := fun x : Sample => !x.2))) few
    rw [List.countP_append]
    exact toNat_add_of_lt h.errors k.errors fewer
  few := by rwa [List.length_append]

theorem count (h : Keeps s a) : s.count = a.length := by
  simpa [Samples.toList, Samples.count] using congrArg List.length h.latencies

/-- No more failures than samples. -/
theorem errors_le (h : Keeps s a) : s.errors.toNat ≤ a.length := by
  rw [h.errors]
  exact List.countP_le_length

theorem values (h : Keeps s a) : s.toList.map (fun n => (n.toNat : ℚ)) = a.map Sample.value := by
  rw [h.latencies, List.map_map]
  rfl

/-- A word less in the total matters only where the total is more than a word holds. -/
theorem total (h : Keeps s a) :
    min wordMax (s.toList.map UInt64.toNat).sum = min wordMax (totalNanos a) := by
  have (l : List Sample) : min wordMax (l.map fun x => x.1.toWord.toNat).sum =
      min wordMax (totalNanos l) := by
    induction l with
    | nil => rfl
    | cons x r ih =>
      simp only [totalNanos, List.map_cons, List.sum_cons, Span.toNat_toWord] at ih ⊢
      omega
  rw [h.latencies, List.map_map, ← this]
  rfl

theorem mean (h : Keeps s a) : s.mean = latencySum a / a.length := by
  by_cases none : a.length = 0
  · simp [Samples.mean, h.count, none]
  · simp only [Samples.mean, h.count, none, if_false, scalar_ofNat, Samples.total_eq_sum, h.values]
    rfl

/-- The sum of the squared deviations from the mean. -/
theorem deviation (h : Keeps s a) (x : ℚ) :
    (s.toList.map fun n => ((n.toNat : ℚ) - x) ^ 2).sum =
      (a.map fun y => (y.value - x) ^ 2).sum := by
  rw [h.latencies, List.map_map]
  rfl

theorem largest (h : Keeps s a) : s.largest.toNat = min wordMax (largestNanos a) := by
  -- the words are compared from the left, and the spans from the right
  have : ∀ (l : List Sample) (x : UInt64),
      ((l.map fun y => y.1.toWord).foldl max x).toNat =
        max x.toNat (min wordMax (largestNanos l)) := by
    intro l
    induction l with
    | nil => simp [largestNanos]
    | cons y r ih =>
      intro x
      simp only [largestNanos, List.map_cons, List.foldl_cons, List.foldr_cons] at ih ⊢
      rw [ih, toNat_max, Span.toNat_toWord]
      omega
  rw [Samples.largest, h.latencies, this]
  simp

end Keeps

/-! ### Room for few samples -/

/-- Counters of an accumulator that holds so many samples. -/
def Accumulator.Counts {R : Type} (a : Accumulator R) (n : Nat) : Prop :=
  a.requests.toNat = n ∧ a.errors.toNat ≤ n

namespace Accumulator

variable {R : Type} {a b : Accumulator R} {m n : Nat}

/-- There is room as long as the samples are few. -/
theorem hasRoom_of_few (few : m + n < 2 ^ 64) (ha : a.Counts m) (hb : b.Counts n) :
    a.HasRoom b.requests.toNat b.errors.toNat := by
  have fits : m + n ≤ wordMax := Nat.le_of_lt_succ few
  obtain ⟨requestsA, errorsA⟩ := ha
  obtain ⟨requestsB, errorsB⟩ := hb
  exact ⟨by omega, by omega⟩

theorem hasRoom_of_one (few : m + 1 < 2 ^ 64) (ha : a.Counts m) (success : Bool) :
    a.HasRoom 1 (if success then 0 else 1) := by
  have fits : m + 1 ≤ wordMax := Nat.le_of_lt_succ few
  obtain ⟨requests, errors⟩ := ha
  exact ⟨by omega, by split <;> omega⟩

end Accumulator

theorem Describes.counts {m : Moments ℚ} {l : List Sample} (h : Describes m l) :
    (Accumulator.basic m).Counts l.length :=
  ⟨h.requests, h.requests ▸ UInt64.le_iff_toNat_le.1 h.errors_le_requests⟩

theorem Keeps.counts {R : Type} {s : Samples} {l : List Sample} (h : Keeps s l) :
    (Accumulator.recording s : Accumulator R).Counts l.length := by
  refine ⟨?_, h.errors_le⟩
  simpa [Accumulator.requests, h.count] using h.few

end LoadFleet
