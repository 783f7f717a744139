import LoadFleet.Proofs.Summaries
/-!
# Ways to fill an accumulator

A `Filling` is a way to come to an accumulator: empty ones are filled sample by sample and merged,
in any mixture.  Over exact numbers, the counters and moments that it leaves in a basic accumulator
are the summary of the samples that it leaves in a recording one, and depend on the samples only.

* `Filling.describes`, `Filling.keeps`: by induction over the filling, what it leaves in both kinds
  of accumulators is about the same samples.
* `Filling.accumulator?_basic`, `Filling.accumulator?_recording`: and no counter overflows.
* `Filling.moments_eq_of_perm`: other ways to the same samples come to the same moments.
* `Filling.moments_eq_summary`: the main statement.
-/

namespace LoadFleet

/-- A way to come to an accumulator. -/
inductive Filling where
  | empty
  | record (f : Filling) (latency : Span) (success : Bool)
  | merge (f g : Filling)

namespace Filling

/-- All samples, from left to right. -/
def samples : Filling → List Sample
  | empty => []
  | record f latency success => f.samples ++ [(latency, success)]
  | merge f g => f.samples ++ g.samples

/-- The accumulator of a kind that is filled in this way, if its counters have room. -/
def accumulator? {R : Type} [Scalar R] (kind : StatsKind) :
    Filling → Except StatsError (Accumulator R)
  | empty => .ok (.empty kind)
  | record f latency success => do (← f.accumulator? kind).record? latency success
  | merge f g => do (← f.accumulator? kind).merge? (← g.accumulator? kind)

/-- The counters and moments of a basic accumulator that is filled in this way. -/
def moments : Filling → Moments ℚ
  | empty => .empty
  | record f latency success => f.moments.record latency.toWord success
  | merge f g => f.moments.merge g.moments

/-- The samples of a recording accumulator that is filled in this way. -/
def recorded : Filling → Samples
  | empty => .empty
  | record f latency success => f.recorded.record latency.toWord success
  | merge f g => f.recorded.merge g.recorded

/-- One sample after the other, without a merge. -/
def sequential (l : List Sample) : Filling := l.foldl (fun f s => f.record s.1 s.2) .empty

theorem samples_sequential (l : List Sample) : (sequential l).samples = l := by
  -- by induction on the samples, for any filling to go on from
  have (f : Filling) : (l.foldl (fun f s => f.record s.1 s.2) f).samples = f.samples ++ l := by
    induction l generalizing f with
    | nil => simp
    | cons s r ih => simp [ih, samples]
  exact this .empty

/-- **Moments describe the samples.** -/
theorem describes (f : Filling) (few : f.samples.length < 2 ^ 64) :
    Describes f.moments f.samples := by
  induction f with
  | empty => exact .empty
  | record f latency success ih =>
    rw [samples, List.length_append] at few
    exact (ih (by omega)).record few latency success
  | merge f g ihf ihg =>
    rw [samples, List.length_append] at few
    exact (ihf (by omega)).merge (ihg (by omega)) few

theorem keeps (f : Filling) (few : f.samples.length < 2 ^ 64) : Keeps f.recorded f.samples := by
  induction f with
  | empty => exact .empty
  | record f latency success ih =>
    rw [samples, List.length_append] at few
    exact (ih (by omega)).record few latency success
  | merge f g ihf ihg =>
    rw [samples, List.length_append] at few
    exact (ihf (by omega)).merge (ihg (by omega)) few

/-! ### Both kinds of accumulators -/

theorem accumulator?_basic (f : Filling) (few : f.samples.length < 2 ^ 64) :
    f.accumulator? .basic = .ok (.basic f.moments) := by
  induction f with
  | empty => rfl
  | record f latency success ih =>
    rw [samples, List.length_append] at few
    have fewer : f.samples.length < 2 ^ 64 := by omega
    rw [accumulator?, ih fewer]
    exact if_pos (Accumulator.hasRoom_of_one few (f.describes fewer).counts success)
  | merge f g ihf ihg =>
    rw [samples, List.length_append] at few
    have left : f.samples.length < 2 ^ 64 := by omega
    have right : g.samples.length < 2 ^ 64 := by omega
    rw [accumulator?, ihf left, ihg right]
    exact if_pos (Accumulator.hasRoom_of_few few (f.describes left).counts
      (g.describes right).counts)

theorem accumulator?_recording (f : Filling) (few : f.samples.length < 2 ^ 64) :
    f.accumulator? .recording = .ok (.recording f.recorded : Accumulator ℚ) := by
  induction f with
  | empty => rfl
  | record f latency success ih =>
    rw [samples, List.length_append] at few
    have fewer : f.samples.length < 2 ^ 64 := by omega
    rw [accumulator?, ih fewer]
    exact if_pos (Accumulator.hasRoom_of_one few (f.keeps fewer).counts success)
  | merge f g ihf ihg =>
    rw [samples, List.length_append] at few
    have left : f.samples.length < 2 ^ 64 := by omega
    have right : g.samples.length < 2 ^ 64 := by omega
    rw [accumulator?, ihf left, ihg right]
    exact if_pos (Accumulator.hasRoom_of_few few (f.keeps left).counts (g.keeps right).counts)

/-- Moments depend on the samples only, and not on their order either. -/
theorem moments_eq_of_perm {f g : Filling} (few : f.samples.length < 2 ^ 64)
    (p : f.samples.Perm g.samples) : f.moments = g.moments :=
  ((f.describes few).perm p).unique (g.describes (p.length_eq ▸ few))

end Filling

/-! ### The summary of recorded samples -/

/-- What a basic accumulator should hold about recorded samples. -/
def Samples.summary (s : Samples) : Moments ℚ where
  requests := s.count.toUInt64
  errors := s.errors
  largest := s.largest
  sum := (min wordMax (s.toList.map UInt64.toNat).sum).toUInt64
  mean := s.mean
  deviation := (s.toList.map fun n => ((n.toNat : ℚ) - s.mean) ^ 2).sum

theorem Describes.eq_summary {m : Moments ℚ} {s : Samples} {l : List Sample} (h : Describes m l)
    (k : Keeps s l) : m = s.summary := by
  have mean : m.mean = s.mean := h.mean_eq.trans k.mean.symm
  refine Moments.ext ?_ ?_ ?_ ?_ mean ?_
  · rw [Samples.summary, k.count, ← h.requests]
    simp
  · exact UInt64.toNat_inj.1 (h.errors.trans k.errors.symm)
  · exact UInt64.toNat_inj.1 (h.largest.trans k.largest.symm)
  · rw [Samples.summary, k.total, ← h.sum]
    simp
  · rw [Samples.summary, k.deviation, ← mean, h.deviation_eq]

/-- The sample variance of the summary is that of the samples. -/
theorem Samples.variance_summary (s : Samples) (few : s.count < 2 ^ 64) :
    s.summary.variance = s.variance := by
  have count : s.count.toUInt64.toNat = s.count := by simpa using few
  have two : s.summary.requests < 2 ↔ s.count < 2 := by
    rw [UInt64.lt_iff_toNat_lt, Samples.summary, count]
    rfl
  by_cases h : s.count < 2
  · rw [Moments.variance, Samples.variance, if_pos h, if_pos (two.2 h)]
  · have one : (1 : UInt64) ≤ s.count.toUInt64 := by
      rw [UInt64.le_iff_toNat_le, count]
      exact Nat.le_of_lt (Nat.not_lt.1 h)
    rw [Moments.variance, Samples.variance, if_neg h, if_neg (two.not.2 h)]
    simp only [Samples.total_eq_sum, Samples.summary, scalar_ofNat,
      UInt64.toNat_sub_of_le _ _ one, UInt64.toNat_one, count, pow_two]

/-- What the moments of a basic accumulator tell, given what is recorded of the same samples. -/
structure Summarises (m : Moments ℚ) (s : Samples) (l : List Sample) : Prop where
  latencies : s.toList = l.map fun x => x.1.toWord
  summary : m = s.summary
  requests : m.requests.toNat = l.length
  errors : m.errors.toNat = l.countP fun x => !x.2
  errors_le : m.errors ≤ m.requests
  largest : m.largest.toNat = min wordMax (largestNanos l)
  sum : m.sum.toNat = min wordMax (totalNanos l)
  mean : m.mean = latencySum l / l.length
  deviation : m.deviation = (l.map fun x => (x.value - m.mean) ^ 2).sum
  /-- Both kinds tell the same counters, largest latency and mean. -/
  outcome : (Accumulator.basic m).outcome = (Accumulator.recording s).outcome
  /-- Both kinds tell the same sample variance. -/
  variance : (Accumulator.basic m).variance? = (Accumulator.recording s).variance?

namespace Filling

theorem summarises (f : Filling) (few : f.samples.length < 2 ^ 64) :
    Summarises f.moments f.recorded f.samples := by
  have h := f.describes few
  have k := f.keeps few
  have summary : f.moments = f.recorded.summary := h.eq_summary k
  have variance : f.moments.variance = f.recorded.variance := by
    rw [summary, Samples.variance_summary _ (by rwa [k.count])]
  exact
    { latencies := k.latencies
      summary
      requests := h.requests
      errors := h.errors
      errors_le := h.errors_le_requests
      largest := h.largest
      sum := h.sum
      mean := h.mean_eq
      deviation := h.deviation_eq
      outcome := by rw [summary]; rfl
      variance := by rw [Accumulator.variance?, Accumulator.variance?, variance] }

/-- The laws of merging, for moments that a filling leaves. -/
structure Laws (f : Filling) : Prop where
  merge_empty : f.moments.merge .empty = f.moments
  empty_merge : Moments.empty.merge f.moments = f.moments
  comm : ∀ g : Filling, f.samples.length + g.samples.length < 2 ^ 64 →
    f.moments.merge g.moments = g.moments.merge f.moments
  assoc : ∀ g h : Filling, f.samples.length + g.samples.length + h.samples.length < 2 ^ 64 →
    (f.moments.merge g.moments).merge h.moments = f.moments.merge (g.moments.merge h.moments)
  /-- All ways to the same samples come to the same moments, whatever the order is. -/
  perm : ∀ g : Filling, g.samples.Perm f.samples → g.moments = f.moments
  /-- And so does recording them one by one. -/
  sequential : ∀ l : List Sample, l.Perm f.samples → (sequential l).moments = f.moments

/-- The laws are those of appending samples, since moments depend on the samples only. -/
theorem laws (f : Filling) (few : f.samples.length < 2 ^ 64) : f.Laws := by
  have order (g : Filling) (p : g.samples.Perm f.samples) : g.moments = f.moments :=
    moments_eq_of_perm (p.length_eq ▸ few) p
  refine
    { merge_empty := order (.merge f .empty) (by simp [samples])
      empty_merge := order (.merge .empty f) (by simp [samples])
      comm := fun g both => ?_
      assoc := fun g h all => ?_
      perm := order
      sequential := fun l p => order (sequential l) (by rwa [samples_sequential]) }
  · exact moments_eq_of_perm (f := .merge f g) (g := .merge g f)
      (by simpa [samples] using both) List.perm_append_comm
  · exact moments_eq_of_perm (f := .merge (.merge f g) h) (g := .merge f (.merge g h))
      (by simpa [samples, Nat.add_assoc] using all)
      (by rw [samples, samples, List.append_assoc]; rfl)

/-- **A basic accumulator is the summary of a recording one.** Any mixture of recording and merging
leaves in a basic accumulator what can be said about the samples that it leaves in a recording one,
so that merging follows the laws of the samples. -/
theorem moments_eq_summary (f : Filling) (few : f.samples.length < 2 ^ 64) :
    f.accumulator? .basic = .ok (.basic f.moments) ∧
    f.accumulator? .recording = .ok (.recording f.recorded : Accumulator ℚ) ∧
    Summarises f.moments f.recorded f.samples ∧ f.Laws :=
  ⟨f.accumulator?_basic few, f.accumulator?_recording few, f.summarises few, f.laws few⟩

/-- Three samples in two accumulators with an empty one between. -/
theorem moments_eq_summary_three :
    let f : Filling := .merge (.record (.record .empty (.ofNanos 2) true) (.ofNanos 4) false)
      (.merge .empty (.record .empty (.ofNanos 9) true))
    f.samples.length < 2 ^ 64 ∧ f.moments = f.recorded.summary ∧
      f.moments.mean = 5 ∧ f.moments.deviation = 26 := by
  intro f
  have few : f.samples.length < 2 ^ 64 := by decide
  obtain ⟨-, -, h, -⟩ := f.moments_eq_summary few
  refine ⟨few, h.summary, ?_, ?_⟩
  · decide +kernel
  · decide +kernel

end Filling

end LoadFleet
