import LoadFleet.Proofs.RoundingErrors
import LoadFleet.Proofs.SampleOrder
/-!
# The order of samples in averages

A mean and a deviation go through the samples in the order of recording, so that merging in another
order adds up the same numbers in another order.  Exact sums do not depend on that, and rounded ones
do.  How far they can be apart is counted in roundings: one for each sample, and a few more.

The variance is that of the samples about the mean that was computed, which is rounded itself.

* `Samples.mean_within`: the mean, by how many roundings it is away from the exact one.
* `Samples.variance_within`: the variance, in the same way.
* `Samples.Fits`: all sums are exact.
* `Samples.Fits.valueOf_mean`, `Samples.Fits.valueOf_square`: what is added up is not rounded.
* `Samples.Alike.averages`: averages of the same samples in any order.
* `Accumulator.averages_of_merged`: the main statement.
* `Accumulator.averages_of_merged_differ`: samples whose order is seen.
-/

namespace LoadFleet

open Rounding

namespace Samples

variable {s t : Samples}

/-! ### Exact averages -/

theorem Alike.total_rational (h : s.Alike t) (f : UInt64 → ℚ) :
    total (s.toList.map f) = total (t.toList.map f) := by
  rw [total_eq_sum, total_eq_sum, (h.latencies.map f).sum_eq]

theorem Alike.mean_rational (h : s.Alike t) : (s.mean : ℚ) = t.mean := by
  simp only [mean, h.count_eq, h.total_rational]

theorem Alike.variance_rational (h : s.Alike t) : (s.variance : ℚ) = t.variance := by
  simp only [variance, h.count_eq, h.mean_rational, h.total_rational]

/-! ### Rounded averages -/

theorem ofNat_toNat (n : UInt64) : (Scalar.ofNat n.toNat : Float) = n.toFloat := by
  change floatOfCount n.toNat = _
  rw [floatOfCount_eq n.toNat_lt]
  exact congrArg UInt64.toFloat UInt64.ofNat_toNat

theorem mean_eq (some : s.count ≠ 0) :
    (s.mean : Float) = total (s.toList.map UInt64.toFloat) / floatOfCount s.count := by
  rw [mean, if_neg some]
  simp only [ofNat_toNat]
  rfl

theorem total_toFloat_within (s : Samples) :
    (total (s.toList.map UInt64.toFloat)).isFinite ∧
      Sized 0 118 (valueOf (total (s.toList.map UInt64.toFloat))) ∧
      Within (s.count + 1) (s.toList.map fun n => (n.toNat : ℚ)).sum
        (valueOf (total (s.toList.map UInt64.toFloat))) := by
  have each : ∀ x ∈ s.toList.map UInt64.toFloat, x.isFinite ∧ Sized 0 64 (valueOf x) := by
    intro x hx
    obtain ⟨n, -, rfl⟩ := List.mem_map.1 hx
    exact ⟨(toFloat_within n).1, (toFloat_within n).2.1⟩
  obtain ⟨finite, size, within⟩ := total_within (by decide) (by decide) each
  refine ⟨finite, size, ?_⟩
  have words : Within 1 (s.toList.map fun n => (n.toNat : ℚ)).sum
      ((s.toList.map UInt64.toFloat).map valueOf).sum := by
    rw [List.map_map]
    exact .sum fun n _ => (toFloat_within n).2.2
  have length : (s.toList.map UInt64.toFloat).length = s.count := by
    rw [List.length_map]
    rfl
  rw [length] at within
  exact Nat.add_comm 1 s.count ▸ words.trans within

/-- **The mean** is one rounding for each sample, and three more, away from the exact one. -/
theorem mean_within (few : s.count < 2 ^ 64) :
    (s.mean : Float).isFinite ∧ Sized (-64) 118 (valueOf (s.mean : Float)) ∧
      Within (s.count + 3) (s.mean : ℚ) (valueOf (s.mean : Float)) := by
  by_cases none : s.count = 0
  · have zero : (s.mean : Float) = Scalar.ofNat 0 := by rw [mean, if_pos none]
    have exact : (s.mean : ℚ) = 0 := by rw [mean, if_pos none, scalar_ofNat, Nat.cast_zero]
    have value : valueOf (Scalar.ofNat 0 : Float) = 0 := by decide +kernel
    rw [zero, exact, value]
    exact ⟨by decide +kernel, .zero _ _, (Within.refl le_rfl).mono (Nat.zero_le _)⟩
  · obtain ⟨finite, size, within⟩ := total_toFloat_within s
    obtain ⟨finite', size', within'⟩ := floatOfCount_within few
    have one := one_le_floatOfCount none few
    obtain ⟨finite, size, rounded⟩ :=
      quotient_within finite finite' size one size'.most (by decide) (by decide)
    rw [← mean_eq none] at finite size rounded
    refine ⟨finite, size, ?_⟩
    have exact : (s.mean : ℚ) = (s.toList.map fun n => (n.toNat : ℚ)).sum / s.count := by
      rw [mean, if_neg none, total_eq_sum]
      rfl
    rw [exact]
    exact (within.div within').trans rounded

/-- The variance of the samples, as floating point numbers, about a number in place of their mean.
Of a single sample there is none. -/
def spread (s : Samples) (m : ℚ) : ℚ :=
  (s.toList.map fun n => (valueOf n.toFloat - m) ^ 2).sum / (s.count - 1)

theorem Alike.spread_eq (h : s.Alike t) (m : ℚ) : s.spread m = t.spread m := by
  rw [spread, spread, h.count_eq, (h.latencies.map _).sum_eq]

theorem spread_of_few (few : s.count < 2) (m : ℚ) : s.spread m = 0 := by
  obtain none | one : s.count = 0 ∨ s.count = 1 := by omega
  · have empty : s.toList = [] := List.length_eq_zero_iff.1 none
    rw [spread, empty, List.map_nil, List.sum_nil, zero_div]
  · rw [spread, one, Nat.cast_one, sub_self, div_zero]

/-- A squared deviation from the mean, and what is computed of it. -/
theorem deviation_within (few : s.count < 2 ^ 64) (n : UInt64) :
    ((n.toFloat - s.mean) * (n.toFloat - s.mean)).isFinite ∧
      Sized (-234) 236 (valueOf ((n.toFloat - s.mean) * (n.toFloat - s.mean))) ∧
      Within 3 ((valueOf n.toFloat - valueOf (s.mean : Float)) ^ 2)
        (valueOf ((n.toFloat - s.mean) * (n.toFloat - s.mean))) := by
  obtain ⟨finite, size, -⟩ := toFloat_within n
  obtain ⟨finite', size', -⟩ := mean_within few
  exact square_within finite finite' (size.mono (by decide) (by decide)) size' (by decide)
    (by decide)

theorem variance_eq (some : ¬ s.count < 2) :
    (s.variance : Float) =
      total (s.toList.map fun n => (n.toFloat - s.mean) * (n.toFloat - s.mean)) /
        floatOfCount (s.count - 1) := by
  rw [variance, if_neg some]
  simp only [ofNat_toNat]
  rfl

/-- **The variance** is one rounding for each sample, and five more, away from the one about the
mean that is computed. -/
theorem variance_within (few : s.count < 2 ^ 64) :
    (s.variance : Float).isFinite ∧ Within (s.count + 5) (s.spread (valueOf (s.mean : Float)))
      (valueOf (s.variance : Float)) := by
  by_cases none : s.count < 2
  · have zero : (s.variance : Float) = Scalar.ofNat 0 := by rw [variance, if_pos none]
    have value : valueOf (Scalar.ofNat 0 : Float) = 0 := by decide +kernel
    rw [spread_of_few none, zero, value]
    exact ⟨by decide +kernel, (Within.refl le_rfl).mono (Nat.zero_le _)⟩
  · have each : ∀ x ∈ s.toList.map fun n => (n.toFloat - s.mean) * (n.toFloat - s.mean),
        x.isFinite ∧ Sized (-234) 236 (valueOf x) := by
      intro x hx
      obtain ⟨n, -, rfl⟩ := List.mem_map.1 hx
      exact ⟨(deviation_within few n).1, (deviation_within few n).2.1⟩
    obtain ⟨finite, size, within⟩ := total_within (by decide) (by decide) each
    obtain ⟨finite', size', within'⟩ := floatOfCount_within (by omega : s.count - 1 < 2 ^ 64)
    have one := one_le_floatOfCount (by omega : s.count - 1 ≠ 0) (by omega)
    obtain ⟨finite, -, rounded⟩ :=
      quotient_within finite finite' size one size'.most (by decide) (by decide)
    have squares : Within 3
        (s.toList.map fun n => (valueOf n.toFloat - valueOf (s.mean : Float)) ^ 2).sum
        ((s.toList.map fun n => (n.toFloat - s.mean) * (n.toFloat - s.mean)).map valueOf).sum := by
      rw [List.map_map]
      exact .sum fun n _ => (deviation_within few n).2.2
    have length : (s.toList.map fun n =>
        (n.toFloat - s.mean) * (n.toFloat - s.mean)).length = s.count := by
      rw [List.length_map]
      rfl
    have fewer : ((s.count - 1 : Nat) : ℚ) = s.count - 1 := by
      rw [Nat.cast_sub (by omega), Nat.cast_one]
    rw [length] at within
    rw [fewer] at within'
    rw [variance_eq none, spread]
    have steps : 3 + s.count + 1 + 1 = s.count + 5 := by omega
    exact ⟨finite, steps ▸ ((squares.trans within).div within').trans rounded⟩

/-! ### Exact sums -/

/-- The mean of the samples is a whole number of parts of a nanosecond, a power of two of them, and
in these parts no sum on the way to the mean and to the variance is longer than a mantissa. -/
structure Fits (s : Samples) (parts whole : Nat) : Prop where
  fine : parts ≤ 500
  count : s.count < 2 ^ 53
  mean : whole * s.count = 2 ^ parts * (s.toList.map UInt64.toNat).sum
  sum : 2 ^ parts * (s.toList.map UInt64.toNat).sum < 2 ^ 53
  squares : (s.toList.map fun n => ((2 ^ parts * n.toNat : Nat) - (whole : Int)).natAbs ^ 2).sum <
    2 ^ 53

theorem toNat_le_sum {n : UInt64} (h : n ∈ s.toList) :
    n.toNat ≤ (s.toList.map UInt64.toNat).sum :=
  List.single_le_sum (fun _ _ => Nat.zero_le _) _ (List.mem_map.2 ⟨n, h, rfl⟩)

/-- A short total is the same in any order. -/
theorem Alike.total_toFloat_eq (h : s.Alike t)
    (short : (s.toList.map UInt64.toNat).sum < 2 ^ 53) :
    total (s.toList.map UInt64.toFloat) = total (t.toList.map UInt64.toFloat) := by
  refine total_eq_of_perm (g := 0) (by decide) (by decide) h.latencies short (fun n hn => ?_)
    fun n _ => unsigned_toFloat n
  rw [zpow_zero, mul_one]
  exact toFloat_exact ((toNat_le_sum hn).trans_lt short)

/-- Where the total is short, so that it is exact, the means are the same. -/
theorem Alike.mean_eq (h : s.Alike t) (short : (s.toList.map UInt64.toNat).sum < 2 ^ 53) :
    (s.mean : Float) = t.mean := by
  by_cases none : s.count = 0
  · rw [mean, mean, if_pos none, if_pos (h.count_eq ▸ none)]
  · rw [Samples.mean_eq none, Samples.mean_eq (h.count_eq ▸ none), h.total_toFloat_eq short,
      h.count_eq]

namespace Fits

variable {parts whole : Nat} (fits : s.Fits parts whole)

include fits

theorem short : (s.toList.map UInt64.toNat).sum < 2 ^ 53 :=
  (Nat.le_mul_of_pos_left _ (Nat.two_pow_pos parts)).trans_lt fits.sum

/-- The mean is exact. -/
theorem valueOf_mean (some : s.count ≠ 0) :
    (s.mean : Float).isFinite ∧ valueOf (s.mean : Float) = whole * 2 ^ (-parts : Int) := by
  have few : whole < 2 ^ 53 := by
    calc whole ≤ whole * s.count := Nat.le_mul_of_pos_right _ (Nat.pos_of_ne_zero some)
      _ < 2 ^ 53 := fits.mean ▸ fits.sum
  have bound : IsBound (whole * 2 ^ (-parts : Int)) :=
    isBound_mantissa few (by have := fits.fine; omega) (by omega)
  have exact (n : UInt64) (hn : n ∈ s.toList) :
      n.toFloat.isFinite ∧ valueOf n.toFloat = n.toNat * 2 ^ (0 : Int) := by
    rw [zpow_zero, mul_one]
    exact toFloat_exact ((toNat_le_sum hn).trans_lt fits.short)
  obtain ⟨finite, value⟩ := total_exact (by decide) (by decide) fits.short exact
  obtain ⟨finite', value'⟩ := floatOfCount_exact fits.count
  have count : (s.count : ℚ) ≠ 0 := by exact_mod_cast some
  have quotient := div_rounds finite finite' (value' ▸ count)
  have mean : ((s.toList.map UInt64.toNat).sum : ℚ) / s.count = whole * 2 ^ (-parts : Int) := by
    have whole : (whole * s.count : ℚ) = 2 ^ parts * (s.toList.map UInt64.toNat).sum := by
      exact_mod_cast fits.mean
    rw [div_eq_iff count, mul_right_comm, whole, zpow_neg, zpow_natCast]
    field_simp
  rw [value, value', zpow_zero, mul_one, mean, ← Samples.mean_eq some] at quotient
  exact quotient.exact bound

/-- The squared deviations are exact. -/
theorem valueOf_square (some : s.count ≠ 0) {n : UInt64} (hn : n ∈ s.toList) :
    ((n.toFloat - s.mean) * (n.toFloat - s.mean)).isFinite ∧
      valueOf ((n.toFloat - s.mean) * (n.toFloat - s.mean)) =
        (((2 ^ parts * n.toNat : Nat) - (whole : Int)).natAbs ^ 2 : Nat) *
          2 ^ (-(2 * parts) : Int) := by
  generalize apart : ((2 ^ parts * n.toNat : Nat) - (whole : Int)) = k
  have squared : k.natAbs ^ 2 < 2 ^ 53 := by
    refine lt_of_le_of_lt ?_ fits.squares
    exact List.single_le_sum (fun _ _ => Nat.zero_le _) _
      (List.mem_map.2 ⟨n, hn, by rw [apart]⟩)
  have few : k.natAbs < 2 ^ 53 := (Nat.le_pow (by decide)).trans_lt squared
  have fine := fits.fine
  obtain ⟨finite, value⟩ := toFloat_exact ((toNat_le_sum hn).trans_lt fits.short)
  obtain ⟨finite', value'⟩ := fits.valueOf_mean some
  have unit := two_zpow_pos (-parts)
  have difference : (n.toNat : ℚ) - whole * 2 ^ (-parts : Int) = k * 2 ^ (-parts : Int) := by
    have cast : (k : ℚ) = 2 ^ parts * n.toNat - whole := by
      rw [← apart]
      push_cast
      rfl
    rw [cast, sub_mul, zpow_neg, zpow_natCast]
    field_simp
  have size : |(k * 2 ^ (-parts : Int) : ℚ)| = k.natAbs * 2 ^ (-parts : Int) := by
    rw [abs_mul, abs_of_pos unit, Nat.cast_natAbs, Int.cast_abs]
  have sub := sub_rounds finite finite'
  rw [value, value', difference] at sub
  obtain ⟨finite, value⟩ :=
    sub.exact_of_abs (size ▸ isBound_mantissa few (by omega) (by omega))
  have square := mul_rounds finite finite
  have product : (k * 2 ^ (-parts : Int) * (k * 2 ^ (-parts : Int)) : ℚ) =
      (k.natAbs ^ 2 : Nat) * 2 ^ (-(2 * parts) : Int) := by
    rw [mul_mul_mul_comm, ← two_zpow_add, Nat.cast_pow, Nat.cast_natAbs, Int.cast_abs, sq_abs, sq]
    congr 2
    omega
  rw [value, product] at square
  exact square.exact (isBound_mantissa squared (by omega) (by omega))

end Fits

/-- Where no sum is rounded, the variances are the same. -/
theorem Alike.variance_eq (h : s.Alike t) {parts whole : Nat} (fits : s.Fits parts whole) :
    (s.variance : Float) = t.variance := by
  by_cases none : s.count < 2
  · rw [variance, variance, if_pos none, if_pos (h.count_eq ▸ none)]
  · have fine := fits.fine
    have squares := total_eq_of_perm (by omega) (by omega) h.latencies fits.squares
      (fun n hn => fits.valueOf_square (by omega) hn) fun _ _ => unsigned_mul_self _
    rw [Samples.variance_eq none, Samples.variance_eq (h.count_eq ▸ none), ← h.mean_eq fits.short,
      squares, h.count_eq]

/-! ### What is reported -/

/-- What is told of the averages of recordings of the same samples. -/
structure AveragesAgree (s t : Samples) : Prop where
  /-- Exact averages are the same. -/
  exact : (Accumulator.recording s : Accumulator ℚ).outcome = Accumulator.outcome (.recording t) ∧
    (Accumulator.recording s : Accumulator ℚ).variance? = Accumulator.variance? (.recording t)
  counters : (Accumulator.recording s : OperationStats).outcome.requests =
      (Accumulator.recording t : OperationStats).outcome.requests ∧
    (Accumulator.recording s : OperationStats).outcome.errors =
      (Accumulator.recording t : OperationStats).outcome.errors ∧
    (Accumulator.recording s : OperationStats).outcome.largest =
      (Accumulator.recording t : OperationStats).outcome.largest
  finite : ∀ r, r = s ∨ r = t →
    (Accumulator.recording r : OperationStats).outcome.mean.isFinite
  /-- Means are some roundings apart, two for each sample and a few more. -/
  mean : Within (2 * (s.count + 3))
    (valueOf (Accumulator.recording s : OperationStats).outcome.mean)
    (valueOf (Accumulator.recording t : OperationStats).outcome.mean)
  /-- Variances are some roundings away from that of the samples about the mean that is reported. -/
  variance : ∀ r, r = s ∨ r = t →
    ∃ v, (Accumulator.recording r : OperationStats).variance? = some v ∧
      (Accumulator.recording r : OperationStats).deviation? = some v.sqrt ∧ v.isFinite ∧
      Within (s.count + 5)
        (s.spread (valueOf (Accumulator.recording r : OperationStats).outcome.mean)) (valueOf v)
  /-- Where the total is exact, the means are the same. -/
  short : (s.toList.map UInt64.toNat).sum < 2 ^ 53 →
    (Accumulator.recording s : OperationStats).outcome = Accumulator.outcome (.recording t)
  /-- Where all sums are exact, the deviations are the same. -/
  fits : ∀ parts whole, s.Fits parts whole →
    (Accumulator.recording s : OperationStats).deviation? = Accumulator.deviation? (.recording t)

/-- The order of the samples is seen in averages only as far as they are rounded. -/
theorem Alike.averages (h : s.Alike t) (few : s.count < 2 ^ 64) : s.AveragesAgree t := by
  have few' : t.count < 2 ^ 64 := h.count_eq ▸ few
  have outcome {R : Type} [Scalar R] (mean : (s.mean : R) = t.mean) :
      (Accumulator.recording s : Accumulator R).outcome = Accumulator.outcome (.recording t) := by
    simp only [Accumulator.outcome, Accumulator.requests, Accumulator.errors, Accumulator.mean,
      Accumulator.largest, h.count_eq, h.errors, h.largest_eq, mean]
  refine ⟨⟨outcome h.mean_rational, congrArg some h.variance_rational⟩,
    ⟨congrArg Nat.toUInt64 h.count_eq, h.errors, h.largest_eq⟩, ?_, ?_, ?_,
    fun short => outcome (h.mean_eq short), fun parts whole fits => ?_⟩
  · rintro r (rfl | rfl)
    · exact (mean_within few).1
    · exact (mean_within few').1
  · have own := (mean_within few).2.2
    have other := (mean_within few').2.2
    rw [← h.mean_rational, ← h.count_eq] at other
    exact Nat.two_mul (s.count + 3) ▸ own.symm.trans other
  · rintro r (rfl | rfl)
    · exact ⟨_, rfl, rfl, variance_within few⟩
    · obtain ⟨finite, within⟩ := variance_within few'
      rw [← h.spread_eq, ← h.count_eq] at within
      exact ⟨_, rfl, rfl, finite, within⟩
  · simp only [Accumulator.deviation?, Accumulator.variance?, h.variance_eq fits]

end Samples

namespace Accumulator

/-- **Averages.**  Merging two recordings in either order gives the same mean and deviation but for
roundings, and the same if nothing is rounded. -/
theorem averages_of_merged (s t : Samples) (few : s.count + t.count < 2 ^ 64) :
    (s.merge t).AveragesAgree (t.merge s) := by
  have count : (s.merge t).count = s.count + t.count := Array.size_append
  exact Samples.alike_merge_comm.averages (count ▸ few)

/-- Three samples with a whole mean. -/
theorem averages_of_merged_three :
    let s : Samples := (Samples.empty.record 0 true).record 2 true
    let t : Samples := Samples.empty.record 4 false
    s.count + t.count < 2 ^ 64 ∧ s.merge t ≠ t.merge s ∧
      (recording (s.merge t) : OperationStats).outcome = outcome (.recording (t.merge s)) ∧
      (recording (s.merge t) : OperationStats).deviation? = some 2 ∧
      (recording (t.merge s) : OperationStats).deviation? = some 2 := by
  intro s t
  have few : s.count + t.count < 2 ^ 64 := by decide
  have agree := averages_of_merged s t few
  have fits : (s.merge t).Fits 0 2 :=
    ⟨by decide, by decide, by decide, by decide, by decide⟩
  have two : (recording (s.merge t) : OperationStats).deviation? = some 2 := by decide +kernel
  exact ⟨few, by decide, agree.short fits.short, two, (agree.fits 0 2 fits).symm.trans two⟩

/-- **Roundings are seen.**  Of three small samples the deviation depends on the order, and where
the total is longer than a mantissa the mean does. -/
theorem averages_of_merged_differ :
    (let s : Samples := (Samples.empty.record 0 true).record 1 true
      let t : Samples := Samples.empty.record 3 true
      (recording (s.merge t) : OperationStats).deviation? ≠ deviation? (.recording (t.merge s))) ∧
    (let s : Samples := Samples.empty.record 9007199254740992 true
      let t : Samples := (Samples.empty.record 1 true).record 1 true
      (recording (s.merge t) : OperationStats).outcome.mean ≠
        (recording (t.merge s) : OperationStats).outcome.mean) := by
  constructor
  · decide +kernel
  · decide +kernel

end Accumulator

end LoadFleet
