import LoadFleet.Proofs.FloatSigns
import LoadFleet.Proofs.Percentiles
/-!
# Errors of rounding

One rounding takes away at most the part `2 ^ -53` of a number that is not too small, or adds that
much.  Of results that come about in several steps it is only counted how many roundings they are
away from the exact ones.  For that all numbers need a size that no step leaves; sums keep to their
size however long they are.

* `Rounding.Within`: so many roundings apart, and what that is for sums, products and quotients.
* `Rounding.Nearest.within`: one rounding, seen from the neighbours of a number.
* `Rounding.Sized`: numbers between powers of two, or zero.
* `Rounding.Rounds.sized`: a result has the size of the exact result, and is one rounding away.
* `Rounding.square_within`: squared differences.
* `Rounding.total_within`: by induction over the summands, a sum and its roundings.
* `Rounding.total_exact`, `Rounding.total_eq_of_perm`: sums that are exact, and so do not depend on
  the order.
-/

namespace LoadFleet

open Float.Model Float.Model.UnpackedFloat

namespace Rounding

/-! ### Numbers that are some roundings apart -/

/-- The part of a number that rounding leaves of it at least. -/
def kept : ℚ := 1 - 2 ^ (-53 : Int)

theorem kept_pos : 0 < kept := by norm_num [kept]

theorem kept_le_one : kept ≤ 1 := by norm_num [kept]

/-- Two numbers that are not negative are at most so many roundings apart. -/
structure Within (n : Nat) (x y : ℚ) : Prop where
  nonneg : 0 ≤ x
  nonneg' : 0 ≤ y
  left : x * kept ^ n ≤ y
  right : y * kept ^ n ≤ x

namespace Within

variable {m n : Nat} {x y z w : ℚ}

theorem refl (nonneg : 0 ≤ x) : Within 0 x x :=
  ⟨nonneg, nonneg, by rw [pow_zero, mul_one], by rw [pow_zero, mul_one]⟩

theorem symm (h : Within n x y) : Within n y x := ⟨h.nonneg', h.nonneg, h.right, h.left⟩

theorem mono (h : Within m x y) (le : m ≤ n) : Within n x y := by
  have fewer : kept ^ n ≤ kept ^ m := pow_le_pow_of_le_one kept_pos.le kept_le_one le
  exact ⟨h.nonneg, h.nonneg', (mul_le_mul_of_nonneg_left fewer h.nonneg).trans h.left,
    (mul_le_mul_of_nonneg_left fewer h.nonneg').trans h.right⟩

theorem trans (h : Within m x y) (h' : Within n y z) : Within (m + n) x z := by
  have steps (x : ℚ) : x * kept ^ (m + n) = x * kept ^ m * kept ^ n := by rw [pow_add, mul_assoc]
  have steps' (x : ℚ) : x * kept ^ (m + n) = x * kept ^ n * kept ^ m := by
    rw [pow_add, mul_assoc, mul_comm (kept ^ m)]
  have powers (k : Nat) : 0 ≤ kept ^ k := pow_nonneg kept_pos.le k
  refine ⟨h.nonneg, h'.nonneg', ?_, ?_⟩
  · rw [steps]
    exact (mul_le_mul_of_nonneg_right h.left (powers n)).trans h'.left
  · rw [steps']
    exact (mul_le_mul_of_nonneg_right h'.right (powers m)).trans h.right

/-- Nothing is rounded to zero but zero. -/
theorem pos (h : Within n x y) (positive : 0 < x) : 0 < y :=
  (mul_pos positive (pow_pos kept_pos n)).trans_le h.left

theorem add (h : Within n x y) (h' : Within n z w) : Within n (x + z) (y + w) := by
  refine ⟨add_nonneg h.nonneg h'.nonneg, add_nonneg h.nonneg' h'.nonneg', ?_, ?_⟩
  · rw [add_mul]
    exact add_le_add h.left h'.left
  · rw [add_mul]
    exact add_le_add h.right h'.right

theorem mul (h : Within m x y) (h' : Within n z w) : Within (m + n) (x * z) (y * w) := by
  have powers (k : Nat) : 0 ≤ kept ^ k := pow_nonneg kept_pos.le k
  refine ⟨mul_nonneg h.nonneg h'.nonneg, mul_nonneg h.nonneg' h'.nonneg', ?_, ?_⟩
  · rw [pow_add, mul_mul_mul_comm]
    exact mul_le_mul h.left h'.left (mul_nonneg h'.nonneg (powers n)) h.nonneg'
  · rw [pow_add, mul_mul_mul_comm]
    exact mul_le_mul h.right h'.right (mul_nonneg h'.nonneg' (powers n)) h.nonneg

theorem inv (h : Within n x y) : Within n x⁻¹ y⁻¹ := by
  have power : 0 < kept ^ n := pow_pos kept_pos n
  have half {x y : ℚ} (nonneg : 0 ≤ x) (nonneg' : 0 ≤ y) (left : x * kept ^ n ≤ y)
      (right : y * kept ^ n ≤ x) : x⁻¹ * kept ^ n ≤ y⁻¹ := by
    rcases nonneg'.eq_or_lt with rfl | positive
    · have zero : x = 0 :=
        le_antisymm (nonpos_of_mul_nonpos_left left power) nonneg
      rw [zero, inv_zero, zero_mul]
    · have positive' : 0 < x := lt_of_lt_of_le (mul_pos positive power) right
      rw [inv_mul_le_iff₀ positive', ← div_eq_mul_inv, le_div_iff₀ positive, mul_comm]
      exact right
  exact ⟨inv_nonneg.2 h.nonneg, inv_nonneg.2 h.nonneg', half h.nonneg h.nonneg' h.left h.right,
    half h.nonneg' h.nonneg h.right h.left⟩

theorem div (h : Within m x y) (h' : Within n z w) : Within (m + n) (x / z) (y / w) := by
  rw [div_eq_mul_inv, div_eq_mul_inv]
  exact h.mul h'.inv

theorem sum {A : Type} {f g : A → ℚ} {l : List A} (each : ∀ a ∈ l, Within n (f a) (g a)) :
    Within n (l.map f).sum (l.map g).sum := by
  induction l with
  | nil => exact (refl le_rfl).mono (Nat.zero_le n)
  | cons a r ih =>
    obtain ⟨first, rest⟩ := List.forall_mem_cons.1 each
    exact first.add (ih rest)

end Within

/-! ### One rounding -/

/-- A number that is large enough is between two neighbours of the format. -/
theorem exists_canonical_below {x : ℚ} (normal : 2 ^ (-1022 : Int) ≤ x) :
    ∃ c k, Canonical c k ∧ 2 ^ 52 ≤ c ∧ c * 2 ^ k ≤ x ∧ x < (c + 1) * 2 ^ k := by
  have positive : 0 < x := (two_zpow_pos _).trans_le normal
  have least : -1022 ≤ Int.log 2 x := (Int.zpow_le_iff_le_log Nat.one_lt_two positive).1 normal
  have below : (2 : ℚ) ^ Int.log 2 x ≤ x := Int.zpow_log_le_self Nat.one_lt_two positive
  have above : x < (2 : ℚ) ^ (Int.log 2 x + 1) := Int.lt_zpow_succ_log_self Nat.one_lt_two x
  obtain ⟨k, exponent⟩ : ∃ k, Int.log 2 x = 52 + k := ⟨Int.log 2 x - 52, by omega⟩
  have unit := two_zpow_pos k
  rw [exponent, two_zpow_add, ← le_div_iff₀ unit] at below
  rw [exponent, show 52 + k + 1 = 53 + k by omega, two_zpow_add, ← div_lt_iff₀ unit] at above
  have floor : (⌊x / 2 ^ k⌋₊ : ℚ) ≤ x / 2 ^ k := Nat.floor_le (by positivity)
  have large : 2 ^ 52 ≤ ⌊x / 2 ^ k⌋₊ := Nat.le_floor (by exact_mod_cast below)
  have small : ⌊x / 2 ^ k⌋₊ < 2 ^ 53 := by
    exact_mod_cast floor.trans_lt above
  refine ⟨⌊x / 2 ^ k⌋₊, k, ⟨small, by omega, .inl large⟩, large, (le_div_iff₀ unit).1 floor, ?_⟩
  exact (div_lt_iff₀ unit).1 (Nat.lt_floor_add_one _)

/-- The next number of the format. -/
theorem exists_canonical_next {c : Nat} {k : Int} (h : Canonical c k) :
    ∃ d e, Canonical d e ∧ (d * 2 ^ e : ℚ) = (c + 1) * 2 ^ k := by
  rcases Nat.lt_or_eq_of_le (Nat.succ_le_of_lt h.small) with small | carried
  · refine ⟨c + 1, k, ⟨small, h.least, h.normal.imp_left fun large => by omega⟩, ?_⟩
    push_cast
    rfl
  · refine ⟨2 ^ 52, k + 1, ⟨by decide, by have := h.least; omega, .inl le_rfl⟩, ?_⟩
    have mantissa : (c : ℚ) + 1 = 2 ^ (53 : Nat) := by exact_mod_cast carried
    rw [mantissa, add_comm k, two_zpow_add]
    norm_num
    ring

/-- There is nothing between neighbours of the format. -/
theorem next_le_of_lt {c r : Nat} {k t : Int} (h : Canonical c k) (h' : Canonical r t)
    (less : (c * 2 ^ k : ℚ) < r * 2 ^ t) : ((c + 1) * 2 ^ k : ℚ) ≤ r * 2 ^ t := by
  have exponents := h.exponent_le h' less.le
  have unit := two_zpow_pos k
  have same := shiftLeft_value r exponents
  rw [← same] at less ⊢
  have mantissas : c < r <<< (t - k).toNat := by
    exact_mod_cast lt_of_mul_lt_mul_right less unit.le
  gcongr
  exact_mod_cast mantissas

/-- Numbers that are not too small are changed by at most a small part of them. -/
theorem Nearest.within {x y : ℚ} (h : Nearest x y) (normal : 2 ^ (-1022 : Int) ≤ x)
    (known : IsBound y) : Within 1 x y := by
  obtain ⟨c, k, canonical, large, below, above⟩ := exists_canonical_below normal
  obtain ⟨d, e, next, value⟩ := exists_canonical_next canonical
  have unit := two_zpow_pos k
  have least : (2 : ℚ) ^ (52 : Nat) * 2 ^ k ≤ c * 2 ^ k := by gcongr; exact_mod_cast large
  have low : c * 2 ^ k ≤ y := h.lower c k canonical below
  have high : y ≤ (c + 1) * 2 ^ k := by
    rw [← value]
    refine h.upper d e next ?_
    have := two_zpow_pos e
    have : (d * 2 ^ e : ℚ) < (d + 1 / 2) * 2 ^ e := by gcongr; linarith
    linarith
  -- the error is at most half a unit in the last place, on either side
  have error : x - y ≤ 1 / 2 * 2 ^ k ∧ y - x ≤ 1 / 2 * 2 ^ k := by
    rcases lt_trichotomy x ((c + 1 / 2) * 2 ^ k) with less | half | more
    · have := h.upper c k canonical less
      constructor <;> linarith
    · constructor <;> linarith
    · obtain ⟨r, t, canonical', -, rfl⟩ := known
      have := next_le_of_lt canonical canonical' (h.past c k canonical more)
      constructor <;> linarith
  have part {z : ℚ} (le : c * 2 ^ k ≤ z) : 1 / 2 * 2 ^ k ≤ z * 2 ^ (-53 : Int) := by
    calc (1 / 2 * 2 ^ k : ℚ) = 2 ^ (52 : Nat) * 2 ^ k * 2 ^ (-53 : Int) := by
          norm_num
          ring
      _ ≤ z * 2 ^ (-53 : Int) := by
          gcongr
          exact least.trans le
  refine ⟨(two_zpow_pos _).le.trans normal, known.nonneg, ?_, ?_⟩
  · rw [pow_one, kept, mul_sub, mul_one]
    exact sub_le_comm.1 (error.1.trans (part below))
  · rw [pow_one, kept, mul_sub, mul_one]
    exact sub_le_comm.1 (error.2.trans (part low))

/-- A number of the format is rounded to itself. -/
theorem Nearest.eq_of_isBound {x y : ℚ} (h : Nearest x y) (bound : IsBound x) : y = x := by
  refine le_antisymm (h.le bound le_rfl) ?_
  obtain ⟨c, k, canonical, -, rfl⟩ := bound
  exact h.lower c k canonical le_rfl

variable {x y : Float}

/-! ### Results of a certain size -/

/-- A number is zero, or between two powers of two. -/
structure Sized (i : Int) (e : Nat) (q : ℚ) : Prop where
  least : q = 0 ∨ 2 ^ i ≤ q
  most : q ≤ 2 ^ e

namespace Sized

variable {i j : Int} {e f : Nat} {q r : ℚ}

theorem zero (i : Int) (e : Nat) : Sized i e 0 := ⟨.inl rfl, by positivity⟩

theorem nonneg (h : Sized i e q) : 0 ≤ q := by
  rcases h.least with rfl | le
  · exact le_rfl
  · exact (two_zpow_pos i).le.trans le

theorem mono (h : Sized i e q) (low : j ≤ i) (high : e ≤ f) : Sized j f q :=
  ⟨h.least.imp_right (two_zpow_le low).trans,
    h.most.trans (pow_le_pow_right₀ (by norm_num) high)⟩

theorem add (h : Sized i e q) (h' : Sized i e r) : q + r = 0 ∨ 2 ^ i ≤ q + r := by
  rcases h.least with rfl | le
  · rw [zero_add]
    exact h'.least
  · exact .inr (le_add_of_le_of_nonneg le h'.nonneg)

theorem mul (h : Sized i e q) (h' : Sized j f r) : Sized (i + j) (e + f) (q * r) := by
  constructor
  · rcases h.least with rfl | le
    · exact .inl (zero_mul r)
    · rcases h'.least with rfl | le'
      · exact .inl (mul_zero q)
      · rw [two_zpow_add]
        exact .inr (mul_le_mul le le' (two_zpow_pos j).le h.nonneg)
  · rw [pow_add]
    exact mul_le_mul h.most h'.most h'.nonneg (by positivity)

/-- A quotient by a number that is at least one. -/
theorem div (h : Sized i e q) (one : 1 ≤ r) (most : r ≤ 2 ^ f) : Sized (i - f) e (q / r) := by
  have positive : 0 < r := zero_lt_one.trans_le one
  constructor
  · refine h.least.imp (fun zero => by rw [zero, zero_div]) fun le => ?_
    rw [le_div_iff₀ positive]
    calc (2 : ℚ) ^ (i - f) * r ≤ 2 ^ (i - f) * 2 ^ f := by gcongr
      _ = 2 ^ i := by rw [← zpow_natCast, ← two_zpow_add, Int.sub_add_cancel]
      _ ≤ q := le
  · exact (div_le_self h.nonneg one).trans h.most

end Sized

theorem isBound_two_zpow {i : Int} (low : -1021 ≤ i) (top : i ≤ 1023) : IsBound (2 ^ i) := by
  obtain ⟨c, k, canonical, least, same⟩ :=
    exists_canonical (n := 1) (b := 1) (by decide) (by decide) low
  rw [Nat.cast_one, one_mul] at same
  exact ⟨c, k, canonical, by omega, same⟩

/-- A result has the size of the exact result. -/
theorem Rounds.sized {q : ℚ} {i : Int} {e : Nat} (h : Rounds q y) (low : -1021 ≤ i)
    (small : e ≤ 1023) (size : Sized i e |q|) :
    y.isFinite ∧ Sized i e |valueOf y| ∧ Within 1 |q| |valueOf y| := by
  have bound : IsBound (2 ^ e) := isBound_two_pow small
  obtain ⟨finite, nearest, -⟩ := h.of_le bound size.most
  have top := nearest.le bound size.most
  rcases size.least with zero | le
  · rw [zero] at nearest ⊢
    rw [nearest.eq_of_isBound isBound_zero]
    exact ⟨finite, .zero i e, (Within.refl le_rfl).mono (Nat.zero_le 1)⟩
  · have exponents : i ≤ (e : Int) := by
      have powers : (2 : ℚ) ^ i ≤ 2 ^ (e : Int) := by
        rw [zpow_natCast]
        exact le.trans size.most
      exact (zpow_le_zpow_iff_right₀ (by norm_num)).1 powers
    obtain ⟨c, k, canonical, -, value⟩ := isBound_two_zpow low (by omega : i ≤ 1023)
    have above : 2 ^ i ≤ |valueOf y| := by
      rw [value] at le ⊢
      exact nearest.lower c k canonical le
    have normal : 2 ^ (-1022 : Int) ≤ |q| := (two_zpow_le (by omega)).trans le
    exact ⟨finite, ⟨.inr above, top⟩, nearest.within normal (isBound_valueOf finite)⟩

/-- A result that is not negative. -/
theorem Rounds.sized_of_nonneg {q : ℚ} {i : Int} {e : Nat} (h : Rounds q y) (low : -1021 ≤ i)
    (small : e ≤ 1023) (size : Sized i e q) :
    y.isFinite ∧ Sized i e (valueOf y) ∧ Within 1 q (valueOf y) := by
  have same := abs_of_nonneg size.nonneg
  obtain ⟨-, nonneg, -⟩ := h.of_nonneg (isBound_two_pow small) size.nonneg size.most
  have all := h.sized low small (same.symm ▸ size)
  rwa [same, abs_of_nonneg nonneg] at all

/-- A result that is a number of the format, up to its sign. -/
theorem Rounds.exact_of_abs {q : ℚ} (h : Rounds q y) (bound : IsBound |q|) :
    y.isFinite ∧ valueOf y = q := by
  obtain ⟨finite, nearest, side⟩ := h.of_le bound le_rfl
  refine ⟨finite, ?_⟩
  rcases abs_eq_abs.1 (nearest.eq_of_isBound bound) with same | opposite
  · exact same
  · have zero : q = 0 := by
      rw [opposite, mul_neg] at side
      exact mul_self_eq_zero.1 (le_antisymm (neg_nonneg.1 side) (mul_self_nonneg q))
    rw [opposite, zero, neg_zero]

/-! ### Quotients -/

/-- A quotient by a number that is at least one. -/
theorem quotient_within {i : Int} {e f : Nat} (hx : x.isFinite) (hy : y.isFinite)
    (size : Sized i e (valueOf x)) (one : 1 ≤ valueOf y) (most : valueOf y ≤ 2 ^ f)
    (low : f - 1021 ≤ i) (small : e ≤ 1023) :
    (x / y).isFinite ∧ Sized (i - f) e (valueOf (x / y)) ∧
      Within 1 (valueOf x / valueOf y) (valueOf (x / y)) :=
  (div_rounds hx hy (zero_lt_one.trans_le one).ne').sized_of_nonneg (by omega) small
    (size.div one most)

/-! ### Squared differences -/

theorem exists_multiple (s : Sign) (m : Nat) {e g : Int} (le : g ≤ e) :
    ∃ n : Int, signed s (m * 2 ^ e) = n * 2 ^ g := by
  rw [← shiftLeft_value m le]
  cases s with
  | negative =>
    exact ⟨-((m <<< (e - g).toNat : Nat) : Int), by
      rw [signed, Int.cast_neg, Int.cast_natCast, neg_mul]⟩
  | positive => exact ⟨(m <<< (e - g).toNat : Nat), by rw [signed, Int.cast_natCast]⟩

/-- A large number is a multiple of a number that is less by the length of a mantissa. -/
theorem exists_multiple_of_le {g : Int} (hx : x.isFinite) (large : 2 ^ (g + 53) ≤ |valueOf x|) :
    ∃ n : Int, valueOf x = n * 2 ^ g := by
  obtain ⟨s, m, e, canonical, -, unpacked⟩ := unpack_eq_ofParts hx
  rw [valueOf, unpacked, value_ofParts] at large ⊢
  refine exists_multiple s m ?_
  rw [abs_signed, abs_mantissa] at large
  by_contra! less
  have unit := two_zpow_pos e
  have small : (m : ℚ) < 2 ^ (53 : Int) := by exact_mod_cast canonical.small
  have below : (m : ℚ) * 2 ^ e < 2 ^ (53 : Int) * 2 ^ e := by gcongr
  rw [← two_zpow_add] at below
  exact absurd (large.trans_lt below) (two_zpow_le (by omega)).not_gt

/-- A difference is not much smaller than the numbers. -/
theorem Sized.sub {i : Int} {e : Nat} (hx : x.isFinite) (hy : y.isFinite)
    (sizeX : Sized i e (valueOf x)) (sizeY : Sized i e (valueOf y)) :
    Sized (i - 53) e |valueOf x - valueOf y| := by
  have multiple {z : Float} (hz : z.isFinite) (size : Sized i e (valueOf z)) :
      ∃ n : Int, valueOf z = n * 2 ^ (i - 53) := by
    rcases size.least with zero | le
    · exact ⟨0, by rw [zero, Int.cast_zero, zero_mul]⟩
    · refine exists_multiple_of_le hz ?_
      rw [Int.sub_add_cancel, abs_of_nonneg size.nonneg]
      exact le
  obtain ⟨m, valueX⟩ := multiple hx sizeX
  obtain ⟨n, valueY⟩ := multiple hy sizeY
  constructor
  · have unit := two_zpow_pos (i - 53)
    rw [valueX, valueY, ← sub_mul, ← Int.cast_sub, abs_mul, abs_of_pos unit, ← Int.cast_abs]
    by_cases same : m - n = 0
    · exact .inl (by rw [same, abs_zero, Int.cast_zero, zero_mul])
    · have one : (1 : ℚ) ≤ (|m - n| : Int) := by exact_mod_cast Int.one_le_abs same
      exact .inr (le_mul_of_one_le_left unit.le one)
  · rw [abs_sub_le_iff]
    exact ⟨(sub_le_self _ sizeY.nonneg).trans sizeX.most,
      (sub_le_self _ sizeX.nonneg).trans sizeY.most⟩

/-- A squared difference is three roundings away from the exact one. -/
theorem square_within {i : Int} {e : Nat} (hx : x.isFinite) (hy : y.isFinite)
    (sizeX : Sized i e (valueOf x)) (sizeY : Sized i e (valueOf y)) (low : -457 ≤ i)
    (small : e ≤ 511) :
    ((x - y) * (x - y)).isFinite ∧
      Sized (i - 53 + (i - 53)) (e + e) (valueOf ((x - y) * (x - y))) ∧
      Within 3 ((valueOf x - valueOf y) ^ 2) (valueOf ((x - y) * (x - y))) := by
  obtain ⟨finite, size, within⟩ :=
    (sub_rounds hx hy).sized (by omega) (by omega) (.sub hx hy sizeX sizeY)
  have square := mul_rounds finite finite
  rw [← abs_mul_abs_self] at square
  obtain ⟨finite', size', within'⟩ :=
    square.sized_of_nonneg (by omega) (by omega) (size.mul size)
  refine ⟨finite', size', ?_⟩
  rw [← sq_abs, sq]
  exact (within.mul within).trans within'

/-! ### Words -/

/-- A word is one rounding away from its number. -/
theorem toFloat_within (n : UInt64) :
    n.toFloat.isFinite ∧ Sized 0 64 (valueOf n.toFloat) ∧
      Within 1 n.toNat (valueOf n.toFloat) := by
  refine (toFloat_rounds n).sized_of_nonneg (by decide) (by decide) ⟨?_, ?_⟩
  · rw [zpow_zero]
    exact_mod_cast Nat.eq_zero_or_pos n.toNat
  · exact_mod_cast n.toNat_lt.le

theorem floatOfCount_within {n : Nat} (few : n < 2 ^ 64) :
    (floatOfCount n).isFinite ∧ Sized 0 64 (valueOf (floatOfCount n)) ∧
      Within 1 n (valueOf (floatOfCount n)) := by
  have word := toFloat_within n.toUInt64
  rwa [UInt64.toNat_ofNat_of_lt' few, ← floatOfCount_eq few] at word

/-- A number of things is at least one, if there are any. -/
theorem one_le_floatOfCount {n : Nat} (some : n ≠ 0) (few : n < 2 ^ 64) :
    1 ≤ valueOf (floatOfCount n) := by
  rw [floatOfCount_eq few]
  refine one_le_valueOf_toFloat ?_
  rwa [ne_eq, ← UInt64.toNat_inj, UInt64.toNat_ofNat_of_lt' few]

/-! ### Sums of many numbers -/

section

variable {i : Int} {e : Nat}

/-- A summand is less than half a unit in the last place of the numbers at the end of the range of a
total. -/
theorem Sized.add_lt {q r : ℚ} (h : Sized i (e + 54) q) (h' : Sized i e r) :
    q + r < (((2 ^ 52 : Nat) : ℚ) + 1 / 2) * 2 ^ ((e + 2 : Nat) : Int) := by
  have unit : (0 : ℚ) < 2 ^ e := by positivity
  calc q + r ≤ 2 ^ (e + 54) + 2 ^ e := add_le_add h.most h'.most
    _ = (((2 ^ 52 : Nat) : ℚ) + 1 / 4) * 2 ^ ((e + 2 : Nat) : Int) := by
        rw [zpow_natCast, pow_add, pow_add]
        push_cast
        ring
    _ < (((2 ^ 52 : Nat) : ℚ) + 1 / 2) * 2 ^ ((e + 2 : Nat) : Int) := by
        gcongr
        norm_num

/-- A total stays in its range: no summand takes it beyond the end. -/
theorem Sized.sum (hx : x.isFinite) (hy : y.isFinite) (sizeX : Sized i (e + 54) (valueOf x))
    (sizeY : Sized i e (valueOf y)) (low : -1021 ≤ i) (small : e ≤ 900) :
    (x + y).isFinite ∧ Sized i (e + 54) (valueOf (x + y)) ∧
      Within 1 (valueOf x + valueOf y) (valueOf (x + y)) := by
  have rounds := add_rounds hx hy
  have nonneg : 0 ≤ valueOf x + valueOf y := add_nonneg sizeX.nonneg sizeY.nonneg
  have wide : Sized i (e + 55) (valueOf x + valueOf y) := by
    refine ⟨(sizeX.add (sizeY.mono le_rfl (by omega))), ?_⟩
    calc valueOf x + valueOf y ≤ 2 ^ (e + 54) + 2 ^ (e + 54) :=
          add_le_add sizeX.most (sizeY.mono le_rfl (by omega)).most
      _ = 2 ^ (e + 55) := by rw [← two_mul, ← pow_succ']
  obtain ⟨finite, size, within⟩ := rounds.sized_of_nonneg low (by omega) wide
  refine ⟨finite, ⟨size.least, ?_⟩, within⟩
  obtain ⟨-, nearest, -⟩ :=
    rounds.of_le (isBound_two_pow (by omega)) ((abs_of_nonneg nonneg).trans_le wide.most)
  rw [abs_of_nonneg nonneg, abs_of_nonneg size.nonneg] at nearest
  have most : valueOf (x + y) ≤ ((2 ^ 52 : Nat) : ℚ) * 2 ^ ((e + 2 : Nat) : Int) :=
    nearest.upper _ _ ⟨by decide, by omega, .inl le_rfl⟩ (sizeX.add_lt sizeY)
  refine most.trans_eq ?_
  rw [zpow_natCast, Nat.cast_pow, Nat.cast_ofNat, ← pow_add]
  congr 1
  omega

/-- **A sum** is one rounding for each summand away from the exact sum. -/
theorem total_within (low : -1021 ≤ i) (small : e ≤ 900) {l : List Float}
    (each : ∀ x ∈ l, x.isFinite ∧ Sized i e (valueOf x)) :
    (Samples.total l).isFinite ∧ Sized i (e + 54) (valueOf (Samples.total l)) ∧
      Within l.length (l.map valueOf).sum (valueOf (Samples.total l)) := by
  -- from any start, by induction on the summands that are still to come
  have goOn (l : List Float) (each : ∀ x ∈ l, x.isFinite ∧ Sized i e (valueOf x)) (start : Float)
      (n : Nat) (q : ℚ) (finite : start.isFinite) (size : Sized i (e + 54) (valueOf start))
      (within : Within n q (valueOf start)) :
      (l.foldl (· + ·) start).isFinite ∧ Sized i (e + 54) (valueOf (l.foldl (· + ·) start)) ∧
        Within (n + l.length) (q + (l.map valueOf).sum) (valueOf (l.foldl (· + ·) start)) := by
    induction l generalizing start n q with
    | nil => exact ⟨finite, size, by simpa using within⟩
    | cons x r ih =>
      obtain ⟨⟨finiteX, sizeX⟩, rest⟩ := List.forall_mem_cons.1 each
      obtain ⟨finite', size', rounded⟩ := Sized.sum finite finiteX size sizeX low small
      have own : Within n (valueOf x) (valueOf x) :=
        (Within.refl sizeX.nonneg).mono (Nat.zero_le n)
      have both := ih rest (start + x) (n + 1) (q + valueOf x) finite' size'
        ((within.add own).trans rounded)
      rwa [Nat.add_assoc, Nat.add_comm 1, add_assoc] at both
  have none : Within 0 0 (valueOf (-0.0)) := Within.refl le_rfl
  have all := goOn l each (-0.0) 0 0 rfl (.zero i _) none
  rwa [Nat.zero_add, zero_add] at all

end

/-- A sum of multiples of one number is exact, as long as the multiple fits a mantissa. -/
theorem total_exact {A : Type} {f : A → Float} {n : A → Nat} {g : Int} (least : -1021 ≤ g)
    (most : g ≤ 971) {l : List A} (few : (l.map n).sum < 2 ^ 53)
    (each : ∀ a ∈ l, (f a).isFinite ∧ valueOf (f a) = n a * 2 ^ g) :
    (Samples.total (l.map f)).isFinite ∧
      valueOf (Samples.total (l.map f)) = (l.map n).sum * 2 ^ g := by
  have goOn (l : List A) (each : ∀ a ∈ l, (f a).isFinite ∧ valueOf (f a) = n a * 2 ^ g)
      (start : Float) (k : Nat) (finite : start.isFinite) (value : valueOf start = k * 2 ^ g)
      (few : k + (l.map n).sum < 2 ^ 53) :
      ((l.map f).foldl (· + ·) start).isFinite ∧
        valueOf ((l.map f).foldl (· + ·) start) = (k + (l.map n).sum : Nat) * 2 ^ g := by
    induction l generalizing start k with
    | nil => exact ⟨finite, by simpa using value⟩
    | cons a r ih =>
      obtain ⟨⟨finite', value'⟩, rest⟩ := List.forall_mem_cons.1 each
      rw [List.map_cons, List.sum_cons, ← Nat.add_assoc] at few
      have sum := add_rounds finite finite'
      rw [value, value', ← add_mul, ← Nat.cast_add] at sum
      have bound := isBound_mantissa (by omega : k + n a < 2 ^ 53) least most
      obtain ⟨finite, value⟩ := sum.exact bound
      rw [List.map_cons, List.map_cons, List.sum_cons, ← Nat.add_assoc]
      exact ih rest _ _ finite value few
  have all := goOn l each (-0.0) 0 rfl (by rw [Nat.cast_zero, zero_mul]; rfl)
    (by rwa [Nat.zero_add])
  rwa [Nat.zero_add] at all

/-- A sum that is exact does not depend on the order. -/
theorem total_eq_of_perm {A : Type} {f : A → Float} {n : A → Nat} {g : Int} (least : -1021 ≤ g)
    (most : g ≤ 971) {l l' : List A} (p : l.Perm l') (few : (l.map n).sum < 2 ^ 53)
    (each : ∀ a ∈ l, (f a).isFinite ∧ valueOf (f a) = n a * 2 ^ g)
    (unsigned : ∀ a ∈ l, Unsigned (f a)) :
    Samples.total (l.map f) = Samples.total (l'.map f) := by
  by_cases none : l = []
  · subst none
    rw [p.nil_eq]
  have listed {a : A} (h : a ∈ l') : a ∈ l := p.mem_iff.2 h
  have same : (l'.map n).sum = (l.map n).sum := (p.symm.map n).sum_eq
  obtain ⟨finite, value⟩ := total_exact least most few each
  obtain ⟨finite', value'⟩ :=
    total_exact least most (same.trans_lt few) fun a h => each a (listed h)
  have positive {k : List A} (any : k ≠ []) (all : ∀ a ∈ k, Unsigned (f a)) :
      Unsigned (Samples.total (k.map f)) := by
    refine Samples.unsigned_total (by simpa using any) fun x hx => ?_
    obtain ⟨a, h, rfl⟩ := List.mem_map.1 hx
    exact all a h
  have any' : l' ≠ [] := fun empty => none (List.perm_nil.1 (empty ▸ p))
  refine eq_of_valueOf finite finite' (positive none unsigned)
    (positive any' fun a h => unsigned a (listed h)) ?_
  rw [value, value', same]

end Rounding

end LoadFleet
