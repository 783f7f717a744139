import LoadFleet.Proofs.ExactNumbers
import LoadFleet.Proofs.Rounding
/-!
# The order of floating point numbers

Floating point numbers are compared by sign, exponent and mantissa.  Of finite ones that is the
order of the rational numbers that they are, and what lies between two finite ones is finite.  Taken
apart into the bits of a word, a floating point number is the same rational number.

* `Rounding.le_iff`: finite floating point numbers are in the order of their values.
* `Rounding.isFinite_of_between`: what is neither infinite nor undefined is seen from its bounds.
* `exactValue_eq_valueOf`: the value read off the bits.
* `Dyadic.ceil_eq`: an exact value is rounded up as the rational number that it is.
-/

namespace LoadFleet

open Float.Model Float.Model.UnpackedFloat

namespace Rounding

/-! ### Comparing -/

section

variable {m n : Nat} {d e : Int}

theorem mantissa_pos (some : m ≠ 0) (d : Int) : (0 : ℚ) < m * 2 ^ d :=
  mul_pos (by exact_mod_cast Nat.pos_of_ne_zero some) (two_zpow_pos d)

/-- Numbers of the format are in the order of their exponents. -/
theorem Canonical.lt_of_exponent_lt (h : Canonical m d) (h' : Canonical n e) (less : d < e) :
    (m * 2 ^ d : ℚ) < n * 2 ^ e := by
  have large : 2 ^ 52 ≤ n := h'.normal.resolve_right (by have := h.least; omega)
  have := two_zpow_pos d
  have := two_zpow_pos e
  calc (m * 2 ^ d : ℚ) ≤ (m + 1 / 2) * 2 ^ d := by gcongr; linarith
    _ < 2 ^ (52 : Nat) * 2 ^ e := below_normal h.small less
    _ ≤ n * 2 ^ e := by gcongr; exact_mod_cast large

/-- Where their exponents are the same, numbers of the format are in the order of their
mantissas. -/
theorem isLE_compare_iff (h : Canonical m d) (h' : Canonical n e) :
    ((compare d e).then (compare m n)).isLE ↔ (m * 2 ^ d : ℚ) ≤ n * 2 ^ e := by
  rcases lt_trichotomy d e with less | rfl | more
  · rw [compare_lt_iff_lt.2 less]
    exact iff_of_true rfl (h.lt_of_exponent_lt h' less).le
  · rw [compare_eq_iff_eq.2 rfl, Ordering.then, Nat.isLE_compare,
      mul_le_mul_iff_left₀ (two_zpow_pos d), Nat.cast_le]
  · rw [compare_gt_iff_gt.2 more]
    exact iff_of_false nofun (h'.lt_of_exponent_lt h more).not_ge

/-- Numbers of the format are compared as the rational numbers that they are. -/
theorem le_ofParts_iff {s t : Sign} (h : Canonical m d) (h' : Canonical n e) :
    (ofParts s m d).le (ofParts t n e) ↔ signed s (m * 2 ^ d) ≤ signed t (n * 2 ^ e) := by
  by_cases zero : m = 0 <;> by_cases zero' : n = 0
  · subst zero zero'
    simp [ofParts, UnpackedFloat.le, UnpackedFloat.compare]
  · have := mantissa_pos zero' e
    subst zero
    rw [Nat.cast_zero, zero_mul, signed_zero, ofParts, dif_pos rfl, ofParts, dif_neg zero']
    cases t
    · exact iff_of_false Bool.false_ne_true (by simp only [signed]; linarith)
    · exact iff_of_true rfl (by simp only [signed]; linarith)
  · have := mantissa_pos zero d
    subst zero'
    rw [Nat.cast_zero, zero_mul, signed_zero, ofParts, dif_neg zero, ofParts, dif_pos rfl]
    cases s
    · exact iff_of_true rfl (by simp only [signed]; linarith)
    · exact iff_of_false Bool.false_ne_true (by simp only [signed]; linarith)
  · have above := mantissa_pos zero d
    have above' := mantissa_pos zero' e
    simp only [ofParts, zero, zero', dif_neg, not_false_eq_true, UnpackedFloat.le]
    cases s <;> cases t
    · have swapped : ((compare d e).then (compare m n)).swap =
          (compare e d).then (compare n m) := by
        rw [Ordering.swap_then, ← Std.OrientedCmp.eq_swap, ← Std.OrientedCmp.eq_swap]
      simp only [UnpackedFloat.compare, swapped, Option.any_some, isLE_compare_iff h' h, signed,
        neg_le_neg_iff]
    · exact iff_of_true rfl (by simp only [signed]; linarith)
    · exact iff_of_false Bool.false_ne_true (by simp only [signed]; linarith)
    · simp only [UnpackedFloat.compare, Option.any_some, isLE_compare_iff h h', signed]

end

section

variable {x y z : Float}

theorem le_iff_unpack : x ≤ y ↔ x.toModel.unpack.le y.toModel.unpack = true := by
  change decide (x.toModel.unpack.le y.toModel.unpack = true) = true ↔ _
  rw [decide_eq_true_iff]

/-- **Finite floating point numbers** are in the order of their values. -/
theorem le_iff (hx : x.isFinite) (hy : y.isFinite) : x ≤ y ↔ valueOf x ≤ valueOf y := by
  obtain ⟨s, m, d, h, -, ux⟩ := unpack_eq_ofParts hx
  obtain ⟨t, n, e, h', -, uy⟩ := unpack_eq_ofParts hy
  rw [le_iff_unpack, valueOf, valueOf, ux, uy, value_ofParts, value_ofParts, le_ofParts_iff h h']

/-- What is not below a finite number and not above one is finite. -/
theorem isFinite_of_between (hx : x.isFinite) (hz : z.isFinite) (above : x ≤ y) (below : y ≤ z) :
    y.isFinite := by
  change y.toModel.unpack.isFinite = true
  have hx : x.toModel.unpack.isFinite = true := hx
  have hz : z.toModel.unpack.isFinite = true := hz
  rw [le_iff_unpack] at above below
  generalize x.toModel.unpack = a at hx above
  generalize z.toModel.unpack = c at hz below
  generalize y.toModel.unpack = b at above below
  cases b with
  | notANumber => cases a <;> cases above
  | infinity s =>
    cases s
    · cases a <;> first | cases above | cases hx
    · cases c <;> first | cases below | cases hz
  | zero s => rfl
  | finite s m e positive => rfl

end

end Rounding

/-! ### Taking apart -/

section

variable (b : BitVec 64)

theorem toNat_unpackMantissa :
    (@unpackMantissa .binary64 b).toNat = b.toNat % 0x10000000000000 := by
  simp [unpackMantissa]

theorem toNat_unpackExponent :
    (@unpackExponent .binary64 b).toNat = b.toNat / 0x10000000000000 % 0x800 := by
  simp [unpackExponent, Nat.shiftRight_eq_div_pow]

theorem ofBitVec_unpackSign_eq :
    Sign.ofBitVec (@unpackSign .binary64 b) =
      if 0x8000000000000000 ≤ b.toNat then .negative else .positive := by
  have sign : (@unpackSign .binary64 b).toNat = b.toNat / 0x8000000000000000 % 2 := by
    simp [unpackSign, Nat.shiftRight_eq_div_pow]
  have := b.isLt
  rw [Sign.ofBitVec]
  by_cases large : 0x8000000000000000 ≤ b.toNat
  · rw [if_pos large, if_neg fun zero => ?_]
    rw [zero] at sign
    change 0 = _ at sign
    omega
  · rw [if_neg large, if_pos (BitVec.eq_of_toNat_eq ?_)]
    rw [sign]
    change _ = 0
    omega

end

/-- **The bits** of a finite floating point number show the rational number that it is. -/
theorem Dyadic.ofFloat?_of_isFinite {x : Float} (h : x.isFinite) :
    ∃ d, ofFloat? x = some d ∧ d.value = Rounding.valueOf x := by
  change ∃ d, ofFloat? x = some d ∧
    d.value = Rounding.value (UnpackedFloat.unpack .binary64 x.toModel.toBits.toBitVec)
  have finite : (UnpackedFloat.unpack .binary64 x.toModel.toBits.toBitVec).isFinite = true := h
  have bits : x.toBits.toNat = x.toModel.toBits.toBitVec.toNat := rfl
  rw [ofFloat?, bits]
  generalize x.toModel.toBits.toBitVec = b at finite ⊢
  have bias : ((Format.binary64.exponentBias : Nat) : Int) +
      (Format.binary64.mantissaBitsWithoutImplicit : Nat) = 1075 := rfl
  have value_eq (m : Nat) (e : Int) :
      (Dyadic.mk (decide (0x8000000000000000 ≤ b.toNat)) m e).value =
        Rounding.signed (Sign.ofBitVec (@unpackSign .binary64 b)) (m * 2 ^ e) := by
    rw [ofBitVec_unpackSign_eq]
    by_cases large : 0x8000000000000000 ≤ b.toNat <;>
      simp [Dyadic.value, large, Rounding.signed]
  rw [UnpackedFloat.unpack] at finite ⊢
  dsimp only at finite ⊢
  rw [← toNat_unpackExponent, ← toNat_unpackMantissa]
  by_cases top : @unpackExponent .binary64 b = -1#_
  · rw [if_pos top] at finite
    split at finite <;> cases finite
  have top' : (@unpackExponent .binary64 b).toNat ≠ 2047 := fun same =>
    top (BitVec.eq_of_toNat_eq same)
  rw [if_neg top, if_neg top']
  by_cases bottom : @unpackExponent .binary64 b = 0#_
  · have bottom' : (@unpackExponent .binary64 b).toNat = 0 := congrArg BitVec.toNat bottom
    rw [if_pos bottom, if_pos bottom', bottom']
    refine ⟨_, rfl, ?_⟩
    rw [value_eq]
    split
    · next zero => simp [zero, Rounding.value]
    · rw [bias]; rfl
  · have bottom' : (@unpackExponent .binary64 b).toNat ≠ 0 := fun same =>
      bottom (BitVec.eq_of_toNat_eq same)
    rw [if_neg bottom, if_neg bottom']
    refine ⟨_, rfl, ?_⟩
    rw [value_eq, bias, Rounding.value, Rounding.toNat_implicit_append]
    rfl

theorem exactValue_eq_valueOf {x : Float} (h : x.isFinite) :
    exactValue x = Rounding.valueOf x := by
  obtain ⟨d, known, value⟩ := Dyadic.ofFloat?_of_isFinite h
  rw [exactValue, known, Option.map_some, Option.getD_some, value]

/-! ### Rounding up -/

theorem Dyadic.quotient_eq (d : Dyadic) :
    0 < d.quotient.2 ∧ (d.quotient.1 / d.quotient.2 : ℚ) = d.mantissa * 2 ^ d.exponent := by
  obtain ⟨negative, m, e⟩ := d
  by_cases whole : 0 ≤ e
  · lift e to Nat using whole
    simp [quotient, Nat.shiftLeft_eq]
  · obtain ⟨k, rfl⟩ : ∃ k : Nat, e = -k := ⟨(-e).toNat, by omega⟩
    have parts : (Dyadic.mk negative m (-k)).quotient = (m, 2 ^ k) := by
      rw [quotient, if_neg whole]
      simp [Nat.shiftLeft_eq]
    simp [parts, div_eq_mul_inv]

/-- An exact value is rounded up as the rational number that it is. -/
theorem Dyadic.ceil_eq (d : Dyadic) : d.ceil = ⌈d.value⌉₊ := by
  obtain ⟨positive, quotient⟩ := d.quotient_eq
  by_cases negative : d.negative
  · have := (Rounding.two_zpow_pos d.exponent).le
    have below : d.value ≤ 0 := by
      rw [Dyadic.value, if_pos negative, neg_one_mul, neg_mul, neg_nonpos]
      positivity
    rw [ceil, if_pos negative, Nat.ceil_eq_zero.2 below]
  · rw [ceil, if_neg negative, Dyadic.value, if_neg negative, one_mul, ← quotient]
    generalize d.quotient = q at positive
    refine eq_of_forall_ge_iff fun n => ?_
    have whole : (q.1 : ℚ) ≤ n * q.2 ↔ q.1 ≤ n * q.2 := by exact_mod_cast Iff.rfl
    rw [Nat.ceil_le, div_le_iff₀ (by exact_mod_cast positive), whole,
      Nat.div_le_iff_le_mul_add_pred positive, Nat.mul_comm q.2]
    omega

theorem clampWord_ceil {x : Float} (h : x.isFinite) :
    Dyadic.clampWord Dyadic.ceil x = min ⌈Rounding.valueOf x⌉₊ wordMax := by
  obtain ⟨d, known, value⟩ := Dyadic.ofFloat?_of_isFinite h
  rw [Dyadic.clampWord, known, ← value, ← Dyadic.ceil_eq]

end LoadFleet
