import LoadFleet.Number.Scalar
import Mathlib
/-!
# Rounding of floating point numbers

The result of a floating point operation is the exact result, rounded to the nearest number of the
format. What that means for bounds is all that is used of it: a result is not above any number of
the format that the exact result is not above, or passes by less than half a unit in the last place.

* `Rounding.Shows`: what a mantissa with residual bits tells about the exact number.
* `Rounding.roundWithAccuracy_cases`: the one place where numbers are rounded.
* `Rounding.unpack_pack`: what was rounded is packed and unpacked unchanged.
* `Rounding.Rounds`: a floating point number is the rounding of a rational number.
* `Rounding.add_rounds`, `sub_rounds`, `mul_rounds`, `div_rounds`, `toFloat_rounds`: the results of
  the operations.
* `Rounding.Rounds.of_nonneg`, `of_nonpos`: a result has the bounds of the exact result.
* `Rounding.Rounds.mono`: results are in the order of the exact results.
-/

namespace LoadFleet.Rounding

open Float.Model Float.Model.UnpackedFloat

/-! ### Mantissas with residual bits -/

/-- Where a fraction lies, as an accuracy tells it. -/
def Lies : Accuracy → ℚ → Prop
  | .exact, f => f = 0
  | .inexact .lt, f => 0 < f ∧ f < 1 / 2
  | .inexact .eq, f => f = 1 / 2
  | .inexact .gt, f => 1 / 2 < f ∧ f < 1

/-- A mantissa and its residual bits show a number. -/
def Shows (em : ExtendedMantissa) (x : ℚ) : Prop := Lies em.accuracy (x - em.mantissa)

variable {em : ExtendedMantissa} {x : ℚ}

theorem shows_ofMantissaAndAccuracy {m : Nat} {a : Accuracy} (h : Lies a (x - m)) :
    Shows (.ofMantissaAndAccuracy m a) x := by
  rcases a with _ | _ | _ | _ <;> exact h

@[simp] theorem mantissa_ofMantissaAndAccuracy (m : Nat) (a : Accuracy) :
    (ExtendedMantissa.ofMantissaAndAccuracy m a).mantissa = m := by
  rcases a with _ | _ | _ | _ <;> rfl

theorem Shows.between (h : Shows em x) : (em.mantissa : ℚ) ≤ x ∧ x < em.mantissa + 1 := by
  rcases em with ⟨m, _ | _, _ | _⟩ <;>
    simp only [Shows, ExtendedMantissa.accuracy, Lies] at h <;> constructor <;> linarith

theorem Shows.shiftRightOne (h : Shows em x) : Shows em.shiftRightOne (x / 2) := by
  rcases em with ⟨m, round, sticky⟩
  have halves : (m : ℚ) = 2 * (m / 2 : Nat) + (m % 2 : Nat) := by
    exact_mod_cast (Nat.div_add_mod m 2).symm
  rcases Nat.mod_two_eq_zero_or_one m with last | last <;> rw [last] at halves <;>
    cases round <;> cases sticky <;>
    simp [Shows, ExtendedMantissa.shiftRightOne, ExtendedMantissa.accuracy, Lies, last] at h ⊢ <;>
    first | linarith | constructor <;> linarith

theorem Shows.shiftRight (h : Shows em x) (n : Nat) : Shows (em >>> n) (x / 2 ^ n) := by
  induction n with
  | zero => rwa [pow_zero, div_one]
  | succ n ih =>
    have := ih.shiftRightOne
    rwa [div_div, ← pow_succ] at this

/-- A number is rounded to no more than a whole number that it passes by less than a half. -/
theorem Shows.roundedMantissa_le (h : Shows em x) {n : Nat} (near : x < n + 1 / 2) :
    em.roundedMantissa ≤ n := by
  have below : em.mantissa < n + 1 := by
    have := h.between.1
    exact_mod_cast (by linarith : (em.mantissa : ℚ) < n + 1)
  rcases em with ⟨m, _ | _, _ | _⟩ <;>
    simp only [Shows, ExtendedMantissa.accuracy, Lies, ExtendedMantissa.roundedMantissa,
      Accuracy.roundToNearestEven] at h below ⊢
  · omega
  · omega
  all_goals
    have : m < n := by exact_mod_cast (by linarith : (m : ℚ) < n)
    omega

/-- A number is rounded to more than a whole number that it passes by more than a half. -/
theorem Shows.lt_roundedMantissa (h : Shows em x) {n : Nat} (past : n + 1 / 2 < x) :
    n < em.roundedMantissa := by
  have above : n ≤ em.mantissa := by
    have := h.between.2
    exact Nat.lt_succ_iff.1 (by exact_mod_cast (by linarith : (n : ℚ) < em.mantissa + 1))
  rcases em with ⟨m, _ | _, _ | _⟩ <;>
    simp only [Shows, ExtendedMantissa.accuracy, Lies, ExtendedMantissa.roundedMantissa,
      Accuracy.roundToNearestEven] at h above ⊢
  case true.true => omega
  all_goals
    have : n < m := by exact_mod_cast (by linarith : (n : ℚ) < m)
    omega

/-- A half is rounded to the even one of its neighbours. -/
theorem Shows.roundedMantissa_half {n : Nat} (h : Shows em (n + 1 / 2)) :
    em.roundedMantissa = n + n % 2 := by
  obtain ⟨below, above⟩ := h.between
  have same : em.mantissa = n := by
    have : em.mantissa < n + 1 := by exact_mod_cast (by linarith : (em.mantissa : ℚ) < n + 1)
    have : n < em.mantissa + 1 := by exact_mod_cast (by linarith : (n : ℚ) < em.mantissa + 1)
    omega
  rcases em with ⟨m, _ | _, _ | _⟩ <;>
    simp only [Shows, ExtendedMantissa.accuracy, Lies, ExtendedMantissa.roundedMantissa,
      Accuracy.roundToNearestEven] at h same ⊢ <;> subst same
  · linarith
  · linarith
  · omega
  · linarith

theorem le_roundedMantissa (em : ExtendedMantissa) : em.mantissa ≤ em.roundedMantissa := by
  rcases em with ⟨m, _ | _, _ | _⟩ <;>
    simp [ExtendedMantissa.roundedMantissa, ExtendedMantissa.accuracy,
      Accuracy.roundToNearestEven]

/-! ### Numbers of the format -/

/-- Mantissas and exponents of the numbers of the format. -/
structure Canonical (m : Nat) (e : Int) : Prop where
  small : m < 2 ^ 53
  least : -1074 ≤ e
  normal : 2 ^ 52 ≤ m ∨ e = -1074

/-- The unpacked number of a sign, a mantissa and an exponent. -/
def ofParts (s : Sign) (m : Nat) (e : Int) : UnpackedFloat :=
  if h : m = 0 then .zero s else .finite s m e (Nat.pos_of_ne_zero h)

theorem two_zpow_pos (e : Int) : (0 : ℚ) < 2 ^ e := zpow_pos (by norm_num) e

theorem two_zpow_le {d e : Int} (h : d ≤ e) : (2 : ℚ) ^ d ≤ 2 ^ e :=
  zpow_le_zpow_right₀ (by norm_num) h

theorem two_zpow_add (d e : Int) : (2 : ℚ) ^ (d + e) = 2 ^ d * 2 ^ e :=
  zpow_add₀ (by norm_num) d e

/-- The least normal number of an exponent is above all numbers of smaller exponents. -/
theorem below_normal {c : Nat} {e k : Int} (hc : c < 2 ^ 53) (less : k < e) :
    (c + 1 / 2 : ℚ) * 2 ^ k < 2 ^ (52 : Nat) * 2 ^ e := by
  have bound : (c : ℚ) + 1 ≤ 2 ^ (53 : Nat) := by exact_mod_cast hc
  calc (c + 1 / 2 : ℚ) * 2 ^ k < 2 ^ (53 : Nat) * 2 ^ k := by
        have := two_zpow_pos k
        gcongr
        linarith
    _ = 2 ^ (52 : Nat) * 2 ^ (1 + k) := by rw [two_zpow_add]; norm_num; ring
    _ ≤ 2 ^ (52 : Nat) * 2 ^ e := by
        have := two_zpow_le (by omega : 1 + k ≤ e)
        gcongr

/-- What a number near a bound is rounded to is not above the bound: its mantissa has at most 53
bits, and is not above the one of the bound if they have the same exponent. -/
theorem le_of_near {r c : Nat} {t k : Int} {x : ℚ} (bound : Canonical c k) (small : r ≤ 2 ^ 53)
    (least : -1074 ≤ t) (normal : 2 ^ (52 : Nat) * 2 ^ t ≤ x ∨ t = -1074)
    (rounded : x / 2 ^ t < c + 1 / 2 → r ≤ c) (near : x < (c + 1 / 2) * 2 ^ k) :
    (r : ℚ) * 2 ^ t ≤ c * 2 ^ k := by
  have positive := two_zpow_pos t
  rcases lt_trichotomy t k with less | rfl | more
  · have large : 2 ^ 52 ≤ c := bound.normal.resolve_right (by omega)
    calc (r : ℚ) * 2 ^ t ≤ 2 ^ (53 : Nat) * 2 ^ t := by gcongr; exact_mod_cast small
      _ = 2 ^ (52 : Nat) * 2 ^ (1 + t) := by rw [two_zpow_add]; norm_num; ring
      _ ≤ 2 ^ (52 : Nat) * 2 ^ k := by gcongr; exacts [by norm_num, by omega]
      _ ≤ c * 2 ^ k := by
        have := two_zpow_pos k
        gcongr
        exact_mod_cast large
  · have : r ≤ c := rounded ((div_lt_iff₀ positive).2 near)
    gcongr
  · rcases normal with normal | rfl
    · exact absurd (normal.trans_lt near) (below_normal bound.small more).le.not_gt
    · exact absurd bound.least (by omega)

/-- What a number above a bound is rounded to is not below the bound. -/
theorem le_rounded {r c : Nat} {t k : Int} {x : ℚ} (bound : Canonical c k)
    (large : 2 ^ 52 ≤ r ∨ t = -1074) (rounded : ∀ n : Nat, (n : ℚ) ≤ x / 2 ^ t → n ≤ r)
    (below : c * 2 ^ k ≤ x) : c * 2 ^ k ≤ (r : ℚ) * 2 ^ t := by
  have positive := two_zpow_pos t
  rcases Int.lt_or_le k t with more | less
  · have large : 2 ^ 52 ≤ r := large.resolve_right (by have := bound.least; omega)
    have := two_zpow_pos k
    calc (c : ℚ) * 2 ^ k ≤ (c + 1 / 2) * 2 ^ k := by gcongr; linarith
      _ ≤ 2 ^ (52 : Nat) * 2 ^ t := (below_normal bound.small more).le
      _ ≤ r * 2 ^ t := by gcongr; exact_mod_cast large
  · have shifted : ((c * 2 ^ (k - t).toNat : Nat) : ℚ) * 2 ^ t = c * 2 ^ k := by
      push_cast
      rw [mul_assoc, ← zpow_natCast, ← two_zpow_add, Int.toNat_of_nonneg (by omega),
        Int.sub_add_cancel]
    rw [← shifted] at below ⊢
    have : c * 2 ^ (k - t).toNat ≤ r := rounded _ ((le_div_iff₀ positive).2 below)
    gcongr

theorem Canonical.exponent_le {m c : Nat} {e k : Int} (h : Canonical m e) (bound : Canonical c k)
    (le : (m : ℚ) * 2 ^ e ≤ c * 2 ^ k) : e ≤ k := by
  by_contra more
  have large : 2 ^ 52 ≤ m := h.normal.resolve_right (by have := bound.least; omega)
  have := two_zpow_pos e
  have below := below_normal bound.small (by omega : k < e)
  have : (2 : ℚ) ^ (52 : Nat) * 2 ^ e ≤ m * 2 ^ e := by gcongr; exact_mod_cast large
  have := two_zpow_pos k
  linarith

/-- A number is what another one is rounded to. It is not above any number of the format that the
other one is not above, or passes by less than half a unit, it is above those that the other one
passes by more, and it is not below any that the other one is not below. Halfway between two numbers
of the format, the even one decides. -/
structure Nearest (x y : ℚ) : Prop where
  upper : ∀ c k, Canonical c k → x < (c + 1 / 2) * 2 ^ k → y ≤ c * 2 ^ k
  lower : ∀ c k, Canonical c k → c * 2 ^ k ≤ x → c * 2 ^ k ≤ y
  past : ∀ c k, Canonical c k → (c + 1 / 2) * 2 ^ k < x → c * 2 ^ k < y
  half : ∀ c k, Canonical c k → x = (c + 1 / 2) * 2 ^ k → (c * 2 ^ k < y ↔ c % 2 = 1)

/-! ### Rounding -/

/-- The exponent that a number is rounded at. -/
theorem targetExponent_eq (m : Nat) (e : Int) :
    Format.binary64.targetExponent (totalExponent m e) = max (m.log2 + e - 52) (-1074) := by
  simp only [Format.targetExponent, totalExponent, Format.mantissaBits, Format.minExponent]
  norm_num
  omega

/-- What is not rounded yet is shifted to the exponent that it is rounded at. -/
theorem shiftToTargetExponent_eq {m : Nat} {e : Int} (a : Accuracy)
    (fine : e ≤ max (m.log2 + e - 52) (-1074)) :
    shiftToTargetExponent .binary64 m e a =
      (ExtendedMantissa.ofMantissaAndAccuracy m a >>> (max (m.log2 + e - 52) (-1074) - e).toNat,
        max (m.log2 + e - 52) (-1074)) := by
  unfold shiftToTargetExponent
  rw [targetExponent_eq]
  simp only [shiftToExponent, Prod.mk.injEq, true_and]
  omega

/-- A mantissa that was rounded stays as it is. -/
theorem shiftToTargetExponent_rounded {r : Nat} {t : Int} (small : r < 2 ^ 53)
    (least : -1074 ≤ t) :
    shiftToTargetExponent .binary64 r t .exact = (⟨r, false, false⟩, t) := by
  have bits : r.log2 ≤ 52 := by
    rcases Nat.eq_zero_or_pos r with rfl | positive
    · decide
    · exact Nat.le_of_lt_succ ((Nat.log2_lt positive.ne').2 small)
  have still : (max ((r.log2 : Int) + t - 52) (-1074) - t).toNat = 0 := by omega
  unfold shiftToTargetExponent
  rw [targetExponent_eq]
  simp only [shiftToExponent, still]
  rw [Int.natCast_zero, Int.add_zero]
  rfl

/-- A mantissa that was rounded up to one bit more is shifted once more. -/
theorem shiftToTargetExponent_carried {t : Int} (least : -1074 ≤ t) :
    shiftToTargetExponent .binary64 (2 ^ 53) t .exact = (⟨2 ^ 52, false, false⟩, t + 1) := by
  have once : (max (((2 ^ 53 : Nat).log2 : Int) + t - 52) (-1074) - t).toNat = 1 := by
    rw [Nat.log2_two_pow]
    omega
  unfold shiftToTargetExponent
  rw [targetExponent_eq]
  simp only [shiftToExponent, once]
  rfl

theorem roundWithAccuracy_eq (s : Sign) (m : Nat) (e : Int) (a : Accuracy) :
    roundWithAccuracy .binary64 s m e a =
      let first := shiftToTargetExponent .binary64 m e a
      let last := shiftToTargetExponent .binary64 first.1.roundedMantissa first.2 .exact
      ofParts s last.1.mantissa last.2 :=
  rfl

/-- What is left of an exact number at an exponent: a mantissa with residual bits that has at most
53 bits, and has no fewer unless the exponent is the least. -/
structure Shifted (em : ExtendedMantissa) (t : Int) (x : ℚ) : Prop where
  shows : Shows em (x / 2 ^ t)
  least : -1074 ≤ t
  range : x < 2 ^ (53 : Nat) * 2 ^ t
  normal : 2 ^ (52 : Nat) * 2 ^ t ≤ x ∨ t = -1074

theorem shifted_of_lies {m : Nat} {e : Int} {a : Accuracy} (lies : Lies a (x / 2 ^ e - m))
    (fine : e ≤ max (m.log2 + e - 52) (-1074)) (known : m = 0 → e ≤ -1022) :
    Shifted (shiftToTargetExponent .binary64 m e a).1 (shiftToTargetExponent .binary64 m e a).2
      x := by
  rw [shiftToTargetExponent_eq a fine]
  generalize target : max ((m.log2 : Int) + e - 52) (-1074) = t at fine
  have start : Shows (.ofMantissaAndAccuracy m a) (x / 2 ^ e) := shows_ofMantissaAndAccuracy lies
  obtain ⟨above, below⟩ := start.between
  rw [mantissa_ofMantissaAndAccuracy, le_div_iff₀ (two_zpow_pos e)] at above
  rw [mantissa_ofMantissaAndAccuracy, div_lt_iff₀ (two_zpow_pos e)] at below
  have := two_zpow_pos e
  refine ⟨?_, target ▸ le_max_right _ _, ?_, or_iff_not_imp_right.2 fun more => ?_⟩
  · have shows := start.shiftRight (t - e).toNat
    rw [div_div, ← zpow_natCast, ← two_zpow_add] at shows
    rwa [show e + ((t - e).toNat : Int) = t by omega] at shows
  · calc x < (m + 1) * 2 ^ e := below
      _ ≤ 2 ^ (m.log2 + 1) * 2 ^ e := by
        gcongr
        exact_mod_cast Nat.lt_log2_self
      _ = 2 ^ ((m.log2 + 1 : Nat) + e) := by rw [two_zpow_add, zpow_natCast]
      _ ≤ 2 ^ ((53 : Nat) + t) := two_zpow_le (by omega)
      _ = 2 ^ (53 : Nat) * 2 ^ t := by rw [two_zpow_add, zpow_natCast]
  · have positive : m ≠ 0 := by
      rintro rfl
      have := known rfl
      rw [Nat.log2_zero] at target
      omega
    calc (2 : ℚ) ^ (52 : Nat) * 2 ^ t = 2 ^ m.log2 * 2 ^ e := by
          rw [← zpow_natCast, ← zpow_natCast, ← two_zpow_add, ← two_zpow_add]
          congr 1
          omega
      _ ≤ m * 2 ^ e := by
        gcongr
        exact_mod_cast Nat.log2_self_le positive
      _ ≤ x := above

section

variable {t : Int} (h : Shifted em t x)

include h

theorem Shifted.small : em.roundedMantissa ≤ 2 ^ 53 := by
  refine h.shows.roundedMantissa_le ?_
  rw [div_lt_iff₀ (two_zpow_pos t)]
  have := two_zpow_pos t
  have := h.range
  push_cast
  linarith

theorem Shifted.large : 2 ^ 52 ≤ em.roundedMantissa ∨ t = -1074 := by
  refine h.normal.imp_left fun normal => le_trans ?_ (le_roundedMantissa em)
  rw [← le_div_iff₀ (two_zpow_pos t)] at normal
  have : ((2 ^ 52 : Nat) : ℚ) < em.mantissa + 1 := by
    have := h.shows.between.2
    push_cast
    linarith
  exact Nat.lt_succ_iff.1 (by exact_mod_cast this)

/-- A number above half a unit past a number of the format is not rounded at a smaller exponent
than that one has. -/
theorem Shifted.exponent_le {c : Nat} {k : Int} (bound : Canonical c k)
    (past : (c + 1 / 2) * 2 ^ k ≤ x) : k ≤ t := by
  by_contra! less
  have large : 2 ^ 52 ≤ c := bound.normal.resolve_right (by have := h.least; omega)
  have := two_zpow_pos k
  have : x < c * 2 ^ k :=
    calc x < 2 ^ (53 : Nat) * 2 ^ t := h.range
      _ = 2 ^ (52 : Nat) * 2 ^ (1 + t) := by rw [two_zpow_add]; norm_num; ring
      _ ≤ 2 ^ (52 : Nat) * 2 ^ k := by gcongr; exacts [by norm_num, by omega]
      _ ≤ c * 2 ^ k := by gcongr; exact_mod_cast large
  linarith

/-- A number that is rounded at a larger exponent than a number of the format has is rounded to a
larger number. -/
theorem Shifted.lt_rounded {c : Nat} {k : Int} (bound : Canonical c k) (more : k < t) :
    c * 2 ^ k < (em.roundedMantissa : ℚ) * 2 ^ t := by
  have large := h.large.resolve_right (by have := bound.least; omega)
  have := two_zpow_pos k
  have := two_zpow_pos t
  calc (c : ℚ) * 2 ^ k < (c + 1 / 2) * 2 ^ k := by gcongr; linarith
    _ < 2 ^ (52 : Nat) * 2 ^ t := below_normal bound.small more
    _ ≤ em.roundedMantissa * 2 ^ t := by gcongr; exact_mod_cast large

theorem Shifted.nearest : Nearest x (em.roundedMantissa * 2 ^ t) where
  upper _ _ bound close :=
    le_of_near bound h.small h.least h.normal h.shows.roundedMantissa_le close
  lower _ _ bound below := by
    refine le_rounded bound h.large (fun n less => ?_) below
    have : (n : ℚ) < em.mantissa + 1 := less.trans_lt h.shows.between.2
    exact le_trans (Nat.lt_succ_iff.1 (by exact_mod_cast this)) (le_roundedMantissa em)
  past c k bound past := by
    rcases (h.exponent_le bound past.le).lt_or_eq with more | rfl
    · exact h.lt_rounded bound more
    · have := two_zpow_pos k
      have := h.shows.lt_roundedMantissa ((lt_div_iff₀ ‹_›).2 past)
      gcongr
  half c k bound half := by
    have positive := two_zpow_pos k
    rcases (h.exponent_le bound half.ge).lt_or_eq with more | rfl
    · -- the numbers halfway between two of a smaller exponent are below those of this one
      have := below_normal bound.small more
      have := h.normal.resolve_right (by have := bound.least; omega)
      linarith
    · have shows := h.shows
      rw [half, mul_div_cancel_right₀ _ positive.ne'] at shows
      rw [mul_lt_mul_iff_left₀ positive, Nat.cast_lt, shows.roundedMantissa_half]
      omega

end

@[simp] theorem roundedMantissa_exact (m : Nat) :
    ExtendedMantissa.roundedMantissa ⟨m, false, false⟩ = m :=
  rfl

/-- Nothing is left of a number of the format. -/
theorem Canonical.shifted {m : Nat} {e : Int} (h : Canonical m e) :
    Shifted ⟨m, false, false⟩ e (m * 2 ^ e) := by
  have := two_zpow_pos e
  refine ⟨?_, h.least, ?_, h.normal.imp_left fun normal => ?_⟩
  · change (m * 2 ^ e : ℚ) / 2 ^ e - m = 0
    rw [mul_div_cancel_right₀ _ (two_zpow_pos e).ne', sub_self]
  · gcongr
    exact_mod_cast h.small
  · gcongr
    exact_mod_cast normal

/-- **What is rounded** is a number of the format, with the sign kept. -/
theorem roundWithAccuracy_cases (s : Sign) {m : Nat} {e : Int} {a : Accuracy}
    (lies : Lies a (x / 2 ^ e - m)) (fine : e ≤ max (m.log2 + e - 52) (-1074))
    (known : m = 0 → e ≤ -1022) :
    ∃ r t, Canonical r t ∧ roundWithAccuracy .binary64 s m e a = ofParts s r t ∧
      Nearest x (r * 2 ^ t) := by
  have shifted := shifted_of_lies lies fine known
  rw [roundWithAccuracy_eq]
  generalize shiftToTargetExponent .binary64 m e a = first at shifted ⊢
  obtain ⟨em, t⟩ := first
  dsimp only at shifted ⊢
  have nearest := shifted.nearest
  rcases Nat.lt_or_eq_of_le shifted.small with small | carried
  · rw [shiftToTargetExponent_rounded small shifted.least]
    exact ⟨em.roundedMantissa, t, ⟨small, shifted.least, shifted.large⟩, rfl, nearest⟩
  · rw [carried, shiftToTargetExponent_carried shifted.least]
    refine ⟨2 ^ 52, t + 1, ⟨by decide, by have := shifted.least; omega, .inl le_rfl⟩, rfl, ?_⟩
    have same : ((2 ^ 52 : Nat) : ℚ) * 2 ^ (t + 1) = em.roundedMantissa * 2 ^ t := by
      rw [carried, add_comm, two_zpow_add]
      norm_num
      ring
    rwa [same]

/-! ### Packing -/

theorem ofBitVec_unpackSign (s : Sign) (e : BitVec 11) (m : BitVec 52) :
    Sign.ofBitVec (unpackSign (packComponents .binary64 s e m)) = s := by
  rw [unpackSign, packComponents, BitVec.extractLsb, BitVec.extractLsb'_append_eq_of_le (by decide),
    BitVec.extractLsb'_append_eq_of_le (by decide)]
  cases s <;> rfl

theorem toNat_implicit_append {w : Nat} (m : BitVec w) : (1#1 ++ m).toNat = 2 ^ w + m.toNat := by
  rw [BitVec.toNat_append, ← Nat.shiftLeft_add_eq_or_of_lt m.isLt]
  simp [Nat.shiftLeft_eq]

/-- A number of the format is packed and unpacked unchanged. -/
theorem unpack_pack {s : Sign} {m : Nat} {e : Int} (h : Canonical m e) (top : e ≤ 971) :
    (Float.Model.pack (ofParts s m e)).unpack = ofParts s m e := by
  obtain ⟨small, least, normal⟩ := h
  by_cases zero : m = 0
  · rw [ofParts, dif_pos zero]
    cases s <;> rfl
  have bits : m.log2 + 1 = 53 ↔ 2 ^ 52 ≤ m := by
    rw [← Nat.le_log2 zero]
    have := (Nat.log2_lt zero).2 small
    omega
  rw [ofParts, dif_neg zero]
  change UnpackedFloat.unpack .binary64 (UnpackedFloat.pack .binary64 _) = _
  have biased : (e + (Format.binary64.exponentBias : Nat) +
      (Format.binary64.mantissaBitsWithoutImplicit : Nat)).toNat = (e + 1075).toNat := by
    change (e + (1023 : Nat) + (52 : Nat)).toNat = _
    omega
  simp only [UnpackedFloat.pack, biased]
  rw [if_neg (by omega)]
  change UnpackedFloat.unpack .binary64 (if m.log2 + 1 = 53 then _ else _) = _
  by_cases large : 2 ^ 52 ≤ m
  · rw [if_pos (bits.2 large), UnpackedFloat.unpack]
    have exponent : (BitVec.ofNat 11 (e + 1075).toNat).toNat = (e + 1075).toNat := by
      rw [BitVec.toNat_ofNat, Nat.mod_eq_of_lt (by omega)]
    have top : BitVec.ofNat 11 (e + 1075).toNat ≠ -1#_ := fun same => by
      rw [← BitVec.toNat_inj, exponent] at same
      change _ = 2047 at same
      omega
    have bottom : BitVec.ofNat 11 (e + 1075).toNat ≠ 0#_ := fun same => by
      rw [← BitVec.toNat_inj, exponent] at same
      change _ = 0 at same
      omega
    simp only [unpackMantissa_packComponents, unpackExponent_packComponents, ofBitVec_unpackSign]
    rw [if_neg top, if_neg bottom]
    simp only [toNat_implicit_append, exponent, BitVec.toNat_ofNat, finite.injEq, true_and]
    exact ⟨by omega, by change _ - ((1023 : Int) + 52) = e; omega⟩
  · obtain rfl := normal.resolve_left large
    rw [if_neg (large ∘ bits.1), UnpackedFloat.unpack]
    have mantissa : (BitVec.ofNat 52 m).toNat = m := by
      rw [BitVec.toNat_ofNat, Nat.mod_eq_of_lt (by omega)]
    have some : BitVec.ofNat 52 m ≠ 0#_ := fun same => by
      rw [← BitVec.toNat_inj, mantissa] at same
      exact zero same
    simp only [unpackMantissa_packComponents, unpackExponent_packComponents, ofBitVec_unpackSign]
    rw [if_neg (by decide), if_pos trivial, dif_neg some]
    simp only [mantissa, finite.injEq, true_and]
    rfl

theorem canonical_of_unpack {b : BitVec Format.binary64.numBits} {s : Sign} {m : Nat} {e : Int}
    {positive : 0 < m} (h : UnpackedFloat.unpack .binary64 b = .finite s m e positive) :
    Canonical m e ∧ e ≤ 971 := by
  have fraction : (unpackMantissa b).toNat < 2 ^ 52 := (unpackMantissa b).isLt
  have exponent : (unpackExponent b).toNat < 2 ^ 11 := (unpackExponent b).isLt
  have bias : ((Format.binary64.exponentBias : Nat) : Int) +
      (Format.binary64.mantissaBitsWithoutImplicit : Nat) = 1075 := rfl
  rw [UnpackedFloat.unpack] at h
  dsimp only at h
  split at h
  · split at h <;> cases h
  · next top =>
    have : (unpackExponent b).toNat ≠ 2047 := fun same => top (BitVec.eq_of_toNat_eq same)
    split at h
    · next bottom =>
      split at h
      · cases h
      · cases h
        have least : (unpackExponent b).toNat = 0 := congrArg BitVec.toNat bottom
        rw [least, bias]
        exact ⟨⟨by omega, by decide, .inr rfl⟩, by decide⟩
    · next bottom =>
      have : (unpackExponent b).toNat ≠ 0 := fun same => bottom (BitVec.eq_of_toNat_eq same)
      cases h
      rw [bias, toNat_implicit_append]
      change Canonical (2 ^ 52 + _) _ ∧ _
      exact ⟨⟨by omega, by omega, by omega⟩, by omega⟩

/-! ### Values -/

/-- A number with a sign. -/
def signed : Sign → ℚ → ℚ
  | .negative, x => -x
  | .positive, x => x

@[simp] theorem abs_signed (s : Sign) (x : ℚ) : |signed s x| = |x| := by
  cases s <;> simp [signed]

@[simp] theorem signed_zero (s : Sign) : signed s 0 = 0 := by
  cases s <;> simp [signed]

/-- The rational number that an unpacked number is, if it is finite. -/
def value : UnpackedFloat → ℚ
  | .finite s m e _ => signed s (m * 2 ^ e)
  | _ => 0

/-- The rational number that a floating point number is, if it is finite. -/
def valueOf (x : Float) : ℚ := value x.toModel.unpack

@[simp] theorem value_ofParts (s : Sign) (m : Nat) (e : Int) :
    value (ofParts s m e) = signed s (m * 2 ^ e) := by
  rw [ofParts]
  split
  · next h => simp [h, value]
  · rfl

/-- What a finite number unpacks to is a number of the format. -/
theorem unpack_eq_ofParts {x : Float} (h : x.isFinite) :
    ∃ s m e, Canonical m e ∧ e ≤ 971 ∧ x.toModel.unpack = ofParts s m e := by
  have finite : x.toModel.unpack.isFinite := h
  cases unpacked : x.toModel.unpack with
  | notANumber | infinity =>
    rw [unpacked] at finite
    cases finite
  | zero s => exact ⟨s, 0, -1074, ⟨by decide, le_rfl, .inr rfl⟩, by decide, rfl⟩
  | finite s m e positive =>
    obtain ⟨canonical, top⟩ := canonical_of_unpack unpacked
    exact ⟨s, m, e, canonical, top, by rw [ofParts, dif_neg positive.ne']⟩

theorem abs_mantissa (m : Nat) (e : Int) : |(m * 2 ^ e : ℚ)| = m * 2 ^ e := by
  have := (two_zpow_pos e).le
  rw [abs_of_nonneg (by positivity)]

/-! ### Results -/

/-- An unpacked number is what a rational number is rounded to. -/
def RoundsTo (q : ℚ) (u : UnpackedFloat) : Prop :=
  ∃ s r t, Canonical r t ∧ u = ofParts s r t ∧ q = signed s |q| ∧ Nearest |q| (r * 2 ^ t)

/-- A floating point number is the rounding of a rational number, unless that is beyond the range of
the format. -/
def Rounds (q : ℚ) (x : Float) : Prop :=
  ∀ c k, Canonical c k → k ≤ 971 → |q| < (c + 1 / 2) * 2 ^ k →
    x.isFinite ∧ Nearest |q| |valueOf x| ∧ 0 ≤ q * valueOf x

theorem RoundsTo.pack {q : ℚ} {u : UnpackedFloat} (h : RoundsTo q u) :
    Rounds q (.ofModel (.pack u)) := by
  obtain ⟨s, r, t, canonical, rfl, side, nearest⟩ := h
  intro c k bound top close
  have below := nearest.upper c k bound close
  have unpacked := unpack_pack (s := s) canonical ((canonical.exponent_le bound below).trans top)
  have known : valueOf (.ofModel (.pack (ofParts s r t))) = signed s (r * 2 ^ t) := by
    rw [valueOf, unpacked, value_ofParts]
  have nonneg : (0 : ℚ) ≤ r * 2 ^ t := abs_mantissa r t ▸ abs_nonneg _
  refine ⟨?_, ?_, ?_⟩
  · change (Float.Model.pack (ofParts s r t)).unpack.isFinite = true
    rw [unpacked, ofParts]
    split <;> rfl
  · rwa [known, abs_signed, abs_mantissa]
  · rw [known, side]
    cases s
    · simpa [signed] using mul_nonneg (abs_nonneg q) nonneg
    · simpa [signed] using mul_nonneg (abs_nonneg q) nonneg

/-- A number of the format is rounded to itself. -/
theorem roundsTo_ofParts {s : Sign} {m : Nat} {e : Int} (h : Canonical m e) :
    RoundsTo (signed s (m * 2 ^ e)) (ofParts s m e) := by
  refine ⟨s, m, e, h, rfl, by rw [abs_signed, abs_mantissa], ?_⟩
  rw [abs_signed, abs_mantissa]
  have shifted := h.shifted
  have nearest := shifted.nearest
  rwa [roundedMantissa_exact] at nearest

theorem roundsTo_roundWithAccuracy (s : Sign) {m : Nat} {e : Int} {a : Accuracy} (nonneg : 0 ≤ x)
    (lies : Lies a (x / 2 ^ e - m)) (fine : e ≤ max (m.log2 + e - 52) (-1074))
    (known : m = 0 → e ≤ -1022) :
    RoundsTo (signed s x) (roundWithAccuracy .binary64 s m e a) := by
  obtain ⟨r, t, canonical, rounded, near⟩ := roundWithAccuracy_cases s lies fine known
  refine ⟨s, r, t, canonical, rounded, ?_, ?_⟩
  · rw [abs_signed, abs_of_nonneg nonneg]
  · rwa [abs_signed, abs_of_nonneg nonneg]

theorem lies_exact (m : Nat) (e : Int) : Lies .exact ((m * 2 ^ e : ℚ) / 2 ^ e - m) := by
  rw [Lies, mul_div_cancel_right₀ _ (two_zpow_pos e).ne', sub_self]

/-! ### Sums -/

/-- A mantissa at a smaller exponent. -/
theorem shiftLeft_value (m : Nat) {d e : Int} (less : d ≤ e) :
    ((m <<< (e - d).toNat : Nat) : ℚ) * 2 ^ d = m * 2 ^ e := by
  rw [Nat.shiftLeft_eq]
  push_cast
  rw [mul_assoc, ← zpow_natCast, ← two_zpow_add, Int.toNat_of_nonneg (by omega), Int.sub_add_cancel]

theorem log2_shiftLeft {m : Nat} (positive : m ≠ 0) (n : Nat) : (m <<< n).log2 = m.log2 + n := by
  induction n with
  | zero => rfl
  | succ n ih =>
    rw [Nat.shiftLeft_succ, Nat.log2_two_mul (by simp [Nat.shiftLeft_eq, positive]), ih,
      Nat.add_assoc]

theorem roundsTo_round (s : Sign) {m : Nat} (positive : m ≠ 0) (e : Int) :
    RoundsTo (signed s (m * 2 ^ e)) (UnpackedFloat.round .binary64 s m e) := by
  unfold UnpackedFloat.round
  rw [targetExponent_eq]
  simp only [decreaseExponent]
  generalize target : max ((m.log2 : Int) + e - 52) (-1074) = t
  have bits : (m <<< (e - t).toNat).log2 = m.log2 + (e - t).toNat := log2_shiftLeft positive _
  have same := shiftLeft_value m (by omega : e - (e - t).toNat ≤ e)
  rw [show (e - (e - (e - t).toNat)).toNat = (e - t).toNat by omega] at same
  rw [← same]
  refine roundsTo_roundWithAccuracy s ?_ (lies_exact _ _) (by omega) fun zero => ?_
  · exact abs_mantissa _ _ ▸ abs_nonneg _
  · rw [Nat.shiftLeft_eq] at zero
    simp [positive] at zero

/-- A whole number at an exponent. -/
theorem roundsTo_normalize (n : Int) (e : Int) (zero : Sign) :
    RoundsTo (n * 2 ^ e) (UnpackedFloat.normalize .binary64 n e zero) := by
  unfold UnpackedFloat.normalize
  split
  · next less =>
    rw [compare_lt_iff_lt] at less
    have := roundsTo_round .negative (by omega : (-n).toNat ≠ 0) e
    have whole : ((-n).toNat : ℚ) = -n := by exact_mod_cast Int.toNat_of_nonneg (by omega)
    rwa [signed, whole, neg_mul, neg_neg] at this
  · next same =>
    rw [compare_eq_iff_eq] at same
    rw [same, Int.cast_zero, zero_mul]
    have := roundsTo_ofParts (s := zero) ⟨by decide, le_rfl, .inr rfl⟩ (m := 0) (e := -1074)
    simpa [ofParts] using this
  · next more =>
    rw [compare_gt_iff_gt] at more
    have := roundsTo_round .positive (by omega : n.toNat ≠ 0) e
    have whole : (n.toNat : ℚ) = n := by exact_mod_cast Int.toNat_of_nonneg (by omega)
    rwa [signed, whole] at this

theorem apply_cast (s : Sign) (n : Nat) : ((s.apply n : Int) : ℚ) = signed s n := by
  cases s <;> simp [Sign.apply, signed]

theorem signed_mul (s : Sign) (x y : ℚ) : signed s (x * y) = signed s x * y := by
  cases s <;> simp [signed]

theorem roundsTo_zero (s : Sign) : RoundsTo 0 (.zero s) := by
  have := roundsTo_ofParts (s := s) (m := 0) (e := -1074) ⟨by decide, le_rfl, .inr rfl⟩
  simpa [ofParts] using this

theorem roundsTo_add {s₁ s₂ : Sign} {m₁ m₂ : Nat} {e₁ e₂ : Int} (h₁ : Canonical m₁ e₁)
    (h₂ : Canonical m₂ e₂) :
    RoundsTo (signed s₁ (m₁ * 2 ^ e₁) + signed s₂ (m₂ * 2 ^ e₂))
      (UnpackedFloat.add .binary64 (ofParts s₁ m₁ e₁) (ofParts s₂ m₂ e₂)) := by
  by_cases zero₁ : m₁ = 0
  · by_cases zero₂ : m₂ = 0
    · subst zero₁ zero₂
      simp only [Nat.cast_zero, zero_mul, signed_zero, add_zero]
      simp only [ofParts, dif_pos, UnpackedFloat.add]
      split <;> exact roundsTo_zero _
    · have := roundsTo_ofParts (s := s₂) h₂
      subst zero₁
      simp only [Nat.cast_zero, zero_mul, signed_zero, zero_add]
      simpa [ofParts, zero₂, UnpackedFloat.add] using this
  · by_cases zero₂ : m₂ = 0
    · have := roundsTo_ofParts (s := s₁) h₁
      subst zero₂
      simp only [Nat.cast_zero, zero_mul, signed_zero, add_zero]
      simpa [ofParts, zero₁, UnpackedFloat.add] using this
    · simp only [ofParts, zero₁, zero₂, dif_neg, not_false_eq_true, UnpackedFloat.add,
        decreaseExponent]
      have := roundsTo_normalize
        (s₁.apply (m₁ <<< (e₁ - min e₁ e₂).toNat : Nat) +
          s₂.apply (m₂ <<< (e₂ - min e₁ e₂).toNat : Nat)) (min e₁ e₂) .positive
      rwa [Int.cast_add, apply_cast, apply_cast, add_mul, ← signed_mul, ← signed_mul,
        shiftLeft_value m₁ (min_le_left _ _), shiftLeft_value m₂ (min_le_right _ _)] at this

/-- A difference is the sum with the negated number. -/
theorem sub_eq_add (a b : UnpackedFloat) :
    UnpackedFloat.sub .binary64 a b = UnpackedFloat.add .binary64 a b.neg := by
  cases a <;> cases b <;> try rfl
  next s m e _ t n d _ =>
    have (i : Int) : (-t).apply i = -t.apply i := by
      cases t
      · exact (Int.neg_neg i).symm
      · rfl
    simp only [UnpackedFloat.sub, UnpackedFloat.add, UnpackedFloat.neg, this, Int.sub_eq_add_neg]

theorem neg_ofParts (s : Sign) (m : Nat) (e : Int) : (ofParts s m e).neg = ofParts (-s) m e := by
  rw [ofParts, ofParts]
  split <;> rfl

theorem signed_neg (s : Sign) (x : ℚ) : signed (-s) x = -signed s x := by
  cases s
  · exact (neg_neg x).symm
  · rfl

/-! ### Products and quotients -/

theorem signed_mul_signed (s t : Sign) (x y : ℚ) :
    signed s x * signed t y = signed (s * t) (x * y) := by
  cases s <;> cases t
  · exact neg_mul_neg x y
  · exact neg_mul x y
  · exact mul_neg x y
  · rfl

theorem signed_div_signed (s t : Sign) (x y : ℚ) :
    signed s x / signed t y = signed (s / t) (x / y) := by
  cases s <;> cases t
  · exact neg_div_neg_eq x y
  · exact neg_div y x
  · exact div_neg x
  · rfl

theorem roundsTo_mul {s₁ s₂ : Sign} {m₁ m₂ : Nat} {e₁ e₂ : Int} (h₁ : Canonical m₁ e₁)
    (h₂ : Canonical m₂ e₂) (top₁ : e₁ ≤ 971) (top₂ : e₂ ≤ 971) :
    RoundsTo (signed s₁ (m₁ * 2 ^ e₁) * signed s₂ (m₂ * 2 ^ e₂))
      (UnpackedFloat.mul .binary64 (ofParts s₁ m₁ e₁) (ofParts s₂ m₂ e₂)) := by
  by_cases zero₁ : m₁ = 0
  · subst zero₁
    simp only [Nat.cast_zero, zero_mul, signed_zero]
    simp only [ofParts, dif_pos]
    split <;> exact roundsTo_zero _
  by_cases zero₂ : m₂ = 0
  · subst zero₂
    simp only [Nat.cast_zero, zero_mul, signed_zero, mul_zero]
    simp only [ofParts, zero₁, dif_neg, dif_pos, not_false_eq_true]
    exact roundsTo_zero _
  have product : (m₁ * 2 ^ e₁ : ℚ) * (m₂ * 2 ^ e₂) = (m₁ * m₂ : Nat) * 2 ^ (e₁ + e₂) := by
    rw [two_zpow_add]
    push_cast
    ring
  rw [signed_mul_signed, product]
  simp only [ofParts, zero₁, zero₂, dif_neg, not_false_eq_true, UnpackedFloat.mul]
  -- a normal number has enough bits, and two others are below the least exponent
  have bits : m₁.log2 + m₂.log2 ≤ (m₁ * m₂).log2 := by
    rw [Nat.le_log2 (by simp [zero₁, zero₂]), pow_add]
    exact Nat.mul_le_mul (Nat.log2_self_le zero₁) (Nat.log2_self_le zero₂)
  have enough (m : Nat) (large : 2 ^ 52 ≤ m) : 52 ≤ m.log2 :=
    (Nat.le_log2 (by omega)).2 large
  refine roundsTo_roundWithAccuracy _ (abs_mantissa _ _ ▸ abs_nonneg _) (lies_exact _ _) ?_
    (by simp [zero₁, zero₂])
  rcases h₁.normal with large | rfl
  · have := enough m₁ large
    omega
  · rcases h₂.normal with large | rfl
    · have := enough m₂ large
      omega
    · omega

theorem lies_accuracyOfFraction {n d : Nat} (less : n < d) :
    Lies (accuracyOfFraction n d) (n / d) := by
  have positive : (0 : ℚ) < d := by exact_mod_cast Nat.lt_of_le_of_lt (Nat.zero_le n) less
  rw [accuracyOfFraction]
  split
  · next zero => simp [zero, Lies]
  · next some =>
    have : (0 : ℚ) < n := by exact_mod_cast Nat.pos_of_ne_zero some
    have : (n : ℚ) < d := by exact_mod_cast less
    rcases lt_trichotomy (2 * n) d with below | half | above
    · rw [compare_lt_iff_lt.2 below, Lies, div_lt_iff₀ positive]
      have : (2 * n : ℚ) < d := by exact_mod_cast below
      exact ⟨by positivity, by linarith⟩
    · rw [compare_eq_iff_eq.2 half, Lies, div_eq_iff positive.ne']
      have : (2 * n : ℚ) = d := by exact_mod_cast half
      linarith
    · rw [compare_gt_iff_gt.2 above, Lies, lt_div_iff₀ positive, div_lt_iff₀ positive]
      have : (d : ℚ) < 2 * n := by exact_mod_cast above
      exact ⟨by linarith, by linarith⟩

/-- The whole part and the remainder of a quotient of mantissas. -/
theorem quotient_parts (m₁ : Nat) {m₂ : Nat} (positive : 0 < m₂) {e₁ e₂ t : Int}
    (fine : t ≤ e₁ - e₂) :
    let m := m₁ <<< (e₁ - e₂ - t).toNat
    (m₁ * 2 ^ e₁ / (m₂ * 2 ^ e₂) : ℚ) / 2 ^ t - (m / m₂ : Nat) = (m % m₂ : Nat) / m₂ := by
  intro m
  have divisor : (m₂ : ℚ) ≠ 0 := by exact_mod_cast positive.ne'
  have := (two_zpow_pos t).ne'
  have := (two_zpow_pos e₂).ne'
  have shifted : (m : ℚ) * 2 ^ t * 2 ^ e₂ = m₁ * 2 ^ e₁ := by
    rw [shiftLeft_value m₁ fine, mul_assoc, ← two_zpow_add, Int.sub_add_cancel]
  have parts : (m : ℚ) = m₂ * (m / m₂ : Nat) + (m % m₂ : Nat) := by
    exact_mod_cast (Nat.div_add_mod m m₂).symm
  rw [← shifted]
  field_simp
  linarith

theorem roundsTo_div {s₁ s₂ : Sign} {m₁ m₂ : Nat} {e₁ e₂ : Int} (nonzero : m₂ ≠ 0) :
    RoundsTo (signed s₁ (m₁ * 2 ^ e₁) / signed s₂ (m₂ * 2 ^ e₂))
      (UnpackedFloat.div .binary64 (ofParts s₁ m₁ e₁) (ofParts s₂ m₂ e₂)) := by
  by_cases zero : m₁ = 0
  · subst zero
    simp only [Nat.cast_zero, zero_mul, signed_zero, zero_div]
    simp only [ofParts, nonzero, dif_neg, dif_pos, not_false_eq_true]
    exact roundsTo_zero _
  rw [signed_div_signed]
  simp only [ofParts, zero, nonzero, dif_neg, not_false_eq_true, UnpackedFloat.div, divCore]
  have target : Format.binary64.targetExponent (totalExponent m₁ e₁ - totalExponent m₂ e₂) =
      max (m₁.log2 + e₁ - (m₂.log2 + e₂) - 53) (-1074) := by
    simp only [Format.targetExponent, totalExponent, Format.mantissaBits, Format.minExponent]
    norm_num
    omega
  rw [target]
  generalize exponent :
    min (e₁ - e₂) (max ((m₁.log2 : Int) + e₁ - (m₂.log2 + e₂) - 53) (-1074)) = t
  have fine : t ≤ e₁ - e₂ := exponent ▸ min_le_left _ _
  have positive := Nat.pos_of_ne_zero nonzero
  have lies := lies_accuracyOfFraction
    (Nat.mod_lt (m₁ <<< (e₁ - e₂ - t).toNat) positive)
  rw [← quotient_parts m₁ positive fine] at lies
  -- a quotient at an exponent above the least has enough bits
  have enough (more : -1074 < t) :
      52 ≤ (m₁ <<< (e₁ - e₂ - t).toNat / m₂).log2 ∧ m₁ <<< (e₁ - e₂ - t).toNat / m₂ ≠ 0 := by
    have large : 2 ^ 52 ≤ m₁ <<< (e₁ - e₂ - t).toNat / m₂ := by
      rw [Nat.le_div_iff_mul_le positive]
      calc 2 ^ 52 * m₂ ≤ 2 ^ 52 * 2 ^ (m₂.log2 + 1) := Nat.mul_le_mul_left _ Nat.lt_log2_self.le
        _ = 2 ^ (53 + m₂.log2) := by rw [← pow_add]; congr 1; omega
        _ ≤ 2 ^ (m₁.log2 + (e₁ - e₂ - t).toNat) := Nat.pow_le_pow_right (by decide) (by omega)
        _ ≤ m₁ <<< (e₁ - e₂ - t).toNat := by
          rw [← log2_shiftLeft zero]
          exact Nat.log2_self_le (by simp [Nat.shiftLeft_eq, zero])
    have nonzero : m₁ <<< (e₁ - e₂ - t).toNat / m₂ ≠ 0 := by omega
    exact ⟨(Nat.le_log2 nonzero).2 large, nonzero⟩
  refine roundsTo_roundWithAccuracy _ ?_ lies ?_ fun none => ?_
  · have := two_zpow_pos e₁
    have := two_zpow_pos e₂
    positivity
  · by_cases more : -1074 < t
    · have := (enough more).1
      omega
    · omega
  · by_contra large
    exact (enough (by omega)).2 none

/-! ### Operations -/

section

variable {x y : Float} (hx : x.isFinite) (hy : y.isFinite)

include hx hy

theorem add_rounds : Rounds (valueOf x + valueOf y) (x + y) := by
  obtain ⟨s, m, e, h₁, -, ux⟩ := unpack_eq_ofParts hx
  obtain ⟨t, n, d, h₂, -, uy⟩ := unpack_eq_ofParts hy
  change Rounds _ (.ofModel (.pack (.add .binary64 x.toModel.unpack y.toModel.unpack)))
  rw [valueOf, valueOf, ux, uy, value_ofParts, value_ofParts]
  exact (roundsTo_add h₁ h₂).pack

theorem sub_rounds : Rounds (valueOf x - valueOf y) (x - y) := by
  obtain ⟨s, m, e, h₁, -, ux⟩ := unpack_eq_ofParts hx
  obtain ⟨t, n, d, h₂, -, uy⟩ := unpack_eq_ofParts hy
  change Rounds _ (.ofModel (.pack (.sub .binary64 x.toModel.unpack y.toModel.unpack)))
  rw [valueOf, valueOf, ux, uy, value_ofParts, value_ofParts, sub_eq_add, neg_ofParts,
    sub_eq_add_neg, ← signed_neg]
  exact (roundsTo_add h₁ h₂).pack

theorem mul_rounds : Rounds (valueOf x * valueOf y) (x * y) := by
  obtain ⟨s, m, e, h₁, top₁, ux⟩ := unpack_eq_ofParts hx
  obtain ⟨t, n, d, h₂, top₂, uy⟩ := unpack_eq_ofParts hy
  change Rounds _ (.ofModel (.pack (.mul .binary64 x.toModel.unpack y.toModel.unpack)))
  rw [valueOf, valueOf, ux, uy, value_ofParts, value_ofParts]
  exact (roundsTo_mul h₁ h₂ top₁ top₂).pack

theorem div_rounds (nonzero : valueOf y ≠ 0) : Rounds (valueOf x / valueOf y) (x / y) := by
  obtain ⟨s, m, e, -, -, ux⟩ := unpack_eq_ofParts hx
  obtain ⟨t, n, d, -, -, uy⟩ := unpack_eq_ofParts hy
  have positive : n ≠ 0 := by
    rintro rfl
    exact nonzero (by simp [valueOf, uy])
  change Rounds _ (.ofModel (.pack (.div .binary64 x.toModel.unpack y.toModel.unpack)))
  rw [valueOf, valueOf, ux, uy, value_ofParts, value_ofParts]
  exact (roundsTo_div positive).pack

end

theorem toFloat_rounds (n : UInt64) : Rounds n.toNat n.toFloat := by
  have := (roundsTo_normalize n.toNat 0 .positive).pack
  rwa [zpow_zero, mul_one, Int.cast_natCast] at this

/-! ### Bounds -/

/-- The magnitudes of floating point numbers. -/
def IsBound (b : ℚ) : Prop := ∃ c k, Canonical c k ∧ k ≤ 971 ∧ b = c * 2 ^ k

theorem isBound_zero : IsBound 0 :=
  ⟨0, -1074, ⟨by decide, le_rfl, .inr rfl⟩, by decide, by simp⟩

/-- A whole number of few bits is a number of the format at any exponent that is not too small. -/
theorem exists_canonical {n b : Nat} (few : n < 2 ^ b) (bits : b ≤ 53) {e : Int}
    (low : -1021 ≤ e) : ∃ c k, Canonical c k ∧ k ≤ b - 53 + e ∧ (n : ℚ) * 2 ^ e = c * 2 ^ k := by
  rcases Nat.eq_zero_or_pos n with rfl | positive
  · exact ⟨0, -1074, ⟨by decide, le_rfl, .inr rfl⟩, by omega, by simp⟩
  have log := (Nat.log2_lt positive.ne').2 few
  have least : 2 ^ 52 ≤ n * 2 ^ (52 - n.log2) := by
    calc 2 ^ 52 = 2 ^ n.log2 * 2 ^ (52 - n.log2) := by rw [← pow_add]; congr 1; omega
      _ ≤ n * 2 ^ (52 - n.log2) := Nat.mul_le_mul_right _ (Nat.log2_self_le positive.ne')
  have most : n * 2 ^ (52 - n.log2) < 2 ^ 53 := by
    calc n * 2 ^ (52 - n.log2) < 2 ^ (n.log2 + 1) * 2 ^ (52 - n.log2) :=
          Nat.mul_lt_mul_of_pos_right Nat.lt_log2_self (by positivity)
      _ = 2 ^ 53 := by rw [← pow_add]; congr 1; omega
  refine ⟨n * 2 ^ (52 - n.log2), n.log2 + e - 52, ⟨most, by omega, .inl least⟩, by omega, ?_⟩
  push_cast
  rw [mul_assoc, ← zpow_natCast, ← two_zpow_add]
  congr 2
  omega

theorem isBound_mantissa {n : Nat} (few : n < 2 ^ 53) {e : Int} (low : -1021 ≤ e)
    (top : e ≤ 971) : IsBound (n * 2 ^ e) := by
  obtain ⟨c, k, canonical, least, same⟩ := exists_canonical few le_rfl low
  exact ⟨c, k, canonical, by omega, same⟩

theorem isBound_natCast {n : Nat} (few : n < 2 ^ 53) : IsBound n := by
  have := isBound_mantissa few (e := 0) (by decide) (by decide)
  rwa [zpow_zero, mul_one] at this

theorem isBound_two_pow {n : Nat} (h : n ≤ 1023) : IsBound (2 ^ n) := by
  refine ⟨2 ^ 52, n - 52, ⟨by decide, by omega, .inl le_rfl⟩, by omega, ?_⟩
  rw [Nat.cast_pow, Nat.cast_ofNat, ← zpow_natCast, ← zpow_natCast, ← two_zpow_add]
  congr 1
  omega

theorem isBound_valueOf {x : Float} (h : x.isFinite) : IsBound |valueOf x| := by
  obtain ⟨s, m, e, canonical, top, unpacked⟩ := unpack_eq_ofParts h
  refine ⟨m, e, canonical, top, ?_⟩
  rw [valueOf, unpacked, value_ofParts, abs_signed, abs_mantissa]

theorem IsBound.nonneg {b : ℚ} (h : IsBound b) : 0 ≤ b := by
  obtain ⟨c, k, -, -, rfl⟩ := h
  exact abs_mantissa c k ▸ abs_nonneg _

theorem Nearest.le {x y b : ℚ} (h : Nearest x y) (bound : IsBound b) (le : x ≤ b) : y ≤ b := by
  obtain ⟨c, k, canonical, -, rfl⟩ := bound
  have := two_zpow_pos k
  exact h.upper c k canonical (by linarith)

/-- What numbers are rounded to is in the order of the numbers. -/
theorem Nearest.mono {x x' y y' : ℚ} (h : Nearest x y) (h' : Nearest x' y') (le : x ≤ x')
    (known : IsBound y') : y ≤ y' := by
  obtain ⟨c, k, canonical, -, rfl⟩ := known
  have close : x' ≤ (c + 1 / 2) * 2 ^ k := le_of_not_gt fun past =>
    (h'.past c k canonical past).false
  rcases (le.trans close).lt_or_eq with less | half
  · exact h.upper c k canonical less
  · -- both are halfway above the same number, which is even as the larger one is rounded to it
    have half' : x' = (c + 1 / 2) * 2 ^ k := le_antisymm close (half ▸ le)
    by_contra! above
    exact ((h'.half c k canonical half').2 ((h.half c k canonical half).1 above)).false

section

variable {q b : ℚ} {y : Float} (h : Rounds q y)

include h

/-- What is in the range of the format is rounded. -/
theorem Rounds.of_le (bound : IsBound b) (le : |q| ≤ b) :
    y.isFinite ∧ Nearest |q| |valueOf y| ∧ 0 ≤ q * valueOf y := by
  obtain ⟨c, k, canonical, top, rfl⟩ := bound
  have := two_zpow_pos k
  exact h c k canonical top (by linarith)

/-- A result that is not negative is not negative, and has the bounds of the exact result. -/
theorem Rounds.of_nonneg (bound : IsBound b) (nonneg : 0 ≤ q) (le : q ≤ b) :
    y.isFinite ∧ 0 ≤ valueOf y ∧ valueOf y ≤ b := by
  rw [← abs_of_nonneg nonneg] at le
  obtain ⟨finite, nearest, side⟩ := h.of_le bound le
  have below := nearest.le bound le
  refine ⟨finite, ?_, (le_abs_self _).trans below⟩
  rcases nonneg.eq_or_lt with rfl | positive
  · rw [abs_zero] at nearest
    exact (abs_nonpos_iff.1 (nearest.le isBound_zero le_rfl)).ge
  · exact nonneg_of_mul_nonneg_right side positive

/-- A result that is not positive is not positive, and has the bounds of the exact result. -/
theorem Rounds.of_nonpos (bound : IsBound b) (nonpos : q ≤ 0) (le : -b ≤ q) :
    y.isFinite ∧ -b ≤ valueOf y ∧ valueOf y ≤ 0 := by
  have le : |q| ≤ b := by rw [abs_of_nonpos nonpos]; linarith
  obtain ⟨finite, nearest, side⟩ := h.of_le bound le
  have below := nearest.le bound le
  refine ⟨finite, (neg_le_neg below).trans (neg_abs_le _), ?_⟩
  rcases nonpos.eq_or_lt with rfl | negative
  · rw [abs_zero] at nearest
    exact (abs_nonpos_iff.1 (nearest.le isBound_zero le_rfl)).le
  · exact nonpos_of_mul_nonneg_right side negative

/-- A number of the format is the result itself. -/
theorem Rounds.exact (bound : IsBound q) : y.isFinite ∧ valueOf y = q := by
  obtain ⟨finite, nonneg, below⟩ := h.of_nonneg bound bound.nonneg le_rfl
  refine ⟨finite, le_antisymm below ?_⟩
  have nearest := (h.of_le bound (abs_of_nonneg bound.nonneg).le).2.1
  rw [abs_of_nonneg bound.nonneg, abs_of_nonneg nonneg] at nearest
  obtain ⟨c, k, canonical, -, rfl⟩ := bound
  exact nearest.lower c k canonical le_rfl

/-- Results that are not negative are in the order of the exact results. -/
theorem Rounds.mono {q' : ℚ} {y' : Float} (h' : Rounds q' y') (bound : IsBound b) (nonneg : 0 ≤ q)
    (le : q ≤ q') (top : q' ≤ b) : valueOf y ≤ valueOf y' := by
  obtain ⟨-, nonneg₁, -⟩ := h.of_nonneg bound nonneg (le.trans top)
  obtain ⟨-, nonneg₂, -⟩ := h'.of_nonneg bound (nonneg.trans le) top
  have near := (h.of_le bound ((abs_of_nonneg nonneg).trans_le (le.trans top))).2.1
  obtain ⟨finite, near', -⟩ :=
    h'.of_le bound ((abs_of_nonneg (nonneg.trans le)).trans_le top)
  have := near.mono near' (abs_le_abs_of_nonneg nonneg le) (isBound_valueOf finite)
  rwa [abs_of_nonneg nonneg₁, abs_of_nonneg nonneg₂] at this

end

/-- A word as a floating point number. -/
theorem valueOf_toFloat (n : UInt64) :
    n.toFloat.isFinite ∧ 0 ≤ valueOf n.toFloat ∧ valueOf n.toFloat ≤ 2 ^ 64 := by
  refine (toFloat_rounds n).of_nonneg (isBound_two_pow (by decide)) (by positivity) ?_
  exact_mod_cast n.toNat_lt.le

/-- A word of few bits is a floating point number itself. -/
theorem toFloat_exact {n : UInt64} (few : n.toNat < 2 ^ 53) :
    n.toFloat.isFinite ∧ valueOf n.toFloat = n.toNat :=
  (toFloat_rounds n).exact (isBound_natCast few)

/-- A word that is not zero is at least one as a floating point number. -/
theorem one_le_valueOf_toFloat {n : UInt64} (h : n ≠ 0) : 1 ≤ valueOf n.toFloat := by
  obtain ⟨-, nonneg, -⟩ := valueOf_toFloat n
  have positive : (1 : ℚ) ≤ n.toNat := by
    exact_mod_cast Nat.one_le_iff_ne_zero.2 fun zero => h (UInt64.toNat_inj.1 zero)
  have le : |(n.toNat : ℚ)| ≤ 2 ^ 64 := by
    rw [abs_of_nonneg (by positivity)]
    exact_mod_cast n.toNat_lt.le
  obtain ⟨-, nearest, -⟩ := (toFloat_rounds n).of_le (isBound_two_pow (by decide)) le
  obtain ⟨c, k, canonical, -, one⟩ := isBound_two_pow (n := 0) (by decide)
  have := nearest.lower c k canonical
  rw [← one, abs_of_nonneg nonneg, abs_of_nonneg (by positivity), pow_zero] at this
  exact this positive

end LoadFleet.Rounding
