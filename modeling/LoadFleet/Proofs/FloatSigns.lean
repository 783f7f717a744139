import LoadFleet.Proofs.FloatOrder
/-!
# The signs of floating point numbers

There are two zeros, and the one with a sign is written with it.  Sums, products and quotients of
numbers without a sign have none, and neither has what is not a number, so a sign can only come from
an operand.  The two zeros are neutral in sums, except that the one without a sign drops the sign of
the other.

* `Unsigned`: no sign is written in front of a number.
* `Unsigned.add`, `Unsigned.mul`, `Unsigned.div`: operations on numbers without a sign.
* `unsigned_of_not_le`: what is not seen to be at most zero has no sign.
* `zero_add_of_unsigned`, `negative_zero_add`, `add_negative_zero`: sums with the two zeros.
* `unsigned_foldl`, `Samples.unsigned_total`: sums of many numbers, by induction over them.
* `eq_of_valueOf`: finite numbers without a sign are told apart by their values.
-/

namespace LoadFleet

open Float.Model Float.Model.UnpackedFloat

/-! ### Unpacked numbers -/

namespace Rounding

/-- An unpacked number has no sign, or is not a number. -/
def Positive : UnpackedFloat → Prop
  | .notANumber => True
  | .infinity s | .zero s | .finite s _ _ _ => s = .positive

variable {a b : UnpackedFloat}

theorem positive_roundWithAccuracy (m : Nat) (e : Int) (accuracy : Accuracy) :
    Positive (roundWithAccuracy .binary64 .positive m e accuracy) := by
  unfold roundWithAccuracy
  dsimp only
  split <;> rfl

theorem positive_normalize {n : Int} (nonneg : 0 ≤ n) (e : Int) :
    Positive (UnpackedFloat.normalize .binary64 n e .positive) := by
  unfold UnpackedFloat.normalize
  split
  · next less => exact absurd (compare_lt_iff_lt.1 less) nonneg.not_gt
  · rfl
  · exact positive_roundWithAccuracy _ _ _

theorem Positive.add (ha : Positive a) (hb : Positive b) :
    Positive (UnpackedFloat.add .binary64 a b) := by
  cases a <;> cases b <;> cases ha <;> cases hb <;> try trivial
  exact positive_normalize (Int.add_nonneg (Int.natCast_nonneg _) (Int.natCast_nonneg _)) _

theorem Positive.mul (ha : Positive a) (hb : Positive b) :
    Positive (UnpackedFloat.mul .binary64 a b) := by
  cases a <;> cases b <;> cases ha <;> cases hb <;> try trivial
  exact positive_roundWithAccuracy _ _ _

theorem Positive.div (ha : Positive a) (hb : Positive b) :
    Positive (UnpackedFloat.div .binary64 a b) := by
  cases a <;> cases b <;> cases ha <;> cases hb <;> try trivial
  exact positive_roundWithAccuracy _ _ _

theorem positive_unpack {b : BitVec Format.binary64.numBits}
    (h : Sign.ofBitVec (unpackSign b) = .positive) :
    Positive (UnpackedFloat.unpack .binary64 b) := by
  unfold UnpackedFloat.unpack
  dsimp only
  split
  · split
    · exact h
    · trivial
  · split
    · split <;> exact h
    · exact h

/-- Packing keeps the sign, also of what is beyond the range of the format. -/
theorem Positive.sign_pack (h : Positive a) :
    Sign.ofBitVec (unpackSign (UnpackedFloat.pack .binary64 a)) = .positive := by
  cases a with
  | notANumber => exact ofBitVec_unpackSign _ _ _
  | infinity s | zero s =>
    cases h
    exact ofBitVec_unpackSign _ _ _
  | finite s m e some =>
    cases h
    unfold UnpackedFloat.pack
    dsimp only
    split
    · exact ofBitVec_unpackSign _ _ _
    · split <;> exact ofBitVec_unpackSign _ _ _

theorem Positive.pack (h : Positive a) : Positive (Float.Model.pack a).unpack :=
  positive_unpack h.sign_pack

/-- Numbers of the format are told apart by their values. -/
theorem ofParts_eq {s : Sign} {m n : Nat} {d e : Int} (h : Canonical m d) (h' : Canonical n e)
    (same : (m * 2 ^ d : ℚ) = n * 2 ^ e) : ofParts s m d = ofParts s n e := by
  have exponents : d = e := le_antisymm (h.exponent_le h' same.le) (h'.exponent_le h same.ge)
  subst exponents
  have mantissas : (m : ℚ) = n := mul_right_cancel₀ (two_zpow_pos d).ne' same
  rw [Nat.cast_injective mantissas]

end Rounding

/-! ### Floating point numbers -/

/-- A floating point number is written without a sign. -/
def Unsigned (x : Float) : Prop := Rounding.Positive x.toModel.unpack

variable {x y : Float}

theorem Unsigned.add (hx : Unsigned x) (hy : Unsigned y) : Unsigned (x + y) :=
  (Rounding.Positive.add hx hy).pack

theorem Unsigned.mul (hx : Unsigned x) (hy : Unsigned y) : Unsigned (x * y) :=
  (Rounding.Positive.mul hx hy).pack

theorem Unsigned.div (hx : Unsigned x) (hy : Unsigned y) : Unsigned (x / y) :=
  (Rounding.Positive.div hx hy).pack

/-- A square has no sign. -/
theorem unsigned_mul_self (x : Float) : Unsigned (x * x) := by
  have square (a : UnpackedFloat) : Rounding.Positive (UnpackedFloat.mul .binary64 a a) := by
    cases a with
    | notANumber => trivial
    | infinity s | zero s => cases s <;> rfl
    | finite s m e some => cases s <;> exact Rounding.positive_roundWithAccuracy _ _ _
  exact (square _).pack

theorem unsigned_toFloat (n : UInt64) : Unsigned n.toFloat :=
  (Rounding.positive_normalize (Int.natCast_nonneg _) _).pack

theorem unsigned_zero : Unsigned 0 := rfl

/-- What is not seen to be at most zero has no sign. -/
theorem unsigned_of_not_le (h : ¬ x ≤ 0) : Unsigned x := by
  have zero : (0 : Float).toModel.unpack = .zero .positive := rfl
  rw [Rounding.le_iff_unpack, zero] at h
  unfold Unsigned
  generalize x.toModel.unpack = a at h
  cases a with
  | notANumber => trivial
  | zero s => exact absurd rfl h
  | infinity s | finite s m e some =>
    cases s
    · exact absurd rfl h
    · rfl

/-! ### Packing -/

theorem eq_of_unpack (h : x.toModel.unpack = y.toModel.unpack) : x = y := by
  obtain ⟨⟨bits, valid⟩⟩ := x
  obtain ⟨⟨bits', valid'⟩⟩ := y
  have same : bits.toBitVec = bits'.toBitVec := (unpack_inj_of_valid valid valid').1 h
  obtain rfl : bits = bits' := UInt64.toBitVec_inj.1 same
  rfl

theorem toBitVec_toBits (x : Float) :
    UnpackedFloat.pack .binary64 x.toModel.unpack = x.toBits.toBitVec :=
  pack_unpack_of_valid x.toModel.valid

theorem pack_unpack (x : Float) : Float.ofModel (.pack x.toModel.unpack) = x := by
  obtain ⟨⟨bits, valid⟩⟩ := x
  have same : UnpackedFloat.pack .binary64 (UnpackedFloat.unpack .binary64 bits.toBitVec) =
      bits.toBitVec := pack_unpack_of_valid valid
  simp only [Float.Model.pack, Float.Model.unpack, same]

/-- The sign of a number is its first bit. -/
theorem Unsigned.toBits_lt (h : Unsigned x) : x.toBits.toNat < 0x8000000000000000 := by
  have sign := Rounding.Positive.sign_pack h
  rw [toBitVec_toBits, ofBitVec_unpackSign_eq] at sign
  split at sign
  · cases sign
  · next small => exact Nat.not_le.1 small

/-! ### Sums with a zero -/

theorem zero_add_of_unsigned (h : Unsigned x) : 0 + x = x := by
  have sum : UnpackedFloat.add .binary64 (.zero .positive) x.toModel.unpack = x.toModel.unpack := by
    unfold Unsigned at h
    generalize x.toModel.unpack = a at h
    cases a <;> cases h <;> rfl
  calc (0 + x : Float) = .ofModel (.pack (.add .binary64 (.zero .positive) x.toModel.unpack)) := rfl
    _ = x := by rw [sum, pack_unpack]

theorem negative_zero_add (x : Float) : -0.0 + x = x := by
  have sum : UnpackedFloat.add .binary64 (.zero .negative) x.toModel.unpack = x.toModel.unpack := by
    generalize x.toModel.unpack = a
    cases a with
    | zero s => cases s <;> rfl
    | _ => rfl
  calc (-0.0 + x : Float) =
        .ofModel (.pack (.add .binary64 (.zero .negative) x.toModel.unpack)) := rfl
    _ = x := by rw [sum, pack_unpack]

theorem add_negative_zero (x : Float) : x + -0.0 = x := by
  have sum : UnpackedFloat.add .binary64 x.toModel.unpack (.zero .negative) = x.toModel.unpack := by
    generalize x.toModel.unpack = a
    cases a with
    | zero s => cases s <;> rfl
    | _ => rfl
  calc (x + -0.0 : Float) =
        .ofModel (.pack (.add .binary64 x.toModel.unpack (.zero .negative))) := rfl
    _ = x := by rw [sum, pack_unpack]

/-! ### Sums of many numbers -/

/-- A sum has no sign if what it starts with has none: an empty sum that is added to it changes
nothing. -/
theorem unsigned_foldl {A : Type} {f : A → Float} {l : List A}
    (all : ∀ a ∈ l, Unsigned (f a) ∨ f a = -0.0) {start : Float} (h : Unsigned start) :
    Unsigned (l.foldl (fun sum a => sum + f a) start) := by
  induction l generalizing start with
  | nil => exact h
  | cons a r ih =>
    obtain ⟨unsigned | empty, rest⟩ := List.forall_mem_cons.1 all
    · exact ih rest (h.add unsigned)
    · rw [List.foldl_cons, empty, add_negative_zero]
      exact ih rest h

/-- The sum of numbers without a sign has none, if there are any. -/
theorem Samples.unsigned_total {l : List Float} (any : l ≠ []) (all : ∀ x ∈ l, Unsigned x) :
    Unsigned (total l) := by
  cases l with
  | nil => exact absurd rfl any
  | cons x r =>
    obtain ⟨first, rest⟩ := List.forall_mem_cons.1 all
    have start : (Scalar.ofFloat (-0.0) : Float) + x = x := negative_zero_add x
    rw [total, List.foldl_cons, start]
    exact unsigned_foldl (f := id) (fun y hy => .inl (rest y hy)) first

/-! ### Values -/

/-- Finite numbers without a sign are told apart by their values. -/
theorem eq_of_valueOf (hx : x.isFinite) (hy : y.isFinite) (ux : Unsigned x) (uy : Unsigned y)
    (same : Rounding.valueOf x = Rounding.valueOf y) : x = y := by
  obtain ⟨s, m, d, h, -, px⟩ := Rounding.unpack_eq_ofParts hx
  obtain ⟨t, n, e, h', -, py⟩ := Rounding.unpack_eq_ofParts hy
  have positive {s : Sign} {m : Nat} {d : Int} (u : Rounding.Positive (Rounding.ofParts s m d)) :
      s = .positive := by
    unfold Rounding.ofParts at u
    split at u <;> exact u
  unfold Unsigned at ux uy
  rw [px] at ux
  rw [py] at uy
  obtain rfl := positive ux
  obtain rfl := positive uy
  rw [Rounding.valueOf, Rounding.valueOf, px, py, Rounding.value_ofParts, Rounding.value_ofParts]
    at same
  refine eq_of_unpack ?_
  rw [px, py, Rounding.ofParts_eq h h' same]

end LoadFleet
