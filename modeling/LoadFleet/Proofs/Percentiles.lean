import LoadFleet.Proofs.FloatOrder
import LoadFleet.Proofs.Histograms
/-!
# Percentiles of recordings

The sample at a percentile is the least one that enough samples do not pass.  In ascending order the
samples up to a value are the first ones, so that counting them and looking at a position are the
same, and the position of a percentile is the number of samples that are enough, less one.  The
number is rounded up, and at the end of the list and at no share at all it is still a position.

The program computes the number with rounding.  Rounding keeps the order of percentiles, and of
whole and half ones it computes the exact number.

* `lt_countP_iff`: positions in ascending order, and counts.
* `Samples.LeastCovering`: the least sample that a share of all samples does not pass.
* `leastCovering_atPercentile?`: the sample at a percentile is that one.
* `rank_mono`: ranks computed with rounding are in the order of the percentiles.
* `rank_exact`: ranks of whole and half percentiles are computed exactly.
* `Accumulator.percentiles_of_recording`: the main statement.
-/

namespace LoadFleet

/-! ### Positions and counts -/

/-- In an ascending list, the element at a position is not above a value if more elements than the
position tells are not. -/
theorem lt_countP_iff {l : List UInt64} (ascending : l.Pairwise (· ≤ ·)) {i : Nat} {v w : UInt64}
    (here : l[i]? = some v) : i < l.countP (fun n => n ≤ w) ↔ v ≤ w := by
  induction l generalizing i with
  | nil => cases here
  | cons a r ih =>
    obtain ⟨least, further⟩ := List.pairwise_cons.1 ascending
    by_cases small : a ≤ w
    · rw [List.countP_cons_of_pos (by simpa using small)]
      cases i with
      | zero =>
        cases here
        exact iff_of_true (Nat.succ_pos _) small
      | succ i => rw [Nat.add_lt_add_iff_right, ih further here]
    · -- nothing in the list is small enough
      have large (n : UInt64) (hn : n ∈ a :: r) : ¬ n ≤ w := by
        rcases List.mem_cons.1 hn with rfl | hr
        · exact small
        · exact fun small' => small (UInt64.le_trans (least n hr) small')
      rw [List.countP_eq_zero.2 fun n hn => by simpa using large n hn]
      exact iff_of_false (Nat.not_lt_zero i) (large v (List.mem_of_getElem? here))

namespace Samples

variable {s : Samples} {p q : ℚ} {v w : UInt64}

/-- How many samples are not above a value. -/
def upTo (s : Samples) (v : UInt64) : Nat := s.toList.countP fun n => n ≤ v

/-- At the position that a number of samples leads to stands the least sample that this many are not
above. -/
theorem exists_at_rank (any : s.count ≠ 0) {r : Nat} (inside : r ≤ s.count) :
    ∃ v ∈ s.toList, s.sorted[min (r - 1) (s.sorted.length - 1)]? = some v ∧ r ≤ s.upTo v ∧
      ∀ w ∈ s.toList, r ≤ s.upTo w → v ≤ w := by
  have place : min (r - 1) (s.sorted.length - 1) = r - 1 := by
    rw [length_sorted]
    omega
  have within : r - 1 < s.sorted.length := by
    rw [length_sorted]
    omega
  rw [place]
  obtain ⟨v, here⟩ : ∃ v, s.sorted[r - 1]? = some v := ⟨_, List.getElem?_eq_getElem within⟩
  have position (w : UInt64) : r - 1 < s.upTo w ↔ v ≤ w := by
    rw [upTo, ← sorted_perm.countP_eq]
    exact lt_countP_iff sorted_ascending here
  refine ⟨v, sorted_perm.mem_iff.1 (List.mem_of_getElem? here), here, ?_, fun w hw enough => ?_⟩
  · have := (position v).2 (UInt64.le_refl v)
    omega
  · -- a sample is not above itself, so at least one is
    have : 0 < s.upTo w := List.countP_pos_iff.2 ⟨w, hw, by simp⟩
    exact (position w).1 (by omega)

/-- At least a share of the samples, in percent, is not above a value. -/
def Covers (s : Samples) (p : ℚ) (v : UInt64) : Prop := p / 100 * s.count ≤ s.upTo v

/-- The least sample that a share of the samples is not above. -/
structure LeastCovering (s : Samples) (p : ℚ) (v : UInt64) : Prop where
  member : v ∈ s.toList
  covers : s.Covers p v
  least : ∀ w ∈ s.toList, s.Covers p w → v ≤ w

theorem covers_iff : s.Covers p v ↔ rank p s.count ≤ s.upTo v := by
  change _ ↔ ⌈p * (s.count : ℚ) / 100⌉₊ ≤ _
  rw [Nat.ceil_le, Covers, div_mul_eq_mul_div]

/-- **The sample at a percentile** is the least one that this share of the samples is not above. -/
theorem leastCovering_atPercentile? (any : s.count ≠ 0) (top : p ≤ 100) :
    ∃ v, atPercentile? s.sorted p = some v ∧ s.LeastCovering p v := by
  have inside : rank p s.count ≤ s.count := by
    have share : p * (s.count : ℚ) / 100 ≤ s.count := by
      rw [div_le_iff₀ (by norm_num), mul_comm]
      gcongr
    exact Nat.ceil_le.2 share
  obtain ⟨v, member, here, enough, least⟩ := exists_at_rank any inside
  rw [← length_sorted] at here
  exact ⟨v, here, member, covers_iff.2 (by rwa [← length_sorted] at enough ⊢),
    fun w hw covers => least w hw (covers_iff.1 covers)⟩

theorem LeastCovering.mono (h : s.LeastCovering p v) (h' : s.LeastCovering q w) (le : p ≤ q) :
    v ≤ w := by
  refine h.least w h'.member (le_trans ?_ h'.covers)
  gcongr

theorem LeastCovering.le_of_zero (h : s.LeastCovering 0 v) {n : UInt64} (hn : n ∈ s.toList) :
    v ≤ n :=
  h.least n hn (by simp [Covers])

theorem LeastCovering.le_of_hundred (h : s.LeastCovering 100 v) {n : UInt64}
    (hn : n ∈ s.toList) : n ≤ v := by
  have covers := h.covers
  rw [Covers, div_self (by norm_num), one_mul, Nat.cast_le] at covers
  have all := List.countP_eq_length.1 (le_antisymm List.countP_le_length covers)
  simpa using all n hn

end Samples

/-! ### Percentiles and ranks -/

theorem floatOfCount_eq {n : Nat} (few : n < 2 ^ 64) : floatOfCount n = n.toUInt64.toFloat :=
  if_pos (Nat.le_of_lt_succ few)

/-- A number of few bits is a floating point number itself. -/
theorem floatOfCount_exact {n : Nat} (few : n < 2 ^ 53) :
    (floatOfCount n).isFinite ∧ Rounding.valueOf (floatOfCount n) = n := by
  have same : n.toUInt64.toNat = n := UInt64.toNat_ofNat_of_lt' (few.trans (by decide))
  rw [floatOfCount_eq (few.trans (by decide))]
  have exact := Rounding.toFloat_exact (n := n.toUInt64) (by rwa [same])
  rwa [same] at exact

theorem floatOfCount_hundred :
    (floatOfCount 100).isFinite ∧ Rounding.valueOf (floatOfCount 100) = 100 :=
  floatOfCount_exact (by decide)

/-- **A percentile** is a finite number from zero to a hundred. -/
theorem isPercentile_iff {p : Float} :
    isPercentile p ↔ p.isFinite ∧ 0 ≤ exactValue p ∧ exactValue p ≤ 100 := by
  obtain ⟨finite₀, value₀⟩ := floatOfCount_exact (n := 0) (by decide)
  obtain ⟨finite₁, value₁⟩ := floatOfCount_hundred
  rw [Nat.cast_zero] at value₀
  have checked : isPercentile p ↔ floatOfCount 0 ≤ p ∧ p ≤ floatOfCount 100 := by
    change (decide (floatOfCount 0 ≤ p) && decide (p ≤ floatOfCount 100)) = true ↔ _
    rw [Bool.and_eq_true, decide_eq_true_iff, decide_eq_true_iff]
  rw [checked]
  constructor
  · rintro ⟨above, below⟩
    have finite := Rounding.isFinite_of_between finite₀ finite₁ above below
    rw [Rounding.le_iff finite₀ finite, value₀] at above
    rw [Rounding.le_iff finite finite₁, value₁] at below
    rw [exactValue_eq_valueOf finite]
    exact ⟨finite, above, below⟩
  · rintro ⟨finite, above, below⟩
    rw [exactValue_eq_valueOf finite] at above below
    rw [Rounding.le_iff finite₀ finite, Rounding.le_iff finite finite₁, value₀, value₁]
    exact ⟨above, below⟩

/-- **Ranks** computed with rounding are in the order of the percentiles. -/
theorem rank_mono {p q : Float} (hp : isPercentile p) (hq : isPercentile q)
    (le : exactValue p ≤ exactValue q) {n : Nat} (few : n < 2 ^ 64) : rank p n ≤ rank q n := by
  obtain ⟨finite, nonneg, -⟩ := isPercentile_iff.1 hp
  obtain ⟨finite', -, top⟩ := isPercentile_iff.1 hq
  rw [exactValue_eq_valueOf finite] at nonneg le
  rw [exactValue_eq_valueOf finite'] at le top
  obtain ⟨finite_n, nonneg_n, top_n⟩ := Rounding.valueOf_toFloat n.toUInt64
  rw [← floatOfCount_eq few] at finite_n nonneg_n top_n
  obtain ⟨finite₁, value₁⟩ := floatOfCount_hundred
  have bound := Rounding.isBound_two_pow (by decide : 71 ≤ 1023)
  -- the products, and then the quotients, are in the order of the percentiles
  have product_le : Rounding.valueOf p * Rounding.valueOf (floatOfCount n) ≤
      Rounding.valueOf q * Rounding.valueOf (floatOfCount n) := by gcongr
  have product_top : Rounding.valueOf q * Rounding.valueOf (floatOfCount n) ≤ 2 ^ 71 :=
    calc _ ≤ (100 * 2 ^ 64 : ℚ) := by gcongr
      _ ≤ 2 ^ 71 := by norm_num
  have rounds := Rounding.mul_rounds finite finite_n
  have rounds' := Rounding.mul_rounds finite' finite_n
  have product_nonneg := mul_nonneg nonneg nonneg_n
  obtain ⟨finite_p, nonneg_p, -⟩ :=
    rounds.of_nonneg bound product_nonneg (product_le.trans product_top)
  obtain ⟨finite_q, nonneg_q, top_q⟩ :=
    rounds'.of_nonneg bound (product_nonneg.trans product_le) product_top
  have mono := rounds.mono rounds' bound product_nonneg product_le product_top
  have quotient := Rounding.div_rounds finite_p finite₁ (by rw [value₁]; norm_num)
  have quotient' := Rounding.div_rounds finite_q finite₁ (by rw [value₁]; norm_num)
  rw [value₁] at quotient quotient'
  have share_le : Rounding.valueOf (p * floatOfCount n) / 100 ≤
      Rounding.valueOf (q * floatOfCount n) / 100 := by gcongr
  have share_top : Rounding.valueOf (q * floatOfCount n) / 100 ≤ 2 ^ 71 := by linarith
  have share_nonneg := div_nonneg nonneg_p (by norm_num : (0 : ℚ) ≤ 100)
  obtain ⟨finite_share, -, -⟩ :=
    quotient.of_nonneg bound share_nonneg (share_le.trans share_top)
  obtain ⟨finite_share', -, -⟩ :=
    quotient'.of_nonneg bound (share_nonneg.trans share_le) share_top
  have shares := quotient.mono quotient' bound share_nonneg share_le share_top
  calc rank p n
    _ = min ⌈Rounding.valueOf (p * floatOfCount n / floatOfCount 100)⌉₊ wordMax :=
      clampWord_ceil finite_share
    _ ≤ min ⌈Rounding.valueOf (q * floatOfCount n / floatOfCount 100)⌉₊ wordMax :=
      min_le_min_right _ (Nat.ceil_mono shares)
    _ = rank q n := (clampWord_ceil finite_share').symm

/-- A quotient of small numbers that is either whole or not close to the whole number below it is
rounded up to the same number before and after it is rounded to a floating point number. -/
theorem Rounding.Rounds.ceil_eq {q : ℚ} {y : Float} (h : Rounding.Rounds q y) (nonneg : 0 ≤ q)
    (few : q ≤ 2 ^ 44) (far : ∀ j : Nat, j < q → j + 1 / 200 ≤ q) :
    y.isFinite ∧ ⌈Rounding.valueOf y⌉₊ = ⌈q⌉₊ := by
  have small : ⌈q⌉₊ ≤ 2 ^ 44 := Nat.ceil_le.2 (by exact_mod_cast few)
  have bound : Rounding.IsBound ⌈q⌉₊ := Rounding.isBound_natCast (by omega)
  obtain ⟨finite, nonneg', below⟩ := h.of_nonneg bound nonneg (Nat.le_ceil q)
  have nearest := (h.of_le bound ((abs_of_nonneg nonneg).trans_le (Nat.le_ceil q))).2.1
  rw [abs_of_nonneg nonneg, abs_of_nonneg nonneg'] at nearest
  refine ⟨finite, le_antisymm (Nat.ceil_le.2 below) (le_of_forall_lt fun j less => ?_)⟩
  -- half a unit at a whole number so small is less than the distance
  obtain ⟨c, k, canonical, unit, same⟩ := Rounding.exists_canonical (e := 0)
    (by omega : j < 2 ^ 44) (by decide) (by decide)
  rw [zpow_zero, mul_one] at same
  have half : (2 : ℚ) ^ k ≤ 2 ^ (-9 : Int) := Rounding.two_zpow_le (by omega)
  have past := far j (Nat.lt_ceil.1 less)
  rw [Nat.lt_ceil, same]
  refine nearest.past c k canonical ?_
  rw [add_mul, ← same]
  norm_num at half
  linarith

/-- **Ranks of whole and half percentiles** of not too many samples are computed exactly. -/
theorem rank_exact {p : Float} (hp : isPercentile p) {h n : Nat} (half : exactValue p = h / 2)
    (few : n < 2 ^ 44) : rank p n = rank (exactValue p) n := by
  obtain ⟨finite, -, top⟩ := isPercentile_iff.1 hp
  have value : Rounding.valueOf p = h / 2 := exactValue_eq_valueOf finite ▸ half
  have halves : h ≤ 200 := by
    rw [half] at top
    exact_mod_cast (by linarith : (h : ℚ) ≤ 200)
  obtain ⟨finite_n, value_n⟩ := floatOfCount_exact (n := n) (by omega)
  have product : (h * n : Nat) * (2 : ℚ) ^ (-1 : Int) = h / 2 * n := by
    push_cast
    norm_num
    ring
  have rounds := Rounding.mul_rounds finite finite_n
  rw [value, value_n] at rounds
  obtain ⟨finite_p, value_p⟩ := rounds.exact (by
    rw [← product]
    refine Rounding.isBound_mantissa ?_ (by decide) (by decide)
    calc h * n ≤ 200 * n := Nat.mul_le_mul_right n halves
      _ < 2 ^ 53 := by omega)
  obtain ⟨finite₁, value₁⟩ := floatOfCount_hundred
  have quotient := Rounding.div_rounds finite_p finite₁ (by rw [value₁]; norm_num)
  rw [value_p, value₁] at quotient
  have share : (h / 2 * n / 100 : ℚ) = (h * n : Nat) / 200 := by
    push_cast
    ring
  have share_le : (h / 2 * n / 100 : ℚ) ≤ n := by
    have : (h : ℚ) ≤ 200 := by exact_mod_cast halves
    have : (0 : ℚ) ≤ n := n.cast_nonneg
    nlinarith
  obtain ⟨finite_q, same⟩ := quotient.ceil_eq (by positivity)
    (share_le.trans (by exact_mod_cast few.le)) fun j less => by
      rw [share, lt_div_iff₀ (by norm_num)] at less
      rw [share, le_div_iff₀ (by norm_num), add_mul]
      have : j * 200 + 1 ≤ h * n := by exact_mod_cast less
      norm_num
      exact_mod_cast this
  calc rank p n
    _ = min ⌈Rounding.valueOf (p * floatOfCount n / floatOfCount 100)⌉₊ wordMax :=
      clampWord_ceil finite_q
    _ = min ⌈(h / 2 * n / 100 : ℚ)⌉₊ wordMax := by rw [same]
    _ = ⌈(h / 2 * n / 100 : ℚ)⌉₊ := by
      refine min_eq_left (le_trans (Nat.ceil_le.2 share_le) ?_)
      rw [wordMax]
      omega
    _ = rank (exactValue p) n := by
      rw [half]
      rfl

/-! ### Views of recordings -/

/-- Words are in the order of the floating point numbers that they are rounded to. -/
theorem toFloat_mono {v w : UInt64} (le : v ≤ w) : v.toFloat ≤ w.toFloat := by
  obtain ⟨finite, -, -⟩ := Rounding.valueOf_toFloat v
  obtain ⟨finite', -, -⟩ := Rounding.valueOf_toFloat w
  rw [Rounding.le_iff finite finite']
  have bound := Rounding.isBound_two_pow (by decide : 64 ≤ 1023)
  refine (Rounding.toFloat_rounds v).mono (Rounding.toFloat_rounds w) bound (by positivity)
    (by exact_mod_cast UInt64.le_iff_toNat_le.1 le) ?_
  exact_mod_cast w.toNat_lt.le

/-- The values of a box plot ascend. -/
structure BoxPlot.Ascends (b : BoxPlot) : Prop where
  lowest : b.minRegular ≤ b.lowerQuartile
  lower : b.lowerQuartile ≤ b.midpoint
  upper : b.midpoint ≤ b.upperQuartile
  highest : b.upperQuartile ≤ b.maxRegular

/-- The box plot of given percentiles. -/
def BoxPlot.ofPercentiles {R : Type} (value : R → UInt64) (high upper middle lower low : R) :
    BoxPlot :=
  ⟨(value high).toFloat, (value upper).toFloat, (value middle).toFloat, (value lower).toFloat,
    (value low).toFloat⟩

/-- The box plot of exact percentiles. -/
def BoxPlot.exact (value : ℚ → UInt64) : BoxPlot := .ofPercentiles value (195 / 2) 75 50 25 (5 / 2)

theorem BoxPlot.ascends_ofPercentiles {R : Type} {value : R → UInt64} {p₁ p₂ p₃ p₄ p₅ : R}
    (lowest : value p₁ ≤ value p₂) (lower : value p₂ ≤ value p₃) (upper : value p₃ ≤ value p₄)
    (highest : value p₄ ≤ value p₅) : (ofPercentiles value p₅ p₄ p₃ p₂ p₁).Ascends :=
  ⟨toFloat_mono lowest, toFloat_mono lower, toFloat_mono upper, toFloat_mono highest⟩

namespace Samples

variable {s : Samples}

/-- Percentiles computed with rounding are in the order of what they are percentiles of. -/
theorem atPercentile?_mono {p q : Float} (hp : isPercentile p) (hq : isPercentile q)
    (le : exactValue p ≤ exactValue q) (few : s.count < 2 ^ 64) {v w : UInt64}
    (hv : atPercentile? s.sorted p = some v) (hw : atPercentile? s.sorted q = some w) : v ≤ w := by
  have ranks := rank_mono hp hq le (length_sorted ▸ few)
  rw [atPercentile?] at hv hw
  obtain ⟨inside, rfl⟩ := List.getElem?_eq_some_iff.1 hv
  obtain ⟨inside', rfl⟩ := List.getElem?_eq_some_iff.1 hw
  rcases (by omega : min (rank p s.sorted.length - 1) (s.sorted.length - 1) ≤
    min (rank q s.sorted.length - 1) (s.sorted.length - 1)).lt_or_eq with before | same
  · exact List.pairwise_iff_getElem.1 sorted_ascending _ _ inside inside' before
  · simp only [same, UInt64.le_refl]

/-- Whole and half percentiles of not too many samples are computed exactly. -/
theorem atPercentile?_exact {p : Float} (hp : isPercentile p) {h : Nat}
    (half : exactValue p = h / 2) (few : s.count < 2 ^ 44) :
    atPercentile? s.sorted p = atPercentile? s.sorted (exactValue p) := by
  rw [atPercentile?, atPercentile?, rank_exact hp half (length_sorted ▸ few)]

/-- The exact percentiles of samples. -/
structure Percentiles (s : Samples) (value : ℚ → UInt64) : Prop where
  known : ∀ p, 0 ≤ p → p ≤ 100 → atPercentile? s.sorted p = some (value p)
  least : ∀ p, 0 ≤ p → p ≤ 100 → s.LeastCovering p (value p)
  mono : ∀ p q, 0 ≤ p → p ≤ q → q ≤ 100 → value p ≤ value q
  first : ∀ n ∈ s.toList, value 0 ≤ n
  last : ∀ n ∈ s.toList, n ≤ value 100

theorem exists_percentiles (any : s.count ≠ 0) : ∃ value, s.Percentiles value := by
  refine ⟨fun p => (atPercentile? s.sorted p).getD 0, ?_⟩
  have known (p : ℚ) (top : p ≤ 100) : atPercentile? s.sorted p =
      some ((atPercentile? s.sorted p).getD 0) ∧
        s.LeastCovering p ((atPercentile? s.sorted p).getD 0) := by
    obtain ⟨v, here, least⟩ := leastCovering_atPercentile? any top
    rw [here]
    exact ⟨rfl, least⟩
  exact
    { known := fun p _ top => (known p top).1
      least := fun p _ top => (known p top).2
      mono := fun p q _ le top => (known p (le.trans top)).2.mono (known q top).2 le
      first := fun n hn => (known 0 (by norm_num)).2.le_of_zero hn
      last := fun n hn => (known 100 le_rfl).2.le_of_hundred hn }

theorem Percentiles.ascends {value : ℚ → UInt64} (h : s.Percentiles value) :
    (BoxPlot.exact value).Ascends :=
  BoxPlot.ascends_ofPercentiles (h.mono _ _ (by norm_num) (by norm_num) (by norm_num))
    (h.mono _ _ (by norm_num) (by norm_num) (by norm_num))
    (h.mono _ _ (by norm_num) (by norm_num) (by norm_num))
    (h.mono _ _ (by norm_num) (by norm_num) (by norm_num))

end Samples

namespace Accumulator

variable {s : Samples} {p : Float}

theorem percentile?_recording (hp : isPercentile p) :
    (recording s).percentile? p = .ok ((atPercentile? s.sorted p).map UInt64.toFloat) := by
  rw [percentile?, checkPercentile, if_pos hp]
  rfl

theorem percentile?_eq_error (a : OperationStats) (hp : ¬ isPercentile p) :
    a.percentile? p = .error (.invalidPercentile (plainText p)) := by
  unfold percentile?
  rw [checkPercentile, if_neg hp]
  rfl

theorem exactValue_eq {d : Dyadic} (h : Dyadic.ofFloat? p = some d) : exactValue p = d.value := by
  rw [exactValue, h]
  rfl

/-- The percentiles of a box plot. -/
theorem boxPercentiles :
    (isPercentile (97.5 : Float) ∧ exactValue 97.5 = 195 / 2) ∧
      (isPercentile (75 : Float) ∧ exactValue 75 = 75) ∧
      (isPercentile (50 : Float) ∧ exactValue 50 = 50) ∧
      (isPercentile (25 : Float) ∧ exactValue 25 = 25) ∧
      (isPercentile (2.5 : Float) ∧ exactValue 2.5 = 5 / 2) := by
  have value {p : Float} {m : Nat} {e : Int} (h : Dyadic.ofFloat? p = some ⟨false, m, e⟩) :
      exactValue p = m * 2 ^ e := by
    rw [exactValue_eq h, Dyadic.value]
    simp
  refine ⟨⟨by decide, ?_⟩, ⟨by decide, ?_⟩, ⟨by decide, ?_⟩, ⟨by decide, ?_⟩, by decide, ?_⟩
  · rw [value (by decide : Dyadic.ofFloat? 97.5 = some ⟨false, 195 * 2 ^ 45, -46⟩)]
    norm_num
  · rw [value (by decide : Dyadic.ofFloat? 75 = some ⟨false, 75 * 2 ^ 46, -46⟩)]
    norm_num
  · rw [value (by decide : Dyadic.ofFloat? 50 = some ⟨false, 50 * 2 ^ 47, -47⟩)]
    norm_num
  · rw [value (by decide : Dyadic.ofFloat? 25 = some ⟨false, 25 * 2 ^ 48, -48⟩)]
    norm_num
  · rw [value (by decide : Dyadic.ofFloat? 2.5 = some ⟨false, 5 * 2 ^ 50, -51⟩)]
    norm_num

theorem boxPlot?_recording :
    let found (p : Float) := (atPercentile? s.sorted p).map UInt64.toFloat
    (recording s).boxPlot? = .ok
      (match found 97.5, found 75, found 50, found 25, found 2.5 with
      | some high, some upper, some middle, some lower, some low =>
        some ⟨high, upper, middle, lower, low⟩
      | _, _, _, _, _ => none) := by
  obtain ⟨⟨high, -⟩, ⟨upper, -⟩, ⟨middle, -⟩, ⟨lower, -⟩, low, -⟩ := boxPercentiles
  rw [boxPlot?, percentile?_recording high, percentile?_recording upper,
    percentile?_recording middle, percentile?_recording lower, percentile?_recording low]
  · rfl
  · nofun

/-- **Percentiles of recordings.**  Of a recording that is not empty, with the number of samples
that a share makes up taken exactly, the percentile is the least sample that this share of all
samples is not above.  So it is a sample, does not fall as the share grows, is the least sample at
zero and the largest at a hundred, and the values of a box plot ascend.  What the program computes
is a sample too, its box plots ascend, and whole and half percentiles are the exact ones.  An empty
recording has no percentiles, and what is not a number from zero to a hundred is refused for all
accumulators. -/
theorem percentiles_of_recording (s : Samples) :
    (s.count ≠ 0 → ∃ value, s.Percentiles value ∧ (BoxPlot.exact value).Ascends ∧
      (∀ p : Float, isPercentile p →
        ∃ n ∈ s.toList, (recording s).percentile? p = .ok (some n.toFloat) ∧
          (s.count < 2 ^ 44 → (∃ h : Nat, exactValue p = h / 2) → n = value (exactValue p))) ∧
      ∃ b, (recording s).boxPlot? = .ok (some b) ∧ (s.count < 2 ^ 64 → b.Ascends) ∧
        (s.count < 2 ^ 44 → b = BoxPlot.exact value)) ∧
    (s.count = 0 →
      (∀ p : Float, isPercentile p → (recording s).percentile? p = .ok none) ∧
        (recording s).boxPlot? = .ok none) ∧
    ∀ (a : OperationStats) (p : Float),
      ¬(p.isFinite ∧ 0 ≤ exactValue p ∧ exactValue p ≤ 100) →
        a.percentile? p = .error (.invalidPercentile (plainText p)) := by
  obtain ⟨⟨high, high_eq⟩, ⟨upper, upper_eq⟩, ⟨middle, middle_eq⟩, ⟨lower, lower_eq⟩, low,
    low_eq⟩ := boxPercentiles
  refine ⟨fun any => ?_, fun none => ⟨fun p hp => ?_, ?_⟩, fun a p refused => ?_⟩
  · obtain ⟨value, percentiles⟩ := Samples.exists_percentiles any
    have some : s.sorted ≠ [] := fun none => any (by rw [← Samples.length_sorted, none]; rfl)
    choose computed member known using fun p : Float => exists_atPercentile? some p
    have exact (p : Float) (hp : isPercentile p) (few : s.count < 2 ^ 44) {h : Nat}
        (half : exactValue p = h / 2) : computed p = value (exactValue p) := by
      obtain ⟨-, nonneg, top⟩ := isPercentile_iff.1 hp
      have same := (Samples.atPercentile?_exact hp half few).trans (percentiles.known _ nonneg top)
      exact Option.some.inj ((known p).symm.trans same)
    refine ⟨value, percentiles, percentiles.ascends, fun p hp => ?_,
      .ofPercentiles computed 97.5 75 50 25 2.5, ?_, fun few => ?_, fun few => ?_⟩
    · refine ⟨computed p, Samples.sorted_perm.mem_iff.1 (member p), ?_, ?_⟩
      · rw [percentile?_recording hp, known]
        rfl
      · rintro few ⟨h, half⟩
        exact exact p hp few half
    · simp only [boxPlot?_recording, known]
      rfl
    · have mono {p q : Float} (hp : isPercentile p) (hq : isPercentile q)
          (le : exactValue p ≤ exactValue q) : computed p ≤ computed q :=
        Samples.atPercentile?_mono hp hq le few (known p) (known q)
      exact BoxPlot.ascends_ofPercentiles
        (mono low lower (by rw [low_eq, lower_eq]; norm_num))
        (mono lower middle (by rw [lower_eq, middle_eq]; norm_num))
        (mono middle upper (by rw [middle_eq, upper_eq]; norm_num))
        (mono upper high (by rw [upper_eq, high_eq]; norm_num))
    · have whole (p : Float) (hp : isPercentile p) {q : ℚ} (h : Nat) (half : q = h / 2)
          (same : exactValue p = q) : computed p = value q := by
        rw [exact p hp few (same.trans half), same]
      rw [BoxPlot.exact, BoxPlot.ofPercentiles, BoxPlot.ofPercentiles,
        whole 97.5 high 195 (by norm_num) high_eq, whole 75 upper 150 (by norm_num) upper_eq,
        whole 50 middle 100 (by norm_num) middle_eq, whole 25 lower 50 (by norm_num) lower_eq,
        whole 2.5 low 5 (by norm_num) low_eq]
  · have empty : s.sorted = [] := List.length_eq_zero_iff.1 (Samples.length_sorted.trans none)
    rw [percentile?_recording hp, empty]
    rfl
  · have empty : s.sorted = [] := List.length_eq_zero_iff.1 (Samples.length_sorted.trans none)
    rw [boxPlot?_recording, empty]
    rfl
  · exact percentile?_eq_error a fun hp => refused (isPercentile_iff.1 hp)

/-- Five samples, three of which are the least one: sixty percent are not above it. -/
theorem percentiles_of_recording_five :
    let s : Samples := ⟨#[3, 1, 2, 1, 1], 0⟩
    s.count ≠ 0 ∧ ∃ value, s.Percentiles value ∧ value 60 = 1 ∧ value 70 = 2 ∧
      (recording s).percentile? 60 = .ok (some (1 : UInt64).toFloat) := by
  intro s
  obtain ⟨value, known, -, computed, -⟩ := (percentiles_of_recording s).1 (by decide)
  have sixty := known.least 60 (by norm_num) (by norm_num)
  have seventy := known.least 70 (by norm_num) (by norm_num)
  have count : s.count = 5 := rfl
  have one : s.upTo 1 = 3 := by decide
  have two : s.upTo 2 = 4 := by decide
  have least : ∀ n ∈ s.toList, 1 ≤ n := by simp [s, Samples.toList]
  have next : ∀ n ∈ s.toList, n = 1 ∨ 2 ≤ n := by simp [s, Samples.toList]
  have value_sixty : value 60 = 1 := by
    refine UInt64.le_antisymm (sixty.least 1 (by decide) ?_) (least _ sixty.member)
    rw [Samples.Covers, one, count]
    norm_num
  have value_seventy : value 70 = 2 := by
    refine UInt64.le_antisymm (seventy.least 2 (by decide) ?_) ?_
    · rw [Samples.Covers, two, count]
      norm_num
    · refine (next _ seventy.member).resolve_left fun same => ?_
      have covers := seventy.covers
      rw [same, Samples.Covers, one, count] at covers
      norm_num at covers
  have exact : exactValue 60 = 60 := by
    rw [exactValue_eq (by decide : Dyadic.ofFloat? 60 = some ⟨false, 60 * 2 ^ 47, -47⟩)]
    norm_num [Dyadic.value]
  obtain ⟨n, -, answer, same⟩ := computed 60 (by decide)
  rw [same (by decide) ⟨120, by rw [exact]; norm_num⟩, exact, value_sixty] at answer
  exact ⟨by decide, value, known, value_sixty, value_seventy, answer⟩

end Accumulator

end LoadFleet
