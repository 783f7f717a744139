import LoadFleet.Proofs.Summaries
import Mathlib.Algebra.BigOperators.Group.Finset.Basic
import Mathlib.Algebra.Order.BigOperators.Group.List
/-!
# How histograms divide samples up

The inner boundaries of a histogram come from rounded powers, and nothing is asked of them: each is
moved between the boundary before it and the cutoff value. So the boundaries ascend, whatever the
powers are, and the number of inner boundaries that are not above a sample is the one bucket that
holds it.

* `ascending_boundaries`: by induction over the proposals, the boundaries ascend; what carries it is
  that a boundary never passes the upper end.
* `bucket_eq_iff`: by induction over the inner boundaries, which samples a bucket holds.
* `getElem?_tally`: by induction over the samples, what counting them one by one comes to.
* `guarded?_eq`: nothing fails on the way, where a histogram is computed with clamps, slices and
  indices that can fail.
* `Accumulator.histogram?_divides`: the main statement.
-/

namespace LoadFleet

/-! ### Words in order -/

/-- A number that is moved between two bounds is between them. -/
theorem clamp_bounds {low high b : UInt64} (order : low ≤ high) :
    low ≤ max low (min b high) ∧ max low (min b high) ≤ high := by
  simp only [UInt64.le_iff_toNat_le, toNat_max, toNat_min] at *
  omega

/-- In an ascending list, the elements up to the first that is too large are all that are not. -/
theorem takeWhile_le_eq_filter {high : UInt64} {l : List UInt64} (ascending : l.Pairwise (· ≤ ·)) :
    (l.takeWhile fun s => s ≤ high) = l.filter fun s => s ≤ high := by
  induction l with
  | nil => rfl
  | cons a r ih =>
    obtain ⟨least, ascending⟩ := List.pairwise_cons.1 ascending
    by_cases small : a ≤ high
    · rw [List.takeWhile_cons_of_pos (by simpa using small),
        List.filter_cons_of_pos (by simpa using small), ih ascending]
    · -- all that follow are too large as well
      rw [List.takeWhile_cons_of_neg (by simpa using small), eq_comm, List.filter_eq_nil_iff]
      intro b hb
      have large : a ≤ b := by
        rcases List.mem_cons.1 hb with rfl | hb
        · exact UInt64.le_refl _
        · exact least b hb
      simpa using fun small' => small (UInt64.le_trans large small')

namespace Samples

variable {s : Samples}

theorem sorted_perm : s.sorted.Perm s.toList := List.mergeSort_perm _ _

theorem sorted_ascending : s.sorted.Pairwise (· ≤ ·) := by
  have transitive (a b c : UInt64) (hab : decide (a ≤ b) = true) (hbc : decide (b ≤ c) = true) :
      decide (a ≤ c) = true :=
    decide_eq_true (UInt64.le_trans (of_decide_eq_true hab) (of_decide_eq_true hbc))
  have ascending : s.sorted.Pairwise fun a b => decide (a ≤ b) = true :=
    List.pairwise_mergeSort transitive (fun a b => by simpa using UInt64.le_total a b) s.toList
  simpa only [decide_eq_true_eq] using ascending

theorem length_sorted : s.sorted.length = s.count := sorted_perm.length_eq

theorem le_largest {n : UInt64} (hn : n ∈ s.toList) : n ≤ s.largest := by
  have grows (l : List UInt64) (m : UInt64) : m ≤ l.foldl max m ∧ ∀ n ∈ l, n ≤ l.foldl max m := by
    induction l generalizing m with
    | nil => exact ⟨UInt64.le_refl m, nofun⟩
    | cons a r ih =>
      obtain ⟨start, rest⟩ := ih (max m a)
      have here : m ≤ max m a ∧ a ≤ max m a := by
        simp only [UInt64.le_iff_toNat_le, toNat_max]
        omega
      refine ⟨UInt64.le_trans here.1 start, fun n hn => ?_⟩
      rcases List.mem_cons.1 hn with rfl | hn
      · exact UInt64.le_trans here.2 start
      · exact rest n hn
  exact (grows s.toList 0).2 n hn

end Samples

/-! ### Percentiles -/

/-- The position of a percentile is inside the samples, if there are any. -/
theorem exists_atPercentile? {R : Type} [Scalar R] {sorted : List UInt64} (any : sorted ≠ [])
    (p : R) : ∃ n ∈ sorted, atPercentile? sorted p = some n := by
  have inside : min (rank p sorted.length - 1) (sorted.length - 1) < sorted.length := by
    have := List.length_pos_of_ne_nil any
    omega
  exact ⟨_, List.getElem_mem inside, List.getElem?_eq_getElem inside⟩

namespace Histogram

/-! ### Boundaries -/

section

variable {low high : UInt64} {proposals : List UInt64}

theorem length_innerBoundaries :
    (innerBoundaries high low proposals).length = proposals.length := by
  induction proposals generalizing low with
  | nil => rfl
  | cons b r ih => exact congrArg (· + 1) ih

/-- **Boundaries ascend** from the lower end to the upper end, whatever was proposed. -/
theorem ascending_boundaries (order : low ≤ high) :
    (low :: innerBoundaries high low proposals ++ [high]).Pairwise (· ≤ ·) := by
  induction proposals generalizing low with
  | nil => simpa [innerBoundaries] using order
  | cons b r ih =>
    obtain ⟨above, below⟩ := clamp_bounds (b := b) order
    have rest := ih below
    refine List.pairwise_cons.2 ⟨fun c hc => ?_, rest⟩
    rcases List.mem_cons.1 hc with rfl | hc
    · exact above
    · exact UInt64.le_trans above ((List.pairwise_cons.1 rest).1 c hc)

end

/-! ### Buckets -/

section

variable {low s : UInt64} {inner : List UInt64}

theorem bucket_cons {b : UInt64} {r : List UInt64} :
    bucket (b :: r) s = if b ≤ s then bucket r s + 1 else 0 := by
  by_cases h : b ≤ s <;> simp [bucket, h]

theorem bucket_le : bucket inner s ≤ inner.length := (List.takeWhile_sublist _).length_le

/-- **The bucket of a sample** that is not below the lower end is the one whose lower boundary is
not above it and whose upper boundary, if it is an inner one, is. -/
theorem bucket_eq_iff (ascending : (low :: inner).Pairwise (· ≤ ·)) (above : low ≤ s) {i : Nat} :
    bucket inner s = i ↔
      ∃ a, (low :: inner)[i]? = some a ∧ a ≤ s ∧ ∀ b, inner[i]? = some b → s < b := by
  induction inner generalizing low i with
  | nil =>
    cases i with
    | zero => exact iff_of_true rfl ⟨low, rfl, above, nofun⟩
    | succ i => exact iff_of_false nofun fun ⟨_, outside, _⟩ => nomatch outside
  | cons b r ih =>
    have further := (List.pairwise_cons.1 ascending).2
    rw [bucket_cons]
    by_cases h : b ≤ s
    · rw [if_pos h]
      cases i with
      | zero =>
        refine iff_of_false (Nat.succ_ne_zero _) fun ⟨_, _, _, before⟩ => ?_
        exact UInt64.not_le.2 (before b rfl) h
      | succ i =>
        rw [Nat.succ.injEq, ih further h]
        simp only [List.getElem?_cons_succ]
    · rw [if_neg h]
      cases i with
      | zero =>
        refine iff_of_true rfl ⟨low, rfl, above, fun c hc => ?_⟩
        cases hc
        exact UInt64.not_le.1 h
      | succ i =>
        -- the lower boundary of a later bucket is not below the first inner one
        refine iff_of_false (Nat.succ_ne_zero i).symm fun ⟨a, ha, below, _⟩ => ?_
        rw [List.getElem?_cons_succ] at ha
        have later : b ≤ a := by
          rcases List.mem_cons.1 (List.mem_of_getElem? ha) with rfl | hr
          · exact UInt64.le_refl _
          · exact (List.pairwise_cons.1 further).1 a hr
        exact h (UInt64.le_trans later below)

end

/-! ### Counting one by one -/

section

variable {inner samples : List UInt64}

/-- The number of samples in a bucket. -/
def held (inner samples : List UInt64) (i : Nat) : Nat :=
  samples.countP fun s => bucket inner s = i

theorem held_cons {s : UInt64} {i : Nat} : held inner (s :: samples) i =
    held inner samples i + if bucket inner s = i then 1 else 0 := by
  simp [held, List.countP_cons]

/-- Counting samples one by one adds to each count the number of samples in its bucket. -/
theorem getElem?_tally (counts : Array UInt64) (i : Nat) :
    (samples.foldl (fun counts s => counts.modify (bucket inner s) (· + 1)) counts)[i]? =
      counts[i]?.map (· + (held inner samples i).toUInt64) := by
  induction samples generalizing counts with
  | nil => simp [held]
  | cons s r ih =>
    rw [List.foldl_cons, ih, Array.getElem?_modify, held_cons]
    by_cases here : bucket inner s = i
    · rw [if_pos here, if_pos here, Option.map_map]
      congr 1
      funext n
      simp only [Function.comp_apply, Nat.toUInt64_eq, UInt64.ofNat_add]
      rw [UInt64.add_assoc, UInt64.add_comm 1]
      rfl
    · rw [if_neg here, if_neg here, Nat.add_zero]

theorem countBuckets_eq (buckets : Nat) :
    countBuckets inner buckets samples =
      (List.range buckets).map fun i => (held inner samples i).toUInt64 := by
  refine List.ext_getElem? fun i => ?_
  rw [countBuckets, Array.getElem?_toList, getElem?_tally, List.getElem?_map]
  by_cases inside : i < buckets
  · rw [Array.getElem?_replicate, if_pos inside, List.getElem?_range inside]
    simp
  · rw [Array.getElem?_replicate, if_neg inside,
      List.getElem?_eq_none (by simpa using inside)]
    rfl

/-- Every sample is in one bucket. -/
theorem sum_held {buckets : Nat} (inside : ∀ s ∈ samples, bucket inner s < buckets) :
    ((List.range buckets).map (held inner samples)).sum = samples.length := by
  let placed : Multiset Nat := (samples.map (bucket inner) : List Nat)
  have range : ∀ i ∈ placed, i ∈ Finset.range buckets := by
    intro i hi
    obtain ⟨s, hs, rfl⟩ := List.mem_map.1 (Multiset.mem_coe.1 hi)
    exact Finset.mem_range.2 (inside s hs)
  calc ((List.range buckets).map (held inner samples)).sum
    _ = ∑ i ∈ Finset.range buckets, held inner samples i := rfl
    _ = ∑ i ∈ Finset.range buckets, placed.count i := by
      refine Finset.sum_congr rfl fun i _ => ?_
      rw [Multiset.coe_count, List.count_eq_countP, List.countP_map]
      rfl
    _ = placed.card := Multiset.sum_count_eq_card range
    _ = samples.length := by rw [Multiset.coe_card, List.length_map]

end

/-! ### Computing with operations that fail -/

/-- Moves a number between two bounds, which have to be in order. -/
def clamp? (low high b : UInt64) : Option UInt64 :=
  if low ≤ high then some (max low (min b high)) else none

/-- Adds a boundary behind the last one. -/
def addBoundary? (high : UInt64) (boundaries : List UInt64) (b : UInt64) :
    Option (List UInt64) := do
  let previous ← boundaries[boundaries.length - 1]?
  return boundaries ++ [← clamp? previous high b]

/-- A part of a list, which has to be inside it. -/
def slice? (l : List UInt64) (start stop : Nat) : Option (List UInt64) :=
  if start ≤ stop ∧ stop ≤ l.length then some ((l.take stop).drop start) else none

/-- Counts a sample, for whose bucket there has to be a count. -/
def count? (inner : List UInt64) (counts : Array UInt64) (s : UInt64) : Option (Array UInt64) :=
  if bucket inner s < counts.size then some (counts.modify (bucket inner s) (· + 1)) else none

/-- The histogram of samples in ascending order up to a percentile, where every clamp, slice and
index can fail. -/
def guarded? (proposals : UInt64 → UInt64 → Nat → List UInt64) (sorted : List UInt64) (p : Float)
    (buckets : Nat) : Option Histogram := do
  let low ← sorted[0]?
  let high ← sorted[min (rank p sorted.length - 1) (sorted.length - 1)]?
  let boundaries ← (proposals low high buckets).foldlM (addBoundary? high) [low]
  let boundaries := boundaries ++ [high]
  let inner ← slice? boundaries 1 buckets
  let kept := sorted.takeWhile fun s => s ≤ high
  let counts ← kept.foldlM (count? inner) (Array.replicate buckets 0)
  return ⟨boundaries, counts.toList⟩

section

variable {low high : UInt64} {inner : List UInt64}

theorem addBoundary?_eq {before : List UInt64} {b : UInt64} (order : low ≤ high) :
    addBoundary? high (before ++ [low]) b = some (before ++ [low] ++ [max low (min b high)]) := by
  have last : (before ++ [low])[(before ++ [low]).length - 1]? = some low := by simp
  rw [addBoundary?, last, Option.bind_eq_bind, Option.bind_some, clamp?, if_pos order]
  rfl

/-- No clamp fails, since no boundary passes the upper end. -/
theorem foldlM_addBoundary? (before proposed : List UInt64) (order : low ≤ high) :
    proposed.foldlM (addBoundary? high) (before ++ [low]) =
      some (before ++ low :: innerBoundaries high low proposed) := by
  induction proposed generalizing before low with
  | nil => rfl
  | cons b r ih =>
    rw [List.foldlM_cons, addBoundary?_eq order]
    refine (ih (before ++ [low]) (clamp_bounds order).2).trans ?_
    rw [List.append_assoc]
    rfl

/-- No index fails, since there are more buckets than inner boundaries. -/
theorem foldlM_count? (samples : List UInt64) (counts : Array UInt64)
    (few : inner.length < counts.size) :
    samples.foldlM (count? inner) counts =
      some (samples.foldl (fun counts s => counts.modify (bucket inner s) (· + 1)) counts) := by
  induction samples generalizing counts with
  | nil => rfl
  | cons s r ih =>
    have inside : bucket inner s < counts.size := Nat.lt_of_le_of_lt bucket_le few
    rw [List.foldlM_cons, count?, if_pos inside]
    exact ih _ (by rwa [Array.size_modify])

/-- The inner boundaries are a part of all boundaries. -/
theorem slice?_boundaries {buckets : Nat} (length : inner.length + 1 = buckets) :
    slice? (low :: inner ++ [high]) 1 buckets = some inner := by
  subst length
  rw [slice?, if_pos ⟨Nat.le_add_left _ _, by simp⟩]
  simp

end

/-- **Nothing fails** while a histogram is computed. -/
theorem guarded?_eq {proposals : UInt64 → UInt64 → Nat → List UInt64} {sorted : List UInt64}
    {p : Float} {buckets : Nat} {low high : UInt64} {rest : List UInt64}
    (proposed : (proposals low high buckets).length + 1 = buckets) (first : sorted = low :: rest)
    (cutoff : atPercentile? sorted p = some high) (order : low ≤ high) :
    guarded? proposals sorted p buckets = ofSorted? proposals sorted (some high) buckets := by
  have length : (innerBoundaries high low (proposals low high buckets)).length + 1 = buckets := by
    rwa [length_innerBoundaries]
  have boundaries := foldlM_addBoundary? [] (proposals low high buckets) order
  rw [List.nil_append, List.nil_append] at boundaries
  have few : (innerBoundaries high low (proposals low high buckets)).length <
      (Array.replicate buckets (0 : UInt64)).size := by
    rw [Array.size_replicate]
    omega
  have counted := foldlM_count? (sorted.takeWhile fun s => s ≤ high) _ few
  rw [atPercentile?] at cutoff
  rw [guarded?, cutoff, show sorted[0]? = some low by rw [first]; rfl, Option.bind_eq_bind,
    Option.bind_some, Option.bind_eq_bind, Option.bind_some, boundaries, Option.bind_eq_bind,
    Option.bind_some]
  dsimp only
  rw [slice?_boundaries length, Option.bind_some, counted, first]
  rfl

/-! ### What a histogram says -/

/-- The proposals of a formula for the inner boundaries, rounded and cut to words. -/
def proposalsBy (formula : UInt64 → UInt64 → Nat → Nat → Float) (low high : UInt64)
    (buckets : Nat) : List UInt64 :=
  (List.range (buckets - 1)).map fun i =>
    (Dyadic.clampWord Dyadic.round (formula low high buckets (i + 1))).toUInt64

/-- The formula by which boundaries grow by a constant factor. -/
def growth (low high : UInt64) (buckets i : Nat) : Float :=
  let first := (max low 1).toFloat
  first * powNat (((max high 1).toFloat / first).pow (1 / floatOfCount buckets)) i

theorem proposals_eq : proposals = proposalsBy growth := rfl

/-- A histogram divides samples up to a cutoff value among its buckets. Its counts are the words of
the numbers of samples in each bucket. -/
structure Divides (h : Histogram) (samples : List UInt64) (cutoff : UInt64) (buckets : Nat)
    (counts : List Nat) : Prop where
  boundaries : h.boundaries.length = buckets + 1
  ascending : h.boundaries.Pairwise (· ≤ ·)
  first : ∃ low, h.boundaries.head? = some low ∧ low ∈ samples ∧ ∀ s ∈ samples, low ≤ s
  last : h.boundaries.getLast? = some cutoff
  size : counts.length = buckets
  words : h.counts = counts.map Nat.toUInt64
  /-- A bucket in front of the last one holds the samples from its lower boundary up to, but
  without, its upper one. -/
  inner : ∀ i low high, i + 1 < buckets → h.boundaries[i]? = some low →
    h.boundaries[i + 1]? = some high →
      counts[i]? = some (samples.countP fun s => low ≤ s && s < high)
  /-- The last bucket holds its upper boundary too. -/
  outer : ∀ i low high, i + 1 = buckets → h.boundaries[i]? = some low →
    h.boundaries[i + 1]? = some high →
      counts[i]? = some (samples.countP fun s => low ≤ s && s ≤ high)
  total : counts.sum = samples.countP fun s => s ≤ cutoff

section

variable {sorted samples inner : List UInt64} {low high : UInt64}

/-- The number of samples in a bucket, of those up to the cutoff value. -/
theorem held_kept (ascending : sorted.Pairwise (· ≤ ·)) (perm : sorted.Perm samples) (i : Nat) :
    held inner (sorted.takeWhile fun s => s ≤ high) i =
      samples.countP fun s => bucket inner s = i && s ≤ high := by
  rw [held, takeWhile_le_eq_filter ascending, List.countP_filter, perm.countP_eq]

theorem ofSorted?_divides {proposals : UInt64 → UInt64 → Nat → List UInt64} {rest : List UInt64}
    {buckets : Nat} (proposed : (proposals low high buckets).length + 1 = buckets)
    (first : sorted = low :: rest) (ascending : sorted.Pairwise (· ≤ ·))
    (perm : sorted.Perm samples) (order : low ≤ high) :
    ∃ h counts, ofSorted? proposals sorted (some high) buckets = some h ∧
      Divides h samples high buckets counts := by
  let inner := innerBoundaries high low (proposals low high buckets)
  have length : inner.length + 1 = buckets := by rwa [length_innerBoundaries]
  have boundaries : (low :: inner ++ [high]).Pairwise (· ≤ ·) := ascending_boundaries order
  have front : (low :: inner).Pairwise (· ≤ ·) := (List.pairwise_append.1 boundaries).1
  have least (s : UInt64) (hs : s ∈ samples) : low ≤ s := by
    rcases List.mem_cons.1 (first ▸ perm.mem_iff.2 hs) with rfl | hr
    · exact UInt64.le_refl _
    · exact (List.pairwise_cons.1 (first ▸ ascending)).1 s hr
  have below (b : UInt64) (hb : b ∈ inner) : b ≤ high :=
    (List.pairwise_append.1 boundaries).2.2 b (.tail _ hb) high (.head _)
  let kept := sorted.takeWhile fun s => s ≤ high
  let counts := (List.range buckets).map (held inner kept)
  have counted (i : Nat) (inside : i < buckets) : counts[i]? =
      some (samples.countP fun s => bucket inner s = i && s ≤ high) := by
    rw [List.getElem?_map, List.getElem?_range inside, Option.map_some,
      held_kept ascending perm]
  refine ⟨⟨low :: inner ++ [high], countBuckets inner buckets kept⟩, counts, ?_, ?_⟩
  · simp only [kept, inner, first]
    rfl
  refine
    { boundaries := by simp [length]
      ascending := boundaries
      first := ⟨low, rfl, perm.mem_iff.1 (first ▸ .head _), least⟩
      last := List.getLast?_concat
      size := by simp [counts]
      words := by rw [countBuckets_eq, List.map_map]; rfl
      inner := fun i a b inside ha hb => ?_
      outer := fun i a b last ha hb => ?_
      total := ?_ }
  · -- the boundaries of a bucket in front of the last are among the first ones and the inner ones
    have ha : (low :: inner)[i]? = some a := by
      rwa [List.getElem?_append_left (by simp; omega)] at ha
    have hb : inner[i]? = some b := by
      rwa [List.cons_append, List.getElem?_cons_succ,
        List.getElem?_append_left (by omega)] at hb
    rw [counted i (by omega)]
    refine congrArg some (List.countP_congr fun s hs => ?_)
    simp only [Bool.and_eq_true, decide_eq_true_eq, bucket_eq_iff front (least s hs), ha, hb]
    constructor
    · rintro ⟨⟨_, same, above, before⟩, -⟩
      exact ⟨Option.some.inj same ▸ above, before b rfl⟩
    · rintro ⟨above, before⟩
      have whole : s ≤ high :=
        UInt64.le_of_lt (UInt64.lt_of_lt_of_le before (below b (List.mem_of_getElem? hb)))
      exact ⟨⟨a, rfl, above, fun _ same => Option.some.inj same ▸ before⟩, whole⟩
  · have ha : (low :: inner)[i]? = some a := by
      rwa [List.getElem?_append_left (by simp; omega)] at ha
    have none : inner[i]? = none := List.getElem?_eq_none (by omega)
    have hb : high = b := by
      rw [List.cons_append, List.getElem?_cons_succ, List.getElem?_append_right (by omega),
        show i - inner.length = 0 by omega] at hb
      exact Option.some.inj hb
    rw [counted i (by omega)]
    refine congrArg some (List.countP_congr fun s hs => ?_)
    simp only [Bool.and_eq_true, decide_eq_true_eq, bucket_eq_iff front (least s hs), ha, none, hb]
    constructor
    · rintro ⟨⟨_, same, above, -⟩, whole⟩
      exact ⟨Option.some.inj same ▸ above, whole⟩
    · rintro ⟨above, whole⟩
      exact ⟨⟨a, rfl, above, nofun⟩, whole⟩
  · have inside : ∀ s ∈ kept, bucket inner s < buckets := fun s _ =>
      Nat.lt_of_le_of_lt bucket_le (by omega)
    rw [sum_held inside, show kept = _ from takeWhile_le_eq_filter ascending,
      ← List.countP_eq_length_filter, perm.countP_eq]

-- proposals on the wrong side of both ends: the bucket between them stays empty
example : ofSorted? (fun _ _ _ => [900, 0]) [1, 1, 5, 900] (some 5) 3 =
    some ⟨[1, 5, 5, 5], [2, 0, 1]⟩ := by decide

theorem foldl_words (counts : List Nat) (n : Nat) :
    (counts.map Nat.toUInt64).foldl (· + ·) n.toUInt64 = (n + counts.sum).toUInt64 := by
  induction counts generalizing n with
  | nil => rfl
  | cons c r ih =>
    have step : n.toUInt64 + c.toUInt64 = (n + c).toUInt64 := (UInt64.ofNat_add n c).symm
    rw [List.map_cons, List.foldl_cons, step, ih, List.sum_cons, Nat.add_assoc]

/-- Counts of fewer samples than words can count are the numbers themselves, and so is their
total. -/
theorem Divides.exact {h : Histogram} {buckets : Nat} {counts : List Nat}
    (divides : Divides h samples high buckets counts) (few : samples.length < 2 ^ 64) :
    h.counts.map UInt64.toNat = counts ∧ h.total.toNat = counts.sum := by
  have sum : counts.sum < 2 ^ 64 := by
    rw [divides.total]
    exact Nat.lt_of_le_of_lt List.countP_le_length few
  constructor
  · rw [divides.words, List.map_map]
    refine (List.map_congr_left fun n hn => ?_).trans (List.map_id _)
    have small : n < 2 ^ 64 := Nat.lt_of_le_of_lt (List.le_sum_of_mem hn) sum
    exact UInt64.toNat_ofNat_of_lt' small
  · have whole : h.total = counts.sum.toUInt64 := by
      rw [Histogram.total, divides.words, show (0 : UInt64) = Nat.toUInt64 0 from rfl, foldl_words,
        Nat.zero_add]
    rw [whole]
    exact UInt64.toNat_ofNat_of_lt' sum

end

end Histogram

/-- **A histogram divides the samples up.** Of a recording that is not empty, for any number of
buckets and any percentile to cut off at, the boundaries ascend from the least sample to the cutoff
value, each sample up to there is counted in the one bucket that it lies in, and nothing fails on
the way, whatever a formula proposes as inner boundaries. -/
theorem Accumulator.histogram?_divides (s : Samples) (p : Float) (buckets : Nat)
    (any : s.count ≠ 0) (positive : 1 ≤ buckets) (percentile : isPercentile p = true) :
    ∃ cutoff, atPercentile? s.sorted p = some cutoff ∧
      (recording s).histogram? buckets p = .ok
        (Histogram.ofSorted? (Histogram.proposalsBy Histogram.growth) s.sorted (some cutoff)
          buckets) ∧
      ∀ formula, ∃ h counts,
        Histogram.ofSorted? (Histogram.proposalsBy formula) s.sorted (some cutoff) buckets =
            some h ∧
          Histogram.guarded? (Histogram.proposalsBy formula) s.sorted p buckets = some h ∧
          h.Divides s.toList cutoff buckets counts ∧
          (cutoff = s.largest → counts.sum = s.count) ∧
          (s.count < 2 ^ 64 → h.counts.map UInt64.toNat = counts ∧ h.total.toNat = counts.sum) := by
  obtain ⟨low, rest, first⟩ : ∃ low rest, s.sorted = low :: rest := by
    refine List.exists_cons_of_ne_nil fun none => any ?_
    rw [← Samples.length_sorted, none, List.length_nil]
  obtain ⟨cutoff, member, atCutoff⟩ :=
    exists_atPercentile? (first ▸ List.cons_ne_nil low rest) p
  have order : low ≤ cutoff := by
    rcases List.mem_cons.1 (first ▸ member) with rfl | hr
    · exact UInt64.le_refl _
    · exact (List.pairwise_cons.1 (first ▸ Samples.sorted_ascending)).1 cutoff hr
  refine ⟨cutoff, atCutoff, ?_, fun formula => ?_⟩
  · rw [histogram?, if_neg (Nat.ne_of_gt positive), checkPercentile, if_pos percentile, atCutoff]
    rfl
  have proposed : (Histogram.proposalsBy formula low cutoff buckets).length + 1 = buckets := by
    rw [Histogram.proposalsBy, List.length_map, List.length_range, Nat.sub_add_cancel positive]
  obtain ⟨h, counts, computed, divides⟩ := Histogram.ofSorted?_divides proposed first
    Samples.sorted_ascending Samples.sorted_perm order
  refine ⟨h, counts, computed, ?_, divides, fun largest => ?_, divides.exact⟩
  · rw [Histogram.guarded?_eq proposed first atCutoff order, computed]
  · rw [divides.total, List.countP_eq_length.2 fun n hn => ?_]
    · rfl
    · simpa [largest] using Samples.le_largest hn

/-- Four samples in three buckets, the largest of which is cut off. -/
theorem Accumulator.histogram?_divides_four :
    let s : Samples := ⟨#[5, 1, 900, 1], 0⟩
    s.count ≠ 0 ∧ 1 ≤ 3 ∧ isPercentile (75 : Float) = true ∧
    ∃ cutoff, atPercentile? s.sorted (75 : Float) = some cutoff ∧
      (recording s).histogram? 3 75 = .ok
        (Histogram.ofSorted? (Histogram.proposalsBy Histogram.growth) s.sorted (some cutoff) 3) ∧
      ∀ formula, ∃ h counts,
        Histogram.ofSorted? (Histogram.proposalsBy formula) s.sorted (some cutoff) 3 = some h ∧
          Histogram.guarded? (Histogram.proposalsBy formula) s.sorted (75 : Float) 3 = some h ∧
          h.Divides s.toList cutoff 3 counts ∧
          (cutoff = s.largest → counts.sum = s.count) ∧
          (s.count < 2 ^ 64 → h.counts.map UInt64.toNat = counts ∧ h.total.toNat = counts.sum) :=
  ⟨by decide, by decide, by decide,
    Accumulator.histogram?_divides ⟨#[5, 1, 900, 1], 0⟩ 75 3 (by decide) (by decide) (by decide)⟩

end LoadFleet
