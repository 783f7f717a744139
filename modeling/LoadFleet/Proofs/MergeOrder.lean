import LoadFleet.Proofs.Rounds
import LoadFleet.Report.Report
import Mathlib.Algebra.BigOperators.Group.List.Basic
/-!
# Merging in any order and grouping

What statistics tell about operations and the interval are figures that add up: counters by numbers,
names by union, largest latencies by the larger, and the interval by its ends.  Figures are a
commutative monoid, so the figures of a list of statistics depend neither on their order nor on
which of them are merged first, and so does whether words have room for their counters.

* `Statistics.Built`: statistics that come about by recording, setting the interval and merging.
* `Statistics.figures_of_joins`: the figures of two statistics that are merged add up.
* `Statistics.foldlM_merge?_of_ok`, `Statistics.foldlM_merge?_of_kind`: by induction over a list,
  what merging it comes to, and that it fails in one kind only for lack of room.
* `Statistics.mergeAll_of_kind`, `Statistics.mergeAll_groups`: merging a list of one kind with room
  for all counters succeeds, and so does merging the totals of its parts.
* `Statistics.Totals`: what the sum says, figure by figure.
* `Statistics.mergeAll_totals`: the main statement.
* `Statistics.mergeAll_overflows`: statistics of one kind that cannot be merged.
-/

namespace LoadFleet

/-! ### The ends of intervals -/

section Ends

variable (a b c : Option WallTime)

theorem earliest_none : earliest a none = a := by cases a <;> rfl

theorem earliest_comm : earliest a b = earliest b a := by
  cases a <;> cases b <;> simp only [earliest, Option.some.injEq]
  refine WallTime.ext ?_
  split_ifs <;> omega

theorem earliest_assoc : earliest (earliest a b) c = earliest a (earliest b c) := by
  cases a <;> cases b <;> cases c <;> simp only [earliest, Option.some.injEq]
  refine WallTime.ext ?_
  split_ifs <;> omega

theorem latest_none : latest a none = a := by cases a <;> rfl

theorem latest_comm : latest a b = latest b a := by
  cases a <;> cases b <;> simp only [latest, Option.some.injEq]
  refine WallTime.ext ?_
  split_ifs <;> omega

theorem latest_assoc : latest (latest a b) c = latest a (latest b c) := by
  cases a <;> cases b <;> cases c <;> simp only [latest, Option.some.injEq]
  refine WallTime.ext ?_
  split_ifs <;> omega

variable {a b} {n : Nat}

/-- The earlier of two points comes no later than a time exactly if one of them does. -/
theorem earliest_le_iff : (∃ t, earliest a b = some t ∧ t.nanos ≤ n) ↔
    (∃ t, a = some t ∧ t.nanos ≤ n) ∨ ∃ t, b = some t ∧ t.nanos ≤ n := by
  cases a <;> cases b <;> simp only [earliest, reduceCtorEq, Option.some.injEq, false_and,
    exists_false, false_or, or_false, exists_eq_left']
  split <;> omega

/-- The later of two points comes no earlier than a time exactly if one of them does. -/
theorem le_latest_iff : (∃ t, latest a b = some t ∧ n ≤ t.nanos) ↔
    (∃ t, a = some t ∧ n ≤ t.nanos) ∨ ∃ t, b = some t ∧ n ≤ t.nanos := by
  cases a <;> cases b <;> simp only [latest, reduceCtorEq, Option.some.injEq, false_and,
    exists_false, false_or, or_false, exists_eq_left']
  split <;> omega

/-- A point that lies on the one side of a time exactly if one of a list does is the extreme point
of that list. -/
theorem eq_some_iff_extreme {ι : Type} {l : List ι} {f : ι → Option WallTime}
    {point : Option WallTime} (le : Nat → Nat → Prop) [IsPartialOrder Nat le]
    (h : ∀ n, (∃ t, point = some t ∧ le t.nanos n) ↔ ∃ c ∈ l, ∃ t, f c = some t ∧ le t.nanos n)
    (time : WallTime) :
    point = some time ↔
      (∃ c ∈ l, f c = some time) ∧
        ∀ c ∈ l, ∀ other, f c = some other → le time.nanos other.nanos := by
  constructor
  · rintro rfl
    have least (c : ι) (hc : c ∈ l) (other : WallTime) (ho : f c = some other) :
        le time.nanos other.nanos := by
      obtain ⟨t, ht, hle⟩ := (h other.nanos).2 ⟨c, hc, other, ho, refl_of le _⟩
      cases ht
      exact hle
    obtain ⟨c, hc, t, ht, hle⟩ := (h time.nanos).1 ⟨time, rfl, refl_of le _⟩
    obtain rfl : t = time := WallTime.ext (antisymm_of le hle (least c hc t ht))
    exact ⟨⟨c, hc, ht⟩, least⟩
  · rintro ⟨⟨c, hc, hf⟩, least⟩
    obtain ⟨t, rfl, hle⟩ := (h time.nanos).2 ⟨c, hc, time, hf, refl_of le _⟩
    obtain ⟨c', hc', t', ht', hle'⟩ := (h t.nanos).1 ⟨t, rfl, refl_of le _⟩
    have hle' : le time.nanos t.nanos := trans_of le (least c' hc' t' ht') hle'
    rw [WallTime.ext (antisymm_of le hle hle')]

end Ends

/-! ### Figures -/

/-- What statistics tell about the interval and the operations.  What they tell about the latencies
is left out, apart from the largest of each operation where it is a whole number. -/
@[ext] structure Figures where
  begun : Option WallTime
  ended : Option WallTime
  known : String → Bool
  requests : String → Nat
  errors : String → Nat
  largest : String → UInt64

namespace Figures

instance : Zero Figures :=
  ⟨⟨none, none, fun _ => false, fun _ => 0, fun _ => 0, fun _ => 0⟩⟩

instance : Add Figures where
  add a b :=
    { begun := earliest a.begun b.begun
      ended := latest a.ended b.ended
      known := fun name => a.known name || b.known name
      requests := fun name => a.requests name + b.requests name
      errors := fun name => a.errors name + b.errors name
      largest := fun name => max (a.largest name) (b.largest name) }

instance : AddCommMonoid Figures where
  add_assoc a b c := by
    refine Figures.ext (earliest_assoc ..) (latest_assoc ..) ?_ ?_ ?_ ?_ <;> funext name
    · exact Bool.or_assoc ..
    · exact Nat.add_assoc ..
    · exact Nat.add_assoc ..
    · exact max_word_assoc ..
  zero_add a := by
    refine Figures.ext rfl rfl ?_ ?_ ?_ ?_ <;> funext name
    · exact Bool.false_or _
    · exact Nat.zero_add _
    · exact Nat.zero_add _
    · exact zero_max_word _
  add_zero a := by
    refine Figures.ext (earliest_none _) (latest_none _) ?_ ?_ ?_ ?_ <;> funext name
    · exact Bool.or_false _
    · exact Nat.add_zero _
    · exact Nat.add_zero _
    · exact max_word_zero _
  add_comm a b := by
    refine Figures.ext (earliest_comm ..) (latest_comm ..) ?_ ?_ ?_ ?_ <;> funext name
    · exact Bool.or_comm ..
    · exact Nat.add_comm ..
    · exact Nat.add_comm ..
    · exact max_word_comm ..
  nsmul := nsmulRec

/-- All counters are words. -/
def Fits (f : Figures) : Prop := ∀ name, f.requests name ≤ wordMax ∧ f.errors name ≤ wordMax

theorem Fits.left {f g : Figures} (h : (f + g).Fits) : f.Fits := fun name =>
  ⟨(Nat.le_add_right ..).trans (h name).1, (Nat.le_add_right ..).trans (h name).2⟩

theorem Fits.right {f g : Figures} (h : (f + g).Fits) : g.Fits := by
  rw [add_comm] at h
  exact h.left

end Figures

namespace Statistics

variable {R : Type} [Scalar R] {s t u : Statistics R} {kind : StatsKind}

/-! ### Statistics that come about -/

/-- Statistics that come about by recording, setting the interval or one of its ends, and
merging. -/
inductive Built : Statistics R → Prop where
  | empty (kind : StatsKind) : Built (.empty kind)
  | record {s t : Statistics R} (hs : Built s) {operation : String} {latency : Span}
    {success : Bool} (h : s.record? operation latency success = .ok t) : Built t
  | begin {s : Statistics R} (h : Built s) (time : WallTime) : Built { s with begun := some time }
  | finish {s : Statistics R} (h : Built s) (time : WallTime) : Built { s with ended := some time }
  | setInterval {s : Statistics R} (h : Built s) (begun ended : WallTime) :
    Built (s.setInterval begun ended)
  | merge {s t u : Statistics R} (hs : Built s) (ht : Built t) (h : s.merge? t = .ok u) : Built u

theorem Built.uniform (h : Built s) : s.Uniform := by
  induction h with
  | empty kind => exact uniform_empty kind
  | record _ h ih =>
    obtain ⟨-, rfl⟩ := record?_eq_ok_iff.1 h
    exact uniform_record ih _ _ _
  | begin _ _ ih | finish _ _ ih | setInterval _ _ _ ih => exact ih
  | merge _ _ h ihs iht => exact uniform_of_merge? ihs iht h

/-! ### Figures of statistics -/

/-- The figures of statistics. -/
def figures (s : Statistics R) : Figures where
  begun := s.begun
  ended := s.ended
  known name := (s.operation? name).isSome
  requests name := (s.requestsOf name).toNat
  errors name := (s.errorsOf name).toNat
  largest name := if s.kind = .sketch then 0 else s.largestOf name

omit [Scalar R] in
theorem fits_figures (s : Statistics R) : s.figures.Fits := fun _ =>
  ⟨Nat.le_of_lt_succ (UInt64.toNat_lt _), Nat.le_of_lt_succ (UInt64.toNat_lt _)⟩

theorem figures_of_joins (h : s.Joins t u) (hk : s.kind = t.kind) (uniform : u.Uniform) :
    u.figures = s.figures + t.figures := by
  refine Figures.ext h.begun h.ended ?_ (funext h.requests) (funext h.errors) ?_ <;> funext name
  · have := h.names name
    simp only [OrderedMap.mem_keys_iff, ← Option.isSome_iff_exists] at this
    exact Bool.eq_iff_iff.2 (this.trans (Bool.or_eq_true ..).symm.to_iff)
  · show (if u.kind = .sketch then 0 else u.largestOf name) =
      max (if s.kind = .sketch then 0 else s.largestOf name)
        (if t.kind = .sketch then 0 else t.largestOf name)
    rw [← hk, ← h.kind]
    split
    · exact (max_word_zero 0).symm
    · next other => exact h.largest fun a found => (uniform name a found).kind_eq ▸ other

/-! ### Merging a list -/

/-- What merging a list into statistics comes to. -/
theorem foldlM_merge?_of_ok {l : List (Statistics R)} (hs : s.Uniform) (hl : ∀ c ∈ l, c.Uniform)
    (h : l.foldlM merge? s = .ok u) :
    (∀ c ∈ l, c.kind = s.kind) ∧ u.Uniform ∧ u.kind = s.kind ∧
      u.figures = s.figures + (l.map figures).sum := by
  induction l generalizing s with
  | nil =>
    cases h
    exact ⟨nofun, hs, rfl, by simp⟩
  | cons c r ih =>
    obtain ⟨hc, hr⟩ := List.forall_mem_cons.1 hl
    rw [List.foldlM_cons] at h
    cases merges : s.merge? c with
    | error e =>
      rw [merges] at h
      cases h
    | ok t =>
      rw [merges] at h
      obtain ⟨like, joins⟩ := joins_of_merge? merges
      have uniform := uniform_of_merge? hs hc merges
      obtain ⟨alike, all, kind, figures⟩ := ih uniform hr h
      rw [joins.kind] at alike kind
      refine ⟨List.forall_mem_cons.2 ⟨like.symm, alike⟩, all, kind, ?_⟩
      rw [figures, figures_of_joins joins like uniform, List.map_cons, List.sum_cons, add_assoc]

/-- In one kind merging fails only for lack of room. -/
theorem foldlM_merge?_of_kind {l : List (Statistics R)} (hs : s.Uniform)
    (hl : ∀ c ∈ l, c.Uniform ∧ c.kind = s.kind) :
    (∃ u, l.foldlM merge? s = .ok u) ∨
      l.foldlM merge? s = .error .overflow ∧ ¬ (s.figures + (l.map figures).sum).Fits := by
  induction l generalizing s with
  | nil => exact .inl ⟨s, rfl⟩
  | cons c r ih =>
    obtain ⟨⟨hc, like⟩, hr⟩ := List.forall_mem_cons.1 hl
    rw [List.foldlM_cons, List.map_cons, List.sum_cons, ← add_assoc]
    by_cases room : s.HasRoom c
    · obtain ⟨t, merges⟩ := merge?_of_kind hs hc like.symm room
      obtain ⟨-, joins⟩ := joins_of_merge? merges
      have uniform := uniform_of_merge? hs hc merges
      rw [merges, ← figures_of_joins joins like.symm uniform]
      exact ih uniform (joins.kind ▸ hr)
    · exact .inr ⟨by rw [merge?_of_full hs hc like.symm room]; rfl, fun fits => room fits.left⟩

/-- What merging a list comes to: nothing for the empty list, else statistics whose figures are the
sum. -/
structure Merged (kind : StatsKind) (l : List (Statistics R)) (u : Option (Statistics R)) :
    Prop where
  none : u = none ↔ l = []
  uniform : ∀ s ∈ u, s.Uniform
  kind : ∀ s ∈ u, s.kind = kind
  figures : (u.toList.map Statistics.figures).sum = (l.map Statistics.figures).sum

theorem mergeAll_of_ok {l : List (Statistics R)} {u : Option (Statistics R)}
    (hl : ∀ c ∈ l, c.Uniform) (h : mergeAll l = .ok u) :
    ∃ kind, (∀ c ∈ l, c.kind = kind) ∧ Merged kind l u := by
  cases l with
  | nil =>
    cases h
    exact ⟨.basic, nofun, by simp, nofun, nofun, rfl⟩
  | cons s r =>
    obtain ⟨hs, hr⟩ := List.forall_mem_cons.1 hl
    rw [mergeAll] at h
    cases merges : r.foldlM merge? s with
    | error e =>
      rw [merges] at h
      cases h
    | ok v =>
      rw [merges] at h
      cases h
      obtain ⟨alike, uniform, kind, figures⟩ := foldlM_merge?_of_ok hs hr merges
      exact ⟨s.kind, List.forall_mem_cons.2 ⟨rfl, alike⟩, by simp, by simpa using uniform,
        by simpa using kind, by simpa using figures⟩

/-- Merging statistics of one kind succeeds exactly if words have room for all counters together. -/
theorem mergeAll_of_kind {l : List (Statistics R)} (hl : ∀ c ∈ l, c.Uniform ∧ c.kind = kind) :
    ((l.map figures).sum.Fits → ∃ u, mergeAll l = .ok u ∧ Merged kind l u) ∧
      (¬ (l.map figures).sum.Fits → mergeAll l = .error .overflow) := by
  cases l with
  | nil =>
    exact ⟨fun _ => ⟨none, rfl, by simp, nofun, nofun, rfl⟩,
      fun full => absurd (fun _ => ⟨Nat.zero_le _, Nat.zero_le _⟩) full⟩
  | cons s r =>
    obtain ⟨⟨hs, hk⟩, hr⟩ := List.forall_mem_cons.1 hl
    subst hk
    rw [List.map_cons, List.sum_cons, mergeAll]
    rcases foldlM_merge?_of_kind hs hr with ⟨u, merges⟩ | ⟨fails, full⟩
    · obtain ⟨-, uniform, kind, figures⟩ := foldlM_merge?_of_ok hs (fun c hc => (hr c hc).1) merges
      refine ⟨fun _ => ⟨some u, by rw [merges]; rfl, by simp, by simpa using uniform,
        by simpa using kind, by simpa using figures⟩, fun full => absurd ?_ full⟩
      exact figures ▸ fits_figures u
    · exact ⟨fun fits => absurd fits full, fun _ => by rw [fails]; rfl⟩

/-- What is merged of statistics that come about comes about. -/
theorem Built.mergeAll {l : List (Statistics R)} {u : Option (Statistics R)}
    (hl : ∀ c ∈ l, c.Built) (h : mergeAll l = .ok u) : ∀ s ∈ u, s.Built := by
  have folded {s v : Statistics R} {r : List (Statistics R)} (hs : s.Built)
      (hr : ∀ c ∈ r, c.Built) (merges : r.foldlM merge? s = .ok v) : v.Built := by
    induction r generalizing s with
    | nil =>
      cases merges
      exact hs
    | cons c r ih =>
      obtain ⟨hc, hr⟩ := List.forall_mem_cons.1 hr
      rw [List.foldlM_cons] at merges
      cases one : s.merge? c with
      | error e =>
        rw [one] at merges
        cases merges
      | ok t =>
        rw [one] at merges
        exact ih (hs.merge hc one) hr merges
  cases l with
  | nil =>
    cases h
    exact nofun
  | cons s r =>
    obtain ⟨hs, hr⟩ := List.forall_mem_cons.1 hl
    rw [Statistics.mergeAll] at h
    cases merges : r.foldlM merge? s with
    | error e =>
      rw [merges] at h
      cases h
    | ok v =>
      rw [merges] at h
      cases h
      simpa using folded hs hr merges

/-! ### Merging groups first -/

theorem mapM_mergeAll {groups : List (List (Statistics R))}
    (h : ∀ g ∈ groups, ∀ c ∈ g, c.Uniform ∧ c.kind = kind)
    (fits : (groups.flatten.map figures).sum.Fits) :
    ∃ totals, groups.mapM mergeAll = .ok totals ∧
      (∀ s ∈ totals.filterMap id, s.Uniform ∧ s.kind = kind) ∧
      (totals.filterMap id = [] ↔ groups.flatten = []) ∧
      ((totals.filterMap id).map figures).sum = (groups.flatten.map figures).sum := by
  induction groups with
  | nil => exact ⟨[], rfl, by simp, by simp, rfl⟩
  | cons g r ih =>
    obtain ⟨hg, hr⟩ := List.forall_mem_cons.1 h
    rw [List.flatten_cons, List.map_append, List.sum_append] at fits
    obtain ⟨u, hu, first⟩ := (mergeAll_of_kind hg).1 fits.left
    obtain ⟨totals, ht, uniform, empty, sum⟩ := ih hr fits.right
    have together : (u :: totals).filterMap id = u.toList ++ totals.filterMap id := by
      cases u <;> rfl
    refine ⟨u :: totals, by rw [List.mapM_cons, hu, ht]; rfl, ?_, ?_, ?_⟩
    · rw [together]
      intro s hs
      rcases List.mem_append.1 hs with hs | hs
      · have hs : s ∈ u := by simpa using hs
        exact ⟨first.uniform s hs, first.kind s hs⟩
      · exact uniform s hs
    · rw [together, List.append_eq_nil_iff, List.flatten_cons, List.append_eq_nil_iff, empty,
        ← first.none, Option.toList_eq_nil_iff]
    · rw [together, List.map_append, List.sum_append, List.flatten_cons, List.map_append,
        List.sum_append, first.figures, sum]

/-! ### What a sum of figures says -/

/-- What is told about a list of statistics together. -/
structure Totals (l : List (Statistics R)) (u : Statistics R) : Prop where
  kind : ∀ c ∈ l, c.kind = u.kind
  names : ∀ name, name ∈ u.operations.keys ↔ ∃ c ∈ l, name ∈ c.operations.keys
  requests : ∀ name, (u.requestsOf name).toNat = (l.map fun c => (c.requestsOf name).toNat).sum
  errors : ∀ name, (u.errorsOf name).toNat = (l.map fun c => (c.errorsOf name).toNat).sum
  /-- The interval begins at the earliest begin that is set. -/
  begun : ∀ time, u.begun = some time ↔
    (∃ c ∈ l, c.begun = some time) ∧
      ∀ c ∈ l, ∀ other, c.begun = some other → time.nanos ≤ other.nanos
  /-- And it ends at the latest end that is set. -/
  ended : ∀ time, u.ended = some time ↔
    (∃ c ∈ l, c.ended = some time) ∧
      ∀ c ∈ l, ∀ other, c.ended = some other → other.nanos ≤ time.nanos
  largest : u.kind ≠ .sketch → ∀ name,
    (∃ c ∈ l, c.largestOf name = u.largestOf name) ∧
      ∀ c ∈ l, c.largestOf name ≤ u.largestOf name

omit [Scalar R] in
/-- A counter that adds up over two adds up over a list. -/
theorem counter_sum {f : Figures → Nat} (zero : f 0 = 0) (add : ∀ a b, f (a + b) = f a + f b)
    (l : List (Statistics R)) : f (l.map figures).sum = (l.map fun c => f c.figures).sum := by
  induction l with
  | nil => exact zero
  | cons c r ih => rw [List.map_cons, List.sum_cons, add, ih, List.map_cons, List.sum_cons]

omit [Scalar R] in
/-- What holds of two figures together exactly if it holds of one of them holds of a list together
exactly if it holds of one of them. -/
theorem exists_of_sum {p : Figures → Prop} (zero : ¬ p 0) (add : ∀ a b, p (a + b) ↔ p a ∨ p b)
    (l : List (Statistics R)) : p (l.map figures).sum ↔ ∃ c ∈ l, p c.figures := by
  induction l with
  | nil => simpa using zero
  | cons c r ih => rw [List.map_cons, List.sum_cons, add, ih, List.exists_mem_cons_iff]

/-- A word is the largest one of a list if whatever is less than it is less than one of them. -/
theorem eq_largest_of_lt_iff {ι : Type} {l : List ι} (filled : l ≠ []) {f : ι → UInt64}
    {largest : UInt64} (less : ∀ n, n < largest.toNat ↔ ∃ c ∈ l, n < (f c).toNat) :
    (∃ c ∈ l, f c = largest) ∧ ∀ c ∈ l, f c ≤ largest := by
  have upper (c : ι) (hc : c ∈ l) : f c ≤ largest :=
    UInt64.le_iff_toNat_le.2 (Nat.le_of_not_lt fun lt => lt_irrefl _ ((less _).2 ⟨c, hc, lt⟩))
  obtain ⟨c, hc, le⟩ : ∃ c ∈ l, largest.toNat ≤ (f c).toNat := by
    by_cases zero : largest.toNat = 0
    · obtain ⟨c, hc⟩ := List.exists_mem_of_ne_nil l filled
      exact ⟨c, hc, by omega⟩
    · obtain ⟨c, hc, lt⟩ := (less (largest.toNat - 1)).1 (by omega)
      exact ⟨c, hc, by omega⟩
  exact ⟨⟨c, hc, UInt64.le_antisymm (upper c hc) (UInt64.le_iff_toNat_le.2 le)⟩, upper⟩

omit [Scalar R] in
/-- A sum of figures says what `Totals` wants. -/
theorem Totals.of_figures {l : List (Statistics R)} (some : l ≠ [])
    (hl : ∀ c ∈ l, c.kind = u.kind) (h : u.figures = (l.map Statistics.figures).sum) :
    Totals l u := by
  refine
    { kind := hl
      names := fun name => ?_
      requests := fun name => ?_
      errors := fun name => ?_
      begun := fun time => ?_
      ended := fun time => ?_
      largest := fun other name => ?_ }
  · have := exists_of_sum (p := fun f => f.known name) Bool.false_ne_true
      (fun _ _ => Bool.or_eq_true_iff) l
    rw [← h] at this
    simp only [OrderedMap.mem_keys_iff, ← Option.isSome_iff_exists]
    exact this
  · have := counter_sum (f := fun f => f.requests name) rfl (fun _ _ => rfl) l
    rwa [← h] at this
  · have := counter_sum (f := fun f => f.errors name) rfl (fun _ _ => rfl) l
    rwa [← h] at this
  · refine eq_some_iff_extreme (· ≤ ·) (fun n => ?_) time
    have := exists_of_sum (p := fun f => ∃ t, f.begun = .some t ∧ t.nanos ≤ n)
      (fun ⟨_, unset, _⟩ => nomatch unset) (fun _ _ => earliest_le_iff) l
    rwa [← h] at this
  · refine eq_some_iff_extreme (· ≥ ·) (fun n => ?_) time
    have := exists_of_sum (p := fun f => ∃ t, f.ended = .some t ∧ n ≤ t.nanos)
      (fun ⟨_, unset, _⟩ => nomatch unset) (fun _ _ => le_latest_iff) l
    rwa [← h] at this
  · have whole (c : Statistics R) (hc : c.kind = u.kind) :
        c.figures.largest name = c.largestOf name := if_neg (hc ▸ other)
    -- whatever is less than the largest of the sum is less than the largest of one of them
    refine eq_largest_of_lt_iff some fun n => ?_
    have := exists_of_sum (p := fun f => n < (f.largest name).toNat) (Nat.not_lt_zero n)
      (fun a b => by rw [← lt_max_iff, ← toNat_max]; rfl) l
    rw [← h, whole u rfl] at this
    exact this.trans (exists_congr fun c => and_congr_right fun hc => by rw [whole c (hl c hc)])

/-! ### All ways to merge -/

/-- Words have room for the counters of each operation together. -/
def FitTogether (l : List RunStatistics) : Prop := ∀ name,
  (l.map fun c => (c.requestsOf name).toNat).sum ≤ wordMax ∧
    (l.map fun c => (c.errorsOf name).toNat).sum ≤ wordMax

theorem fits_sum_iff {l : List RunStatistics} : (l.map figures).sum.Fits ↔ FitTogether l := by
  refine forall_congr' fun name => ?_
  rw [counter_sum (f := fun f => f.requests name) rfl (fun _ _ => rfl) l,
    counter_sum (f := fun f => f.errors name) rfl (fun _ _ => rfl) l]
  exact Iff.rfl

/-- What merging comes to, told by the statistics that went in. -/
structure Totalled (l : List (Statistics R)) (u : Option (Statistics R)) : Prop where
  none : u = none ↔ l = []
  built : ∀ s ∈ u, s.Built
  totals : ∀ s ∈ u, Totals l s

theorem Merged.totalled {l p : List (Statistics R)} {u : Option (Statistics R)}
    (h : Merged kind p u) (built : ∀ s ∈ u, s.Built) (hp : p.Perm l)
    (hl : ∀ c ∈ l, c.kind = kind) : Totalled l u := by
  refine ⟨h.none.trans ⟨fun e => (e ▸ hp).nil_eq.symm, fun e => (e ▸ hp).eq_nil⟩, built, ?_⟩
  intro s hs
  refine .of_figures (fun e => ?_) (fun c hc => (hl c hc).trans (h.kind s hs).symm) ?_
  · rw [h.none.2 (e ▸ hp).eq_nil] at hs
    cases hs
  · have := h.figures
    rw [Option.mem_def.1 hs] at this
    rw [← (hp.map Statistics.figures).sum_eq, ← this]
    simp

/-- Merging the totals of groups comes to what merging all of them comes to. -/
theorem mergeAll_groups {groups : List (List (Statistics R))}
    (h : ∀ c ∈ groups.flatten, c.Uniform ∧ c.kind = kind)
    (fits : (groups.flatten.map figures).sum.Fits) :
    ∃ totals u, groups.mapM mergeAll = .ok totals ∧ mergeAll (totals.filterMap id) = .ok u ∧
      Merged kind groups.flatten u := by
  obtain ⟨totals, ht, uniform, empty, sum⟩ := mapM_mergeAll (fun g hg c hc =>
    h c (List.mem_flatten.2 ⟨g, hg, hc⟩)) fits
  obtain ⟨u, hu, merged⟩ := (mergeAll_of_kind uniform).1 (sum ▸ fits)
  exact ⟨totals, u, ht, hu, merged.none.trans empty, merged.uniform, merged.kind,
    merged.figures.trans sum⟩

/-- What groups of statistics that come about are merged to comes about. -/
theorem Built.mapM_mergeAll {groups : List (List (Statistics R))}
    {totals : List (Option (Statistics R))} (h : ∀ c ∈ groups.flatten, c.Built)
    (merges : groups.mapM Statistics.mergeAll = .ok totals) :
    ∀ s ∈ totals.filterMap id, s.Built := by
  induction groups generalizing totals with
  | nil =>
    cases merges
    exact nofun
  | cons g r ih =>
    obtain ⟨hg, hr⟩ := List.forall_mem_append.1 h
    rw [List.mapM_cons] at merges
    cases first : Statistics.mergeAll g with
    | error e =>
      rw [first] at merges
      cases merges
    | ok u =>
      cases rest : r.mapM Statistics.mergeAll with
      | error e =>
        rw [first, rest] at merges
        cases merges
      | ok totals =>
        rw [first, rest] at merges
        cases merges
        have own := Built.mergeAll hg first
        have others := ih hr rest
        cases u with
        | none => exact others
        | some u => exact List.forall_mem_cons.2 ⟨own u rfl, others⟩

/-- Statistics can be merged with themselves again and again, as long as there is room. -/
theorem exists_doubled {c : Statistics R} (built : c.Built) {n : Nat}
    (fits : ∀ name, 2 ^ n * (c.requestsOf name).toNat ≤ wordMax ∧
      2 ^ n * (c.errorsOf name).toNat ≤ wordMax) :
    ∃ d : Statistics R, d.Built ∧ ∀ name,
      (d.requestsOf name).toNat = 2 ^ n * (c.requestsOf name).toNat ∧
        (d.errorsOf name).toNat = 2 ^ n * (c.errorsOf name).toNat := by
  induction n with
  | zero => exact ⟨c, built, fun name => ⟨(Nat.one_mul _).symm, (Nat.one_mul _).symm⟩⟩
  | succ n ih =>
    have twice (k : Nat) : 2 ^ (n + 1) * k = 2 ^ n * k + 2 ^ n * k := by ring
    simp only [twice] at fits ⊢
    obtain ⟨d, hd, counts⟩ := ih fun name =>
      ⟨(Nat.le_add_right ..).trans (fits name).1, (Nat.le_add_right ..).trans (fits name).2⟩
    have room : d.HasRoom d := fun name => by
      rw [(counts name).1, (counts name).2]
      exact fits name
    obtain ⟨u, merges⟩ := merge?_of_kind hd.uniform hd.uniform rfl room
    obtain ⟨-, joins⟩ := joins_of_merge? merges
    refine ⟨u, hd.merge hd merges, fun name => ?_⟩
    rw [joins.requests, joins.errors, (counts name).1, (counts name).2]
    exact ⟨rfl, rfl⟩

end Statistics

/-- The totals of the workers of an iteration, worker by worker. -/
theorem TestIteration.mapM_workerStatistics? (i : TestIteration) :
    i.statistics.keys.mapM i.workerStatistics? = i.statistics.values.mapM Statistics.mergeAll := by
  have known : ∀ entries : List (WorkerIndex × List RunStatistics),
      (∀ e ∈ entries, i.statistics.find? e.1 = some e.2) →
        (entries.map (·.1)).mapM i.workerStatistics? =
          (entries.map (·.2)).mapM Statistics.mergeAll := by
    intro entries he
    induction entries with
    | nil => rfl
    | cons e r ih =>
      obtain ⟨first, rest⟩ := List.forall_mem_cons.1 he
      rw [List.map_cons, List.map_cons, List.mapM_cons, List.mapM_cons, ih rest, workerStatistics?,
        first]
  exact known _ fun e he => OrderedMap.find?_eq_some_iff.2 he

namespace Statistics

/-- **Merging depends neither on order nor on grouping.** Merging fails exactly if the statistics
are of different kinds or words have no room for the counters of an operation together, which is an
overflow. Else all at once in any order, sublists first, or the stressors of each worker first, it
comes to the totals of the statistics that went in. -/
theorem mergeAll_totals {l : List RunStatistics} (built : ∀ c ∈ l, c.Built) :
    ((∃ e, mergeAll l = .error e) ↔
      (∃ a ∈ l, ∃ b ∈ l, a.kind ≠ b.kind) ∨ ¬ FitTogether l) ∧
    ((∀ a ∈ l, ∀ b ∈ l, a.kind = b.kind) → ¬ FitTogether l →
      ∀ p : List RunStatistics, p.Perm l → mergeAll p = .error .overflow) ∧
    ((∀ a ∈ l, ∀ b ∈ l, a.kind = b.kind) → FitTogether l →
      (∀ p : List RunStatistics, p.Perm l → ∃ u, mergeAll p = .ok u ∧ Totalled l u) ∧
      (∀ groups : List (List RunStatistics), groups.flatten.Perm l →
        ∃ totals u, groups.mapM mergeAll = .ok totals ∧ mergeAll (totals.filterMap id) = .ok u ∧
          Totalled l u) ∧
      ∀ i : TestIteration, i.statistics.values.flatten.Perm l →
        ∃ totals u v, i.statistics.keys.mapM i.workerStatistics? = .ok totals ∧
          mergeAll (totals.filterMap id) = .ok u ∧ i.mergedStatistics? = .ok v ∧
          Totalled l u ∧ Totalled l v) := by
  have uniform : ∀ c ∈ l, c.Uniform := fun c hc => (built c hc).uniform
  -- the sum of the figures is that of any order
  have sum {p : List RunStatistics} (hp : p.Perm l) :
      (p.map figures).sum.Fits ↔ FitTogether l := by
    rw [(hp.map figures).sum_eq, fits_sum_iff]
  have alike (like : ∀ a ∈ l, ∀ b ∈ l, a.kind = b.kind) : ∃ kind, ∀ c ∈ l, c.kind = kind := by
    cases l with
    | nil => exact ⟨.basic, nofun⟩
    | cons s r => exact ⟨s.kind, fun c hc => like c hc s (.head _)⟩
  have whole {kind : StatsKind} (hk : ∀ c ∈ l, c.kind = kind) {p : List RunStatistics}
      (hp : p.Perm l) : ∀ c ∈ p, c.Uniform ∧ c.kind = kind := fun c hc =>
    ⟨uniform c (hp.mem_iff.1 hc), hk c (hp.mem_iff.1 hc)⟩
  refine ⟨⟨?_, ?_⟩, fun like full p hp => ?_, fun like fits => ?_⟩
  · rintro ⟨e, fails⟩
    refine or_iff_not_imp_left.2 fun like fits => ?_
    push Not at like
    obtain ⟨kind, hk⟩ := alike like
    obtain ⟨u, merges, -⟩ := (mergeAll_of_kind (whole hk (.refl l))).1 ((sum (.refl l)).2 fits)
    cases merges.symm.trans fails
  · intro reason
    cases merges : mergeAll l with
    | error e => exact ⟨e, rfl⟩
    | ok u =>
      obtain ⟨kind, hk, merged⟩ := mergeAll_of_ok uniform merges
      rcases reason with ⟨a, ha, b, hb, unlike⟩ | full
      · exact absurd ((hk a ha).trans (hk b hb).symm) unlike
      · by_contra
        rw [(mergeAll_of_kind (whole hk (.refl l))).2 (mt (sum (.refl l)).1 full)] at merges
        cases merges
  · obtain ⟨kind, hk⟩ := alike like
    exact (mergeAll_of_kind (whole hk hp)).2 (mt (sum hp).1 full)
  · obtain ⟨kind, hk⟩ := alike like
    have member {p : List RunStatistics} (hp : p.Perm l) : ∀ c ∈ p, c.Built := fun c hc =>
      built c (hp.mem_iff.1 hc)
    have once (p : List RunStatistics) (hp : p.Perm l) :
        ∃ u, mergeAll p = .ok u ∧ Totalled l u := by
      obtain ⟨u, hu, merged⟩ := (mergeAll_of_kind (whole hk hp)).1 ((sum hp).2 fits)
      exact ⟨u, hu, merged.totalled (Built.mergeAll (member hp) hu) hp hk⟩
    have grouped (groups : List (List RunStatistics)) (hp : groups.flatten.Perm l) :
        ∃ totals u, groups.mapM mergeAll = .ok totals ∧
          mergeAll (totals.filterMap id) = .ok u ∧ Totalled l u := by
      obtain ⟨totals, u, ht, hu, merged⟩ := mergeAll_groups (whole hk hp) ((sum hp).2 fits)
      have comes := Built.mergeAll (Built.mapM_mergeAll (member hp) ht) hu
      exact ⟨totals, u, ht, hu, merged.totalled comes hp hk⟩
    refine ⟨once, grouped, fun i hp => ?_⟩
    obtain ⟨totals, u, ht, hu, first⟩ := grouped _ hp
    obtain ⟨v, hv, second⟩ := once _ hp
    exact ⟨totals, u, v, (i.mapM_workerStatistics?).trans ht, hu, hv, first, second⟩

/-- Three stressors, two of which recorded the same operation, and the last of which is merged with
the first. -/
theorem mergeAll_totals_three :
    let a : RunStatistics := (empty .basic).record "GET" (.ofNanos 5) true
    let b : RunStatistics := ((empty .basic).record "GET" (.ofNanos 9) false).setInterval
      (.ofNanos 3) (.ofNanos 8)
    let c : RunStatistics := ((empty .basic).record "PUT" (.ofNanos 4) true).setInterval
      (.ofNanos 2) (.ofNanos 7)
    ∃ totals u, [[c, a], [b]].mapM mergeAll = .ok totals ∧
      mergeAll (totals.filterMap id) = .ok (some u) ∧ "PUT" ∈ u.operations.keys ∧
      (u.requestsOf "GET").toNat = 2 ∧ (u.errorsOf "GET").toNat = 1 ∧
      u.begun = some (.ofNanos 2) ∧ u.ended = some (.ofNanos 8) ∧ u.largestOf "GET" = 9 := by
  intro a b c
  have one (operation : String) (latency : Span) (success : Bool) :
      ((empty .basic).record operation latency success : RunStatistics).Built :=
    .record (.empty _) (record?_of_few _ _ _ _ (by rw [requestsOf_empty]; decide)
      (by rw [errorsOf_empty]; decide))
  have built : ∀ s ∈ [a, b, c], s.Built := by
    simp only [List.forall_mem_cons, List.not_mem_nil, false_implies, implies_true, and_true]
    exact ⟨one .., .setInterval (one ..) _ _, .setInterval (one ..) _ _⟩
  have basic : ∀ s ∈ [a, b, c], s.kind = .basic := by
    simp only [List.forall_mem_cons, List.not_mem_nil, false_implies, implies_true, and_true]
    exact ⟨rfl, rfl, rfl⟩
  have fits : FitTogether [a, b, c] := fun name => by
    have ha := counts_of_one (R := Float) "GET" (.ofNanos 5) true name .basic
    have hb := counts_of_one (R := Float) "GET" (.ofNanos 9) false name .basic
    have hc := counts_of_one (R := Float) "PUT" (.ofNanos 4) true name .basic
    refine ⟨le_trans (b := 3) ?_ (by decide), le_trans (b := 3) ?_ (by decide)⟩
    · exact Nat.add_le_add ha.1 (Nat.add_le_add hb.1 (Nat.add_le_add hc.1 le_rfl))
    · exact Nat.add_le_add ha.2 (Nat.add_le_add hb.2 (Nat.add_le_add hc.2 le_rfl))
  obtain ⟨-, groups, -⟩ := (mergeAll_totals built).2.2 (fun s hs t ht =>
    (basic s hs).trans (basic t ht).symm) fits
  obtain ⟨totals, u, ht, hu, h⟩ := groups [[c, a], [b]]
    (.trans (.swap a c [b]) (.cons a (.swap b c [])))
  cases u with
  | none => cases h.none.1 rfl
  | some u =>
    have h := h.totals u rfl
    have other : u.kind ≠ .sketch := by
      rw [← h.kind a (.head _)]
      nofun
    obtain ⟨⟨s, hs, attained⟩, upper⟩ := h.largest other "GET"
    have least : ∀ s ∈ [a, b, c], s.largestOf "GET" ≤ 9 := by decide
    exact ⟨totals, u, ht, hu, (h.names _).2 ⟨c, by simp, by decide⟩,
      (h.requests _).trans (by decide), (h.errors _).trans (by decide),
      (h.begun _).2 ⟨⟨c, by simp, rfl⟩, by decide⟩, (h.ended _).2 ⟨⟨b, by simp, rfl⟩, by decide⟩,
      UInt64.le_antisymm (attained ▸ least s hs) (upper b (by simp))⟩

/-- **Statistics of one kind that cannot be merged.** They count `2 ^ 63` requests, and the sum of
twice that many is no word. -/
theorem mergeAll_overflows : ∃ c : RunStatistics, c.Built ∧
    (c.requestsOf "GET").toNat = 2 ^ 63 ∧ mergeAll [c, c] = .error .overflow := by
  let one : RunStatistics := (empty .basic).record "GET" (.ofNanos 1000) true
  have recorded : one.Built := .record (.empty _) (record?_of_few _ _ _ _ (by decide) (by decide))
  obtain ⟨c, built, counts⟩ := exists_doubled (n := 63) recorded fun name => by
    obtain ⟨requests, errors⟩ := counts_of_one (R := Float) "GET" (.ofNanos 1000) true name .basic
    exact ⟨(Nat.mul_le_mul_left _ requests).trans (by decide),
      (Nat.mul_le_mul_left _ errors).trans (by decide)⟩
  have many : (c.requestsOf "GET").toNat = 2 ^ 63 := (counts "GET").1
  have full : ¬ c.HasRoom c := fun room => by
    have := (room "GET").1
    rw [many] at this
    exact absurd this (by decide)
  refine ⟨c, built, many, ?_⟩
  rw [mergeAll, List.foldlM_cons, merge?_of_full built.uniform built.uniform rfl full]
  rfl

end Statistics

end LoadFleet
