import LoadFleet.Proofs.Summaries
import LoadFleet.Stats.Statistics
/-!
# Merging two statistics

A merge that succeeds joins, operation by operation, the counters of both sides: they add up, for a
sum that is no word makes it fail.  Statistics that come about by recording and merging keep all
accumulators in the kind of the statistics, and all sketches in one configuration
(`Statistics.Uniform`).  So merging two of them succeeds exactly if their kinds are the same and
words have room for all counters together.

* `Accumulator.joins_of_merge?`: counters of accumulators add up wherever those merge.
* `Accumulator.merge?_of_like`: two accumulators of one kind merge if there is room.
* `Statistics.mergeOperation_cases`: one operation is merged in, or does not merge.
* `Statistics.mergeOperations_cases`: by induction over the operations that are merged in, all of
  them are, or those in front of the first one that does not merge.
* `Statistics.joins_of_merge?`: what a merge that succeeds leaves, of any statistics.
* `Statistics.merge?_cases`, `Statistics.merge?_eq_ok_iff`: the main statements.
-/

namespace LoadFleet

/-! ### Sketches -/

namespace BinStore

variable (s t : BinStore)

@[simp] theorem count_bump (index : Nat) (n : UInt64) : (s.bump index n).count = s.count := rfl

@[simp] theorem count_slide (shift : Int) : (s.slide shift).count = s.count := rfl

@[simp] theorem count_center (low high : Int) : (s.center low high).count = s.count := rfl

@[simp] theorem count_adjust (low high : Int) : (s.adjust low high).count = s.count := by
  simp only [adjust]
  split
  · split
    · rfl
    · split <;> rfl
  · rfl

@[simp] theorem count_extend (first second : Int) : (s.extend first second).count = s.count := by
  simp only [extend]
  split
  · simp
  · split
    · rfl
    · simp

theorem count_foldl_bump (keys : List Int) (index : BinStore → Int → Nat) (n : Int → UInt64) :
    (keys.foldl (fun s key => s.bump (index s key) (n key)) s).count = s.count := by
  induction keys generalizing s with
  | nil => rfl
  | cons key r ih => exact (ih _).trans (count_bump s _ _)

theorem count_merge : (s.merge t).count = s.count + t.count := by
  simp only [merge]
  split
  · next h => simp [h]
  · split
    · next h => simp [h]
    · rw [count_foldl_bump _ _ (fun s key => (key - s.offset).toNat)]
      split <;> split <;> simp

theorem count_add (key : Int) : (s.add key).count = s.count + 1 := by
  simp only [add]
  split
  · split <;> simp
  · split <;> simp

end BinStore

namespace Sketch

variable {s t u : Sketch}

@[simp] theorem config_empty : empty.config = .standard := rfl

@[simp] theorem config_add (x : Float) : (s.add x).config = s.config := by
  simp only [add]
  split
  · rfl
  · split <;> rfl

/-- Every value counts once. -/
theorem count_add (x : Float) : (s.add x).count = s.count + 1 := by
  simp only [add, count]
  split
  · rw [BinStore.count_add]
    ac_rfl
  · split
    · rw [BinStore.count_add]
      ac_rfl
    · dsimp only
      ac_rfl

theorem standard_same : SketchConfig.standard.same .standard = true := by decide

theorem count_merge? (h : s.merge? t = .ok u) : u.count = s.count + t.count := by
  rw [merge?] at h
  split at h
  · cases h
    simp only [count, BinStore.count_merge]
    ac_rfl
  · cases h

/-- Sketches of the standard configuration merge. -/
theorem merge?_of_standard (hs : s.config = .standard) (ht : t.config = .standard) :
    ∃ u, s.merge? t = .ok u ∧ u.config = .standard := by
  rw [merge?, if_pos (by rw [hs, ht, standard_same])]
  exact ⟨_, rfl, hs⟩

end Sketch

/-! ### Accumulators -/

theorem max_word_zero (n : UInt64) : max n 0 = n := UInt64.toNat_inj.1 (by simp [toNat_max])

theorem max_word_comm (m n : UInt64) : max m n = max n m :=
  UInt64.toNat_inj.1 (by simp only [toNat_max, Nat.max_comm])

theorem max_word_assoc (k m n : UInt64) : max (max k m) n = max k (max m n) :=
  UInt64.toNat_inj.1 (by simp only [toNat_max, Nat.max_assoc])

theorem zero_max_word (n : UInt64) : max 0 n = n := (max_word_comm 0 n).trans (max_word_zero n)

namespace Samples

variable (s t : Samples)

theorem largest_merge : (s.merge t).largest = max s.largest t.largest := by
  have assoc : Std.Associative (max : UInt64 → UInt64 → UInt64) := ⟨max_word_assoc⟩
  calc (s.merge t).largest
    _ = t.toList.foldl max s.largest := by
      simp [largest, merge, toList]
    _ = t.toList.foldl max (max s.largest 0) := by rw [max_word_zero]
    _ = max s.largest t.largest := List.foldl_assoc

end Samples

namespace Accumulator

variable {R : Type} [Scalar R] {a b c : Accumulator R} {kind : StatsKind}

omit [Scalar R] in
/-- The accumulator is of a kind, and a sketch is in the standard configuration. -/
inductive IsOf : StatsKind → Accumulator R → Prop where
  | basic (m : Moments R) : IsOf .basic (.basic m)
  | recording (s : Samples) : IsOf .recording (.recording s)
  | sketch (s : Sketch) (errors : UInt64) (standard : s.config = .standard) :
    IsOf .sketch (.sketch s errors)

theorem IsOf.empty (kind : StatsKind) : IsOf kind (.empty kind : Accumulator R) := by
  cases kind with
  | basic => exact .basic _
  | recording => exact .recording _
  | sketch => exact .sketch _ _ rfl

theorem IsOf.record (h : IsOf kind a) (latency : Span) (success : Bool) :
    IsOf kind (a.record latency success) := by
  cases h with
  | basic m => exact .basic _
  | recording s => exact .recording _
  | sketch s errors standard => exact .sketch _ _ (by simpa using standard)

omit [Scalar R] in
theorem IsOf.kind_eq (h : IsOf kind a) : a.kind = kind := by cases h <;> rfl

/-! #### Room -/

theorem record?_eq_ok_iff {latency : Span} {success : Bool} : a.record? latency success = .ok b ↔
    a.HasRoom 1 (if success then 0 else 1) ∧ a.record latency success = b := by
  rw [record?]
  by_cases room : a.HasRoom 1 (if success then 0 else 1)
  · rw [if_pos room, Except.ok.injEq, and_iff_right room]
  · simp [room]

theorem merge?_eq_ok_iff : a.merge? b = .ok c ↔
    a.combine? b = .ok c ∧ a.HasRoom b.requests.toNat b.errors.toNat := by
  rw [merge?]
  cases a.combine? b with
  | error e => simp [Except.bind]
  | ok d =>
    show (if _ then _ else _) = _ ↔ _
    split <;> simp [*]

/-- Accumulators that would go together fail to if there is no room. -/
theorem merge?_of_full (h : a.combine? b = .ok c)
    (full : ¬ a.HasRoom b.requests.toNat b.errors.toNat) : a.merge? b = .error .overflow := by
  rw [merge?, h]
  exact if_neg full

/-- The counters of an accumulator are those of two others together. -/
structure Joins (a b c : Accumulator R) : Prop where
  requests : c.requests.toNat = a.requests.toNat + b.requests.toNat
  errors : c.errors.toNat = a.errors.toNat + b.errors.toNat
  largest : c.kind ≠ .sketch → c.largest = max a.largest b.largest

/-- Counters of accumulators that go together are added as words. -/
theorem counters_of_combine? (h : a.combine? b = .ok c) :
    c.requests = a.requests + b.requests ∧ c.errors = a.errors + b.errors ∧
      (c.kind ≠ .sketch → c.largest = max a.largest b.largest) := by
  rcases a with m | s | ⟨s, errors⟩ <;> rcases b with n | t | ⟨t, others⟩ <;> try cases h
  · exact ⟨rfl, rfl, fun _ => rfl⟩
  · refine ⟨?_, rfl, fun _ => Samples.largest_merge s t⟩
    simp [requests, Samples.count, Samples.merge]
  · rw [combine?] at h
    cases merged : s.merge? t with
    | error e =>
      rw [merged] at h
      cases h
    | ok u =>
      rw [merged] at h
      cases h
      exact ⟨Sketch.count_merge? merged, rfl, fun other => absurd rfl other⟩

/-- Counters of accumulators add up wherever those merge. -/
theorem joins_of_merge? (h : a.merge? b = .ok c) : a.Joins b c := by
  obtain ⟨together, room⟩ := merge?_eq_ok_iff.1 h
  obtain ⟨requests, errors, largest⟩ := counters_of_combine? together
  exact ⟨by rw [requests, toNat_add_of_le room.1], by rw [errors, toNat_add_of_le room.2], largest⟩

/-- Accumulators of one kind go together. -/
theorem combine?_of_like (ha : IsOf kind a) (hb : IsOf kind b) :
    ∃ c, a.combine? b = .ok c ∧ IsOf kind c := by
  cases ha with
  | basic m =>
    obtain ⟨n⟩ := hb
    exact ⟨_, rfl, .basic _⟩
  | recording s =>
    obtain ⟨⟩ | ⟨t⟩ := hb
    exact ⟨_, rfl, .recording _⟩
  | sketch s errors standard =>
    obtain _ | _ | ⟨t, others, standard'⟩ := hb
    obtain ⟨u, hu, config⟩ := Sketch.merge?_of_standard standard standard'
    exact ⟨.sketch u (errors + others), by rw [combine?, hu]; rfl, .sketch _ _ config⟩

theorem IsOf.merge? (ha : IsOf kind a) (hb : IsOf kind b) (h : a.merge? b = .ok c) :
    IsOf kind c := by
  obtain ⟨d, together, like⟩ := combine?_of_like ha hb
  cases together.symm.trans (merge?_eq_ok_iff.1 h).1
  exact like

/-- Accumulators of one kind merge if there is room. -/
theorem merge?_of_like (ha : IsOf kind a) (hb : IsOf kind b)
    (room : a.HasRoom b.requests.toNat b.errors.toNat) :
    ∃ c, a.merge? b = .ok c ∧ IsOf kind c := by
  obtain ⟨c, together, like⟩ := combine?_of_like ha hb
  exact ⟨c, merge?_eq_ok_iff.2 ⟨together, room⟩, like⟩

/-- And they fail to only if there is none. -/
theorem eq_overflow_of_merge? (ha : IsOf kind a) (hb : IsOf kind b) {e : StatsError}
    (h : a.merge? b = .error e) : e = .overflow := by
  obtain ⟨c, together, -⟩ := combine?_of_like ha hb
  by_cases room : a.HasRoom b.requests.toNat b.errors.toNat
  · cases (merge?_eq_ok_iff.2 ⟨together, room⟩).symm.trans h
  · cases (merge?_of_full together room).symm.trans h
    rfl

end Accumulator

/-! ### Statistics -/

namespace Statistics

variable {R : Type} [Scalar R] {s t u : Statistics R}

omit [Scalar R] in
/-- All accumulators are of the kind of the statistics. -/
def Uniform (s : Statistics R) : Prop := ∀ name a, s.operation? name = some a → a.IsOf s.kind

omit [Scalar R] in
/-- The number of requests of an operation. -/
def requestsOf (s : Statistics R) (name : String) : UInt64 :=
  ((s.operation? name).map Accumulator.requests).getD 0

omit [Scalar R] in
/-- The number of failed requests of an operation. -/
def errorsOf (s : Statistics R) (name : String) : UInt64 :=
  ((s.operation? name).map Accumulator.errors).getD 0

omit [Scalar R] in
/-- The largest latency of an operation. -/
def largestOf (s : Statistics R) (name : String) : UInt64 :=
  ((s.operation? name).map Accumulator.largest).getD 0

omit [Scalar R] in
theorem toNat_requestsOf (s : Statistics R) (name : String) :
    (s.requestsOf name).toNat = ((s.operation? name).map fun a => a.requests.toNat).getD 0 := by
  rw [requestsOf]
  cases s.operation? name <;> rfl

omit [Scalar R] in
theorem toNat_errorsOf (s : Statistics R) (name : String) :
    (s.errorsOf name).toNat = ((s.operation? name).map fun a => a.errors.toNat).getD 0 := by
  rw [errorsOf]
  cases s.operation? name <;> rfl

omit [Scalar R] in
theorem uniform_empty (kind : StatsKind) : (empty kind : Statistics R).Uniform :=
  fun name _ ha => nomatch (OrderedMap.find?_empty name).symm.trans ha

theorem isOf_target (h : s.Uniform) (operation : String) : (s.target operation).IsOf s.kind := by
  rw [target]
  cases known : s.operations.find? operation with
  | none => exact .empty s.kind
  | some a => exact h operation a known

theorem uniform_record (h : s.Uniform) (operation : String) (latency : Span) (success : Bool) :
    (s.record operation latency success).Uniform := by
  intro name a ha
  rw [operation?, record, OrderedMap.find?_insert] at ha
  split at ha
  · cases ha
    exact (isOf_target h operation).record latency success
  · exact h name a ha

theorem record?_eq_ok_iff {operation : String} {latency : Span} {success : Bool} :
    s.record? operation latency success = .ok t ↔
      (s.target operation).HasRoom 1 (if success then 0 else 1) ∧
        s.record operation latency success = t := by
  rw [record?, Accumulator.record?]
  by_cases room : (s.target operation).HasRoom 1 (if success then 0 else 1)
  · rw [if_pos room, Except.map, Except.ok.injEq, and_iff_right room]
    rfl
  · simp [room, Except.map]

/-! #### The operations of both sides -/

/-- What two sides have of an operation, together. -/
def joined (a b : Option (Accumulator R)) : Option (Accumulator R) :=
  match a, b with
  | some a, some b => (a.merge? b).toOption
  | some a, none => some a
  | none, b => b

/-- Two accumulators can be merged, if they are there. -/
def Mergeable (a b : Option (Accumulator R)) : Prop :=
  ∀ x y, a = some x → b = some y → ∃ z, x.merge? y = .ok z

theorem mergeable_none (a : Option (Accumulator R)) : Mergeable a none := by
  rintro _ _ _ ⟨⟩

theorem none_mergeable (b : Option (Accumulator R)) : Mergeable none b := by
  rintro _ _ ⟨⟩

/-- A figure of which nothing is there counts as zero adds up over both sides, if it does so where
accumulators merge. -/
theorem figure_joined {α : Type} {f : Accumulator R → α} {zero : α} {op : α → α → α}
    (zero_right : ∀ n, op n zero = n) (zero_left : ∀ n, op zero n = n)
    {a b : Option (Accumulator R)} (h : Mergeable a b)
    (law : ∀ x y z, joined a b = some z → x.Joins y z → f z = op (f x) (f y)) :
    ((joined a b).map f).getD zero = op ((a.map f).getD zero) ((b.map f).getD zero) := by
  cases a with
  | none => cases b <;> simp [joined, zero_left]
  | some x =>
    cases b with
    | none => simp [joined, zero_right]
    | some y =>
      obtain ⟨z, hz⟩ := h x y rfl rfl
      have both : joined (some x) (some y) = some z := by simp [joined, hz, Except.toOption]
      simpa [both] using law x y z both (Accumulator.joins_of_merge? hz)

theorem isSome_joined {a b : Option (Accumulator R)} (h : Mergeable a b) :
    (joined a b).isSome ↔ a.isSome ∨ b.isSome := by
  cases a with
  | none => cases b <;> simp [joined]
  | some x =>
    cases b with
    | none => simp [joined]
    | some y =>
      obtain ⟨z, hz⟩ := h x y rfl rfl
      simp [joined, hz, Except.toOption]

theorem isOf_joined {kind : StatsKind} {a b : Option (Accumulator R)}
    (ha : ∀ x, a = some x → x.IsOf kind) (hb : ∀ y, b = some y → y.IsOf kind) :
    ∀ z, joined a b = some z → z.IsOf kind := by
  intro z hz
  cases a with
  | none => exact hb z hz
  | some x =>
    cases b with
    | none => exact ha z hz
    | some y =>
      have merged : x.merge? y = .ok z := by
        cases merged : x.merge? y <;> simp [joined, merged, Except.toOption] at hz
        rw [hz]
      exact (ha x rfl).merge? (hb y rfl) merged

/-- One operation is merged in, or there is such an operation already, and the two do not merge. -/
theorem mergeOperation_cases (operations : OrderedMap String (Accumulator R)) (name : String)
    (theirs : Accumulator R) :
    (Mergeable (operations.find? name) (some theirs) ∧
      ∃ merged, mergeOperation operations name theirs = .ok merged ∧
        ∀ other, merged.find? other =
          if other = name then joined (operations.find? name) (some theirs)
          else operations.find? other) ∨
    ∃ ours e, operations.find? name = some ours ∧ ours.merge? theirs = .error e ∧
      mergeOperation operations name theirs = .error e := by
  rw [mergeOperation]
  cases known : operations.find? name with
  | none =>
    refine .inl ⟨none_mergeable _, _, rfl, fun other => ?_⟩
    rw [OrderedMap.find?_insert]
    simp [joined]
  | some ours =>
    cases merges : ours.merge? theirs with
    | ok c =>
      refine .inl ⟨?_, operations.insert name c, by simp only [merges]; rfl, fun other => ?_⟩
      · rintro _ _ ⟨⟩ ⟨⟩
        exact ⟨c, merges⟩
      · rw [OrderedMap.find?_insert]
        simp [joined, merges, Except.toOption]
    | error e => exact .inr ⟨ours, e, rfl, merges, by simp only [merges]; rfl⟩

omit [Scalar R] in
theorem lookup_cons {name k : String} {a : Accumulator R} {r : List (String × Accumulator R)} :
    OrderedMap.lookup name ((k, a) :: r) =
      if name = k then some a else OrderedMap.lookup name r := by
  simp [OrderedMap.lookup]

omit [Scalar R] in
theorem lookup_eq_none {name : String} {l : List (String × Accumulator R)}
    (h : name ∉ l.map (·.1)) : OrderedMap.lookup name l = none := by
  induction l with
  | nil => rfl
  | cons e r ih =>
    simp only [List.map_cons, List.mem_cons, not_or] at h
    rw [lookup_cons, if_neg h.1, ih h.2]

/-- A list of operations is merged in: there is of each operation what there was of it, together
with what the list has of it. -/
def Absorbs (operations : OrderedMap String (Accumulator R)) (l : List (String × Accumulator R))
    (merged : OrderedMap String (Accumulator R)) : Prop :=
  ∀ name, Mergeable (operations.find? name) (OrderedMap.lookup name l) ∧
    merged.find? name = joined (operations.find? name) (OrderedMap.lookup name l)

theorem absorbs_nil (operations : OrderedMap String (Accumulator R)) :
    Absorbs operations [] operations := fun name =>
  ⟨mergeable_none _, by cases operations.find? name <;> rfl⟩

/-- One operation, and then the others, which are still as they were. -/
theorem Absorbs.cons {operations first merged : OrderedMap String (Accumulator R)} {k : String}
    {theirs : Accumulator R} {r : List (String × Accumulator R)} (rest : Absorbs first r merged)
    (new : k ∉ r.map (·.1)) (fits : Mergeable (operations.find? k) (some theirs))
    (found : ∀ other, first.find? other =
      if other = k then joined (operations.find? k) (some theirs) else operations.find? other) :
    Absorbs operations ((k, theirs) :: r) merged := fun name => by
  obtain ⟨mergeable, holds⟩ := rest name
  rw [found] at mergeable holds
  rw [lookup_cons]
  by_cases here : name = k
  · subst here
    rw [if_pos rfl, lookup_eq_none new] at holds
    rw [if_pos rfl, holds]
    refine ⟨fits, ?_⟩
    cases joined (operations.find? name) (some theirs) <;> rfl
  · rw [if_neg here] at mergeable holds ⊢
    exact ⟨mergeable, holds⟩

/-- **Operations of different names are all merged in**, or those in front of the first one that
does not merge. -/
theorem mergeOperations_cases {l : List (String × Accumulator R)} (distinct : (l.map (·.1)).Nodup)
    (operations : OrderedMap String (Accumulator R)) :
    (∃ merged, mergeOperations operations l = (merged, .ok ()) ∧ Absorbs operations l merged) ∨
    ∃ before name ours theirs after merged e, l = before ++ (name, theirs) :: after ∧
      operations.find? name = some ours ∧ ours.merge? theirs = .error e ∧
      mergeOperations operations l = (merged, .error e) ∧ Absorbs operations before merged := by
  induction l generalizing operations with
  | nil => exact .inl ⟨operations, rfl, absorbs_nil operations⟩
  | cons x r ih =>
    obtain ⟨k, theirs⟩ := x
    obtain ⟨new, distinct⟩ := List.nodup_cons.1 distinct
    rw [mergeOperations]
    rcases mergeOperation_cases operations k theirs with
      ⟨fits, first, merges, found⟩ | ⟨ours, e, known, unmerged, fails⟩
    · simp only [merges]
      rcases ih distinct first with ⟨merged, all, absorbs⟩ |
        ⟨before, name, ours, theirs', after, merged, e, rfl, known, unmerged, fails, absorbs⟩
      · exact .inl ⟨merged, all, absorbs.cons new fits found⟩
      · simp only [List.map_append, List.map_cons, List.mem_append, List.mem_cons, not_or] at new
        rw [found, if_neg (Ne.symm new.2.1)] at known
        exact .inr ⟨(k, theirs) :: before, name, ours, theirs', after, merged, e, rfl, known,
          unmerged, fails, absorbs.cons new.1 fits found⟩
    · simp only [fails]
      exact .inr ⟨[], k, ours, theirs, r, operations, e, rfl, known, unmerged, rfl,
        absorbs_nil operations⟩

/-! #### Both sides -/

omit [Scalar R] in
theorem checkKinds_of_ne (h : s.kind ≠ t.kind) :
    s.checkKinds t = .error (.incompatibleKinds s.kind t.kind) := by
  rw [checkKinds, if_pos h]
  rfl

omit [Scalar R] in
theorem kind_of_checkKinds (h : s.checkKinds t = .ok ()) : s.kind = t.kind := by
  by_contra differ
  cases (checkKinds_of_ne differ).symm.trans h

/-- A loop of which no round fails or leaves it comes to its end. -/
theorem forIn_of_yields {α ε : Type} {l : List α} {f : α → PUnit → Except ε (ForInStep PUnit)}
    (h : ∀ a ∈ l, f a ⟨⟩ = .ok (.yield ⟨⟩)) : forIn l PUnit.unit f = .ok ⟨⟩ := by
  induction l with
  | nil => rfl
  | cons a r ih =>
    rw [List.forIn_cons, h a (.head _)]
    exact ih fun b hb => h b (.tail _ hb)

omit [Scalar R] in
theorem checkKinds_of_uniform (hs : s.Uniform) (ht : t.Uniform) (h : s.kind = t.kind) :
    s.checkKinds t = .ok () := by
  rw [checkKinds, if_neg (not_not_intro h)]
  refine congrArg (· >>= pure) (forIn_of_yields fun (name, theirs) he => ?_)
  cases hours : s.operation? name with
  | none => simp only [hours]; rfl
  | some ours =>
    have same : ours.kind = theirs.kind := by
      rw [(hs _ _ hours).kind_eq, (ht name theirs (OrderedMap.find?_eq_some_iff.2 he)).kind_eq, h]
    simp only [hours, same, ne_eq, not_true_eq_false, ↓reduceIte]
    rfl

/-- The second statistics of two, and what becomes of them together. -/
structure Joins (s t u : Statistics R) : Prop where
  kind : u.kind = s.kind
  begun : u.begun = earliest s.begun t.begun
  ended : u.ended = latest s.ended t.ended
  operation : ∀ name, Mergeable (s.operation? name) (t.operation? name) ∧
    u.operation? name = joined (s.operation? name) (t.operation? name)

/-- **What a merge that succeeds leaves.** -/
theorem joins_of_merge? (h : s.merge? t = .ok u) : s.kind = t.kind ∧ s.Joins t u := by
  rw [merge?, absorb] at h
  cases checked : s.checkKinds t with
  | error e =>
    simp only [checked] at h
    cases h
  | ok _ =>
    refine ⟨kind_of_checkKinds checked, ?_⟩
    simp only [checked] at h
    rcases mergeOperations_cases t.operations.nodup_keys s.operations with
      ⟨merged, all, absorbs⟩ | ⟨-, -, -, -, -, merged, e, -, -, -, fails, -⟩
    · simp only [all] at h
      cases h
      exact ⟨rfl, rfl, rfl, absorbs⟩
    · simp only [fails] at h
      cases h

/-- A figure that adds up where accumulators merge, and of which nothing is there counts as zero,
adds up where statistics merge. -/
theorem Joins.figure {α : Type} {f : Accumulator R → α} {zero : α} {op : α → α → α}
    (zero_right : ∀ n, op n zero = n) (zero_left : ∀ n, op zero n = n) {name : String}
    (h : s.Joins t u)
    (law : ∀ x y z, u.operation? name = some z → x.Joins y z → f z = op (f x) (f y)) :
    ((u.operation? name).map f).getD zero =
      op (((s.operation? name).map f).getD zero) (((t.operation? name).map f).getD zero) := by
  obtain ⟨mergeable, found⟩ := h.operation name
  rw [found] at law ⊢
  exact figure_joined zero_right zero_left mergeable law

theorem Joins.requests (h : s.Joins t u) (name : String) :
    (u.requestsOf name).toNat = (s.requestsOf name).toNat + (t.requestsOf name).toNat := by
  simp only [toNat_requestsOf]
  exact h.figure Nat.add_zero Nat.zero_add fun _ _ _ _ joins => joins.requests

theorem Joins.errors (h : s.Joins t u) (name : String) :
    (u.errorsOf name).toNat = (s.errorsOf name).toNat + (t.errorsOf name).toNat := by
  simp only [toNat_errorsOf]
  exact h.figure Nat.add_zero Nat.zero_add fun _ _ _ _ joins => joins.errors

theorem Joins.largest (h : s.Joins t u) {name : String}
    (exact : ∀ a, u.operation? name = some a → a.kind ≠ .sketch) :
    u.largestOf name = max (s.largestOf name) (t.largestOf name) :=
  h.figure max_word_zero zero_max_word fun _ _ z found joins => joins.largest (exact z found)

theorem Joins.names (h : s.Joins t u) (name : String) :
    name ∈ u.operations.keys ↔ name ∈ s.operations.keys ∨ name ∈ t.operations.keys := by
  obtain ⟨mergeable, found⟩ := h.operation name
  simp only [OrderedMap.mem_keys_iff, ← Option.isSome_iff_exists]
  exact (congrArg (fun a => a.isSome) found).to_iff.trans (isSome_joined mergeable)

/-- Statistics that are merged keep all accumulators in their kind. -/
theorem uniform_of_merge? (hs : s.Uniform) (ht : t.Uniform) (h : s.merge? t = .ok u) :
    u.Uniform := by
  obtain ⟨kind, joins⟩ := joins_of_merge? h
  intro name a ha
  rw [joins.kind]
  rw [(joins.operation name).2] at ha
  exact isOf_joined (hs name) (kind ▸ ht name) a ha

omit [Scalar R] in
/-- Words have room for the counters of both sides together. -/
def HasRoom (s t : Statistics R) : Prop := ∀ name,
  (s.requestsOf name).toNat + (t.requestsOf name).toNat ≤ wordMax ∧
    (s.errorsOf name).toNat + (t.errorsOf name).toNat ≤ wordMax

theorem Joins.hasRoom (h : s.Joins t u) : s.HasRoom t := fun name => by
  rw [← h.requests, ← h.errors]
  exact ⟨Nat.le_of_lt_succ (UInt64.toNat_lt _), Nat.le_of_lt_succ (UInt64.toNat_lt _)⟩

omit [Scalar R] in
/-- What there is of an operation has room for what the other side has of it. -/
theorem HasRoom.operation {a b : Accumulator R} {name : String} (h : s.HasRoom t)
    (ours : s.operation? name = some a) (theirs : t.operation? name = some b) :
    a.HasRoom b.requests.toNat b.errors.toNat := by
  have room := h name
  rwa [requestsOf, requestsOf, errorsOf, errorsOf, ours, theirs] at room

/-- **Merging two statistics of one kind** succeeds if there is room, and is an overflow if there is
none. -/
theorem merge?_cases (hs : s.Uniform) (ht : t.Uniform) (h : s.kind = t.kind) :
    (s.HasRoom t ∧ ∃ u, s.merge? t = .ok u) ∨
      ¬ s.HasRoom t ∧ s.merge? t = .error .overflow := by
  rcases mergeOperations_cases t.operations.nodup_keys s.operations with
    ⟨merged, all, -⟩ | ⟨before, name, a, b, after, merged, e, split, ours, unmerged, fails, -⟩
  · have merges : s.merge? t = .ok ⟨s.kind, earliest s.begun t.begun, latest s.ended t.ended,
        merged⟩ := by
      rw [merge?, absorb, checkKinds_of_uniform hs ht h]
      simp only [all]
      rfl
    exact .inl ⟨(joins_of_merge? merges).2.hasRoom, _, merges⟩
  · have theirs : t.operation? name = some b :=
      OrderedMap.find?_eq_some_iff.2 (split ▸ List.mem_append_cons_self)
    have like : b.IsOf s.kind := h ▸ ht name b theirs
    refine .inr ⟨fun room => ?_, ?_⟩
    · obtain ⟨c, merges, -⟩ := Accumulator.merge?_of_like (hs name a ours) like
        (room.operation ours theirs)
      cases unmerged.symm.trans merges
    · have overflows := Accumulator.eq_overflow_of_merge? (hs name a ours) like unmerged
      rw [merge?, absorb, checkKinds_of_uniform hs ht h, ← overflows]
      simp only [fails]
      rfl

theorem merge?_of_kind (hs : s.Uniform) (ht : t.Uniform) (h : s.kind = t.kind)
    (room : s.HasRoom t) : ∃ u, s.merge? t = .ok u := by
  rcases merge?_cases hs ht h with ⟨-, merges⟩ | ⟨full, -⟩
  · exact merges
  · exact absurd room full

theorem merge?_of_full (hs : s.Uniform) (ht : t.Uniform) (h : s.kind = t.kind)
    (full : ¬ s.HasRoom t) : s.merge? t = .error .overflow := by
  rcases merge?_cases hs ht h with ⟨room, -⟩ | ⟨-, overflows⟩
  · exact absurd room full
  · exact overflows

/-- **Merging two statistics** succeeds where they are of one kind and have room for each other, and
nowhere else. -/
theorem merge?_eq_ok_iff (hs : s.Uniform) (ht : t.Uniform) :
    (∃ u, s.merge? t = .ok u) ↔ s.kind = t.kind ∧ s.HasRoom t := by
  constructor
  · rintro ⟨u, merges⟩
    obtain ⟨kind, joins⟩ := joins_of_merge? merges
    exact ⟨kind, joins.hasRoom⟩
  · rintro ⟨kind, room⟩
    exact merge?_of_kind hs ht kind room

end Statistics

end LoadFleet
