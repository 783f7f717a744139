import LoadFleet.Proofs.StatsText
/-!
# What a merge that fails leaves behind

Two statistics are compared kind by kind before anything is merged, so a merge that fails for a kind
leaves its target as it was. Sketches can still map values to bins differently, and counters can
have no room for each other, which is found out only when their turn comes: what comes before them
in the order of names is merged by then, and stays.

* `Accumulator.Refuses`: why accumulators of one kind do not merge.
* `Statistics.checkKinds_cases`: what the comparison of kinds finds.
* `Statistics.absorb_leaves`: the main statement.
* `Statistics.absorb_halfway`: a merge that fails and changes its target.
-/

namespace LoadFleet

/-! ### Accumulators -/

namespace Accumulator

variable {R : Type} [Scalar R] {a b : Accumulator R}

omit [Scalar R] in
/-- Two sketches map values to bins differently. -/
def Unlike (a b : Accumulator R) : Prop :=
  ∃ s errors t others, a = .sketch s errors ∧ b = .sketch t others ∧ s.config.same t.config = false

/-- Why two accumulators of one kind do not merge: as sketches they are unlike, or else words have
no room for their counters together. -/
inductive Refuses (a b : Accumulator R) : StatsError → Prop where
  | unlike (differ : a.Unlike b) : Refuses a b (.sketch "Merge")
  | full (alike : ¬ a.Unlike b) (noRoom : ¬ a.HasRoom b.requests.toNat b.errors.toNat) :
    Refuses a b .overflow

omit [Scalar R] in
theorem not_unlike_of_kind_ne (other : a.kind ≠ .sketch) : ¬ a.Unlike b := by
  rintro ⟨s, errors, t, others, rfl, rfl, -⟩
  exact other rfl

/-- Accumulators of one kind go together, unless they are sketches that are unlike. -/
theorem combine?_of_kind_eq (same : a.kind = b.kind) :
    (∃ c, a.combine? b = .ok c) ∧ ¬ a.Unlike b ∨
      a.Unlike b ∧ a.combine? b = .error (.sketch "Merge") := by
  rcases a with m | s | ⟨s, errors⟩ <;> rcases b with n | t | ⟨t, others⟩ <;> try cases same
  · exact .inl ⟨⟨_, rfl⟩, not_unlike_of_kind_ne nofun⟩
  · exact .inl ⟨⟨_, rfl⟩, not_unlike_of_kind_ne nofun⟩
  · cases alike : s.config.same t.config with
    | true =>
      refine .inl ⟨⟨_, by rw [combine?, Sketch.merge?, if_pos alike]; rfl⟩, ?_⟩
      rintro ⟨_, _, _, _, ⟨⟩, ⟨⟩, differ⟩
      cases alike.symm.trans differ
    | false =>
      refine .inr ⟨⟨s, errors, t, others, rfl, rfl, alike⟩, ?_⟩
      rw [combine?, Sketch.merge?, alike]
      rfl

/-- An accumulator is only refused by another one of its kind for one of the two reasons. -/
theorem refuses_of_merge? {e : StatsError} (same : a.kind = b.kind) (h : a.merge? b = .error e) :
    a.Refuses b e := by
  rcases combine?_of_kind_eq same with ⟨⟨c, together⟩, alike⟩ | ⟨differ, fails⟩
  · by_cases room : a.HasRoom b.requests.toNat b.errors.toNat
    · cases (merge?_eq_ok_iff.2 ⟨together, room⟩).symm.trans h
    · cases (merge?_of_full together room).symm.trans h
      exact .full alike room
  · rw [merge?, fails] at h
    cases h
    exact .unlike differ

end Accumulator

/-! ### Kinds -/

/-- A loop either comes to its end, or fails in one of its rounds. -/
theorem forIn_cases {α ε : Type} {l : List α} {f : α → PUnit → Except ε (ForInStep PUnit)}
    (P : α → Prop) (Q : ε → Prop)
    (round : ∀ a ∈ l, f a ⟨⟩ = .ok (.yield ⟨⟩) ∧ P a ∨ ∃ e, f a ⟨⟩ = .error e ∧ Q e) :
    forIn l PUnit.unit f = .ok ⟨⟩ ∧ (∀ a ∈ l, P a) ∨
      ∃ e, forIn l PUnit.unit f = .error e ∧ Q e := by
  induction l with
  | nil => exact .inl ⟨rfl, nofun⟩
  | cons a r ih =>
    rw [List.forIn_cons]
    rcases round a (.head _) with ⟨goes, holds⟩ | ⟨e, fails, why⟩
    · rw [goes]
      rcases ih fun b hb => round b (.tail _ hb) with ⟨ends, all⟩ | ⟨e, fails, why⟩
      · exact .inl ⟨ends, List.forall_mem_cons.2 ⟨holds, all⟩⟩
      · exact .inr ⟨e, fails, why⟩
    · rw [fails]
      exact .inr ⟨e, rfl, why⟩

namespace Statistics

variable {R : Type} {s t : Statistics R}

/-- Two statistics differ in a kind: in their own, or in that of an operation of both. -/
inductive Clash (s t : Statistics R) : StatsKind → StatsKind → Prop where
  | whole (differ : s.kind ≠ t.kind) : Clash s t s.kind t.kind
  | operation {name : String} {a b : Accumulator R} (ours : s.operation? name = some a)
    (theirs : t.operation? name = some b) (differ : a.kind ≠ b.kind) : Clash s t a.kind b.kind

/-- Accumulators of an operation of both are of one kind. -/
def Agree (s t : Statistics R) : Prop :=
  ∀ name a b, s.operation? name = some a → t.operation? name = some b → a.kind = b.kind

/-- An error tells of a kind in which two statistics differ. -/
def Tells (s t : Statistics R) (e : StatsError) : Prop :=
  ∃ left right, s.Clash t left right ∧ e = .incompatibleKinds left right

/-- **The comparison of kinds** finds out whether two statistics differ in a kind. -/
theorem checkKinds_cases (s t : Statistics R) :
    s.checkKinds t = .ok () ∧ s.kind = t.kind ∧ s.Agree t ∨
      ∃ e, s.checkKinds t = .error e ∧ s.Tells t e := by
  by_cases same : s.kind = t.kind
  · have looped : s.checkKinds t = .ok () ∧ (∀ e ∈ t.operations.entries,
        ∀ a, s.operation? e.1 = some a → a.kind = e.2.kind) ∨
          ∃ e, s.checkKinds t = .error e ∧ s.Tells t e := by
      rw [checkKinds, if_neg (not_not_intro same)]
      dsimp only
      rw [bind_pure]
      refine forIn_cases _ _ fun e he => ?_
      obtain ⟨name, theirs⟩ := e
      have found : t.operation? name = some theirs := OrderedMap.find?_eq_some_iff.2 he
      cases known : s.operation? name with
      | none =>
        refine .inl ⟨rfl, ?_⟩
        rintro _ ⟨⟩
      | some ours =>
        by_cases differ : ours.kind ≠ theirs.kind
        · have clash := Clash.operation known found differ
          exact .inr ⟨_, by simp only [if_pos differ]; rfl, _, _, clash, rfl⟩
        · refine .inl ⟨by simp only [if_neg differ]; rfl, ?_⟩
          rintro _ ⟨⟩
          exact not_not.1 differ
    rcases looped with ⟨passed, all⟩ | fails
    · refine .inl ⟨passed, same, fun name a b ours theirs => ?_⟩
      exact all (name, b) (OrderedMap.find?_eq_some_iff.1 theirs) a ours
    · exact .inr fails
  · exact .inr ⟨_, checkKinds_of_ne same, _, _, .whole same, rfl⟩

/-! ### Both together -/

variable [Scalar R]

/-- **What a merge leaves behind.** If the two sides differ in a kind, it fails with its target as
it was. Otherwise it joins what both sides have of each operation, but stops at the first operation,
in the order of names, whose accumulators refuse each other, because as sketches they are unlike or
because of an overflow: by then it has joined all operations before that one, and nothing else. -/
theorem absorb_leaves (s t : Statistics R) :
    (∃ left right, s.Clash t left right ∧
      s.absorb t = (s, .error (.incompatibleKinds left right))) ∨
    s.kind = t.kind ∧ s.Agree t ∧
      ((∃ u, s.absorb t = (u, .ok ()) ∧ u.kind = s.kind ∧ u.begun = earliest s.begun t.begun ∧
          u.ended = latest s.ended t.ended ∧
          ∀ name, Mergeable (s.operation? name) (t.operation? name) ∧
            u.operation? name = joined (s.operation? name) (t.operation? name)) ∨
        ∃ before name ours theirs after u e,
          t.operations.entries = before ++ (name, theirs) :: after ∧
          s.operation? name = some ours ∧ ours.Refuses theirs e ∧
          s.absorb t = (u, .error e) ∧
          u.kind = s.kind ∧ u.begun = s.begun ∧ u.ended = s.ended ∧
          ∀ other, Mergeable (s.operation? other) (OrderedMap.lookup other before) ∧
            u.operation? other = joined (s.operation? other) (OrderedMap.lookup other before)) := by
  rcases checkKinds_cases s t with ⟨passed, same, agree⟩ | ⟨e, fails, left, right, clash, rfl⟩
  · refine .inr ⟨same, agree, ?_⟩
    rw [absorb, passed]
    rcases mergeOperations_cases t.operations.nodup_keys s.operations with
      ⟨merged, all, absorbs⟩ |
      ⟨before, name, ours, theirs, after, merged, e, split, has, unmerged, fails, absorbs⟩
    · exact .inl ⟨⟨s.kind, earliest s.begun t.begun, latest s.ended t.ended, merged⟩,
        by simp only [all], rfl, rfl, rfl, absorbs⟩
    · have known : t.operation? name = some theirs :=
        OrderedMap.find?_eq_some_iff.2 (split ▸ List.mem_append_cons_self)
      refine .inr ⟨before, name, ours, theirs, after, { s with operations := merged }, e, split,
        has, Accumulator.refuses_of_merge? (agree name ours theirs has known) unmerged, ?_, rfl,
        rfl, rfl, absorbs⟩
      simp only [fails]
  · refine .inl ⟨left, right, clash, ?_⟩
    rw [absorb, fails]

end Statistics

/-! ### A merge that changes its target -/

namespace Statistics

/-- A sketch that has counted one value, zero, with room for a number of bins. -/
def oneZero (maxBins : UInt32) : Sketch :=
  { Sketch.empty with
    config := { SketchConfig.standard with maxBins }, least := 0, greatest := 0, zeroCount := 1 }

/-- Statistics of two operations, the second of which has room for a number of bins. -/
def twoZeros (maxBins : UInt32) : RunStatistics :=
  ⟨.sketch, none, none,
    .ofList [("GET", .sketch (oneZero 2048) 0), ("PUT", .sketch (oneZero maxBins) 0)]⟩

theorem Written.read?_compact {s : RunStatistics} (h : s.Written) :
    read? s.toJson.compact = some s := by
  rw [read?, Json.read?_compact h.toJson_fits.plain]
  exact h.ofJson?_toJson (by decide : 6 ≤ 127)

theorem written_twoZeros {maxBins : UInt32} (standard : (oneZero 2048).Faithful)
    (other : (oneZero maxBins).Faithful) : (twoZeros maxBins).Written := by
  intro e he
  have listed := (OrderedMap.entries_ofList (by simp)).mem_iff.1 he
  rcases List.mem_cons.1 listed with rfl | listed
  · exact standard
  · cases List.mem_singleton.1 listed
    exact other

/-- **A merge that fails and changes its target.** Both sides can be read. The first operation is
merged before the sketches of the second turn out to be unlike. -/
theorem absorb_halfway :
    read? (twoZeros 2048).toJson.compact = some (twoZeros 2048) ∧
    read? (twoZeros 1024).toJson.compact = some (twoZeros 1024) ∧
    ((twoZeros 2048).absorb (twoZeros 1024)).2 = .error (.sketch "Merge") ∧
    (twoZeros 2048).requestsOf "GET" = 1 ∧
    ((twoZeros 2048).absorb (twoZeros 1024)).1.requestsOf "GET" = 2 ∧
    ((twoZeros 2048).absorb (twoZeros 1024)).1 ≠ twoZeros 2048 := by
  have standard : (oneZero 2048).Faithful := by decide +kernel
  have other : (oneZero 1024).Faithful := by decide +kernel
  have before : (twoZeros 2048).requestsOf "GET" = 1 := by decide
  have after : ((twoZeros 2048).absorb (twoZeros 1024)).1.requestsOf "GET" = 2 := by decide
  refine ⟨(written_twoZeros standard standard).read?_compact,
    (written_twoZeros standard other).read?_compact, by decide, before, after, fun same => ?_⟩
  rw [same, before] at after
  cases after

end Statistics

end LoadFleet
