import LoadFleet.Proofs.Counters
import LoadFleet.Proofs.MergeOrder
/-!
# Ways to gather statistics

A `Gathering` is a way to come to statistics: empty ones are filled request by request, get the ends
of their interval, and are merged, in any mixture.  It tells which samples come together under which
names.  Each accumulator holds the samples of its name, so that what recording and merging keep of
accumulators and samples holds of all of them, and together they hold all samples once.

* `perm_samplesOf`: the samples of all names are all samples.
* `Statistics.exists_gathered`: by induction over the gathering, statistics of any kind can be
  gathered in any way in which a word counts the samples of each operation.
* `Statistics.built_iff_gathered`: statistics that come about are those that are gathered.
* `Kept.operations`: by induction over the gathering, what is kept holds of each operation.
* `Statistics.Gathered.requestTotal_eq`: all samples are counted.
-/

namespace LoadFleet

/-- A way to come to statistics. -/
inductive Gathering where
  | empty
  | record (g : Gathering) (operation : String) (latency : Span) (success : Bool)
  | begin (g : Gathering) (time : WallTime)
  | finish (g : Gathering) (time : WallTime)
  | merge (g h : Gathering)

namespace Gathering

/-- All samples under the names of their operations, from left to right. -/
def samples : Gathering → List (String × Sample)
  | empty => []
  | record g operation latency success => g.samples ++ [(operation, latency, success)]
  | begin g _ | finish g _ => g.samples
  | merge g h => g.samples ++ h.samples

/-- The begin of the interval, if one is set. -/
def begun : Gathering → Option WallTime
  | empty => none
  | record g _ _ _ | finish g _ => g.begun
  | begin _ time => some time
  | merge g h => earliest g.begun h.begun

/-- The end of the interval, if one is set. -/
def ended : Gathering → Option WallTime
  | empty => none
  | record g _ _ _ | begin g _ => g.ended
  | finish _ time => some time
  | merge g h => latest g.ended h.ended

/-- The statistics of a kind that are gathered in this way, if their counters have room. -/
def statistics? {R : Type} [Scalar R] (kind : StatsKind) :
    Gathering → Except StatsError (Statistics R)
  | empty => .ok (.empty kind)
  | record g operation latency success =>
    do (← g.statistics? kind).record? operation latency success
  | begin g time => do return { (← g.statistics? kind) with begun := some time }
  | finish g time => do return { (← g.statistics? kind) with ended := some time }
  | merge g h => do (← g.statistics? kind).merge? (← h.statistics? kind)

end Gathering

/-! ### The samples of an operation -/

/-- The samples that are listed under a name. -/
def samplesOf (name : String) (log : List (String × Sample)) : List Sample :=
  (log.filter fun e => e.1 = name).map (·.2)

theorem samplesOf_append (name : String) (a b : List (String × Sample)) :
    samplesOf name (a ++ b) = samplesOf name a ++ samplesOf name b := by simp [samplesOf]

theorem samplesOf_singleton (name operation : String) (x : Sample) :
    samplesOf name [(operation, x)] = if operation = name then [x] else [] := by
  by_cases here : operation = name <;> simp [samplesOf, here]

theorem length_samplesOf_le (name : String) (log : List (String × Sample)) :
    (samplesOf name log).length ≤ log.length := by
  rw [samplesOf, List.length_map]
  exact List.length_filter_le _ log

/-- **The samples of all names** are all samples, whatever the order of the names is. -/
theorem perm_samplesOf {names : List String} (distinct : names.Nodup)
    {log : List (String × Sample)} (covered : ∀ e ∈ log, e.1 ∈ names) :
    (names.flatMap fun name => samplesOf name log).Perm (log.map (·.2)) := by
  induction names generalizing log with
  | nil =>
    obtain rfl := List.eq_nil_iff_forall_not_mem.2 fun e he => List.not_mem_nil (covered e he)
    rfl
  | cons name r ih =>
    obtain ⟨new, distinct⟩ := List.nodup_cons.1 distinct
    -- the samples of the other names are among those that are not of this one
    have others (other : String) (ho : other ∈ r) :
        samplesOf other log = samplesOf other (log.filter fun e => !decide (e.1 = name)) := by
      have apart : other ≠ name := fun same => new (same ▸ ho)
      rw [samplesOf, samplesOf, List.filter_filter]
      congr 2
      funext e
      by_cases here : e.1 = other <;> simp [here, apart]
    have rest : ∀ e ∈ log.filter fun e => !decide (e.1 = name), e.1 ∈ r := by
      intro e he
      obtain ⟨he, apart⟩ := List.mem_filter.1 he
      exact (List.mem_cons.1 (covered e he)).resolve_left (by simpa using apart)
    rw [List.flatMap_cons, List.flatMap_congr others]
    refine ((ih distinct rest).append_left _).trans ?_
    rw [samplesOf, ← List.map_append]
    exact (List.filter_append_perm _ log).map _

/-! ### What is gathered -/

/-- A word counts the samples of each operation. -/
def Gathering.Fits (g : Gathering) : Prop :=
  ∀ name, (samplesOf name g.samples).length < 2 ^ 64

theorem Gathering.fits_of_few {g : Gathering} (few : g.samples.length < 2 ^ 64) : g.Fits :=
  fun name => Nat.lt_of_le_of_lt (length_samplesOf_le name g.samples) few

/-- A part of what is gathered fits with the whole. -/
theorem Gathering.Fits.part {g h : Gathering} (fits : h.Fits)
    (part : g.samples.Sublist h.samples) : g.Fits := fun name =>
  Nat.lt_of_le_of_lt ((part.filter _).map _).length_le (fits name)

namespace Statistics

variable {R : Type} [Scalar R]

/-- Statistics of a kind came about in a certain way, and count the samples of each operation. -/
structure Gathered (kind : StatsKind) (g : Gathering) (s : Statistics R) : Prop where
  gathered : g.statistics? kind = .ok s
  built : s.Built
  kind : s.kind = kind
  begun : s.begun = g.begun
  ended : s.ended = g.ended
  requests : ∀ name, (s.requestsOf name).toNat = (samplesOf name g.samples).length
  errors : ∀ name, (s.errorsOf name).toNat ≤ (samplesOf name g.samples).length

namespace Gathered

variable {kind : StatsKind} {g h : Gathering} {s t u : Statistics R}

theorem empty (kind : StatsKind) : Gathered kind .empty (.empty kind : Statistics R) where
  gathered := rfl
  built := .empty kind
  kind := rfl
  begun := rfl
  ended := rfl
  requests _ := rfl
  errors _ := le_rfl

theorem record (hs : Gathered kind g s) {operation : String} {latency : Span} {success : Bool}
    (recorded : s.record? operation latency success = .ok t) :
    Gathered kind (.record g operation latency success) t := by
  have counts := counts_of_record? recorded
  obtain ⟨-, same⟩ := record?_eq_ok_iff.1 recorded
  have length (name : String) :
      (samplesOf name (Gathering.record g operation latency success).samples).length =
        (samplesOf name g.samples).length + if name = operation then 1 else 0 := by
    rw [Gathering.samples, samplesOf_append, samplesOf_singleton, List.length_append]
    by_cases here : name = operation
    · rw [if_pos here, if_pos here.symm]
      rfl
    · rw [if_neg here, if_neg (Ne.symm here)]
      rfl
  exact
    { gathered := by
        rw [Gathering.statistics?, hs.gathered]
        exact recorded
      built := hs.built.record recorded
      kind := same ▸ hs.kind
      begun := same ▸ hs.begun
      ended := same ▸ hs.ended
      requests := fun name => by rw [(counts name).1, hs.requests, length]
      errors := fun name => by
        rw [(counts name).2, length]
        refine Nat.add_le_add (hs.errors name) ?_
        split
        · next here => rw [if_pos here.1]
        · exact Nat.zero_le _ }

theorem begin (hs : Gathered kind g s) (time : WallTime) :
    Gathered kind (.begin g time) { s with begun := some time } where
  gathered := by
    rw [Gathering.statistics?, hs.gathered]
    rfl
  built := hs.built.begin time
  kind := hs.kind
  begun := rfl
  ended := hs.ended
  requests := hs.requests
  errors := hs.errors

theorem finish (hs : Gathered kind g s) (time : WallTime) :
    Gathered kind (.finish g time) { s with ended := some time } where
  gathered := by
    rw [Gathering.statistics?, hs.gathered]
    rfl
  built := hs.built.finish time
  kind := hs.kind
  begun := hs.begun
  ended := rfl
  requests := hs.requests
  errors := hs.errors

theorem merge (hs : Gathered kind g s) (ht : Gathered kind h t) (merged : s.merge? t = .ok u) :
    Gathered kind (.merge g h) u := by
  obtain ⟨-, joins⟩ := joins_of_merge? merged
  have length (name : String) : (samplesOf name (Gathering.merge g h).samples).length =
      (samplesOf name g.samples).length + (samplesOf name h.samples).length := by
    rw [Gathering.samples, samplesOf_append, List.length_append]
  exact
    { gathered := by
        rw [Gathering.statistics?, hs.gathered, ht.gathered]
        exact merged
      built := hs.built.merge ht.built merged
      kind := joins.kind.trans hs.kind
      begun := by rw [joins.begun, hs.begun, ht.begun, Gathering.begun]
      ended := by rw [joins.ended, hs.ended, ht.ended, Gathering.ended]
      requests := fun name => by rw [joins.requests, hs.requests, ht.requests, length]
      errors := fun name => by
        rw [joins.errors, length]
        exact Nat.add_le_add (hs.errors name) (ht.errors name) }

theorem unique (hs : Gathered kind g s) (ht : Gathered kind g t) : s = t :=
  Except.ok.inj (hs.gathered.symm.trans ht.gathered)

theorem fits (hs : Gathered kind g s) : g.Fits := fun name => by
  rw [← hs.requests]
  exact UInt64.toNat_lt _

end Gathered

/-! #### Ways that succeed -/

variable {kind : StatsKind} {g h : Gathering} {s : Statistics R}

theorem statistics?_record_eq_ok_iff {operation : String} {latency : Span} {success : Bool} :
    (Gathering.record g operation latency success).statistics? kind = .ok s ↔
      ∃ t : Statistics R, g.statistics? kind = .ok t ∧
        t.record? operation latency success = .ok s := by
  rw [Gathering.statistics?]
  cases g.statistics? kind (R := R) with
  | error e => exact iff_of_false nofun fun ⟨_, no, _⟩ => nomatch no
  | ok t => exact ⟨fun h => ⟨t, rfl, h⟩, fun ⟨_, same, h⟩ => Except.ok.inj same ▸ h⟩

theorem statistics?_begin_eq_ok_iff {time : WallTime} :
    (Gathering.begin g time).statistics? kind = .ok s ↔
      ∃ t : Statistics R, g.statistics? kind = .ok t ∧ { t with begun := some time } = s := by
  rw [Gathering.statistics?]
  cases g.statistics? kind (R := R) with
  | error e => exact iff_of_false nofun fun ⟨_, no, _⟩ => nomatch no
  | ok t =>
    exact ⟨fun h => ⟨t, rfl, Except.ok.inj h⟩, fun ⟨_, same, h⟩ => Except.ok.inj same ▸ h ▸ rfl⟩

theorem statistics?_finish_eq_ok_iff {time : WallTime} :
    (Gathering.finish g time).statistics? kind = .ok s ↔
      ∃ t : Statistics R, g.statistics? kind = .ok t ∧ { t with ended := some time } = s := by
  rw [Gathering.statistics?]
  cases g.statistics? kind (R := R) with
  | error e => exact iff_of_false nofun fun ⟨_, no, _⟩ => nomatch no
  | ok t =>
    exact ⟨fun h => ⟨t, rfl, Except.ok.inj h⟩, fun ⟨_, same, h⟩ => Except.ok.inj same ▸ h ▸ rfl⟩

theorem statistics?_merge_eq_ok_iff :
    (Gathering.merge g h).statistics? kind = .ok s ↔
      ∃ t u : Statistics R, g.statistics? kind = .ok t ∧ h.statistics? kind = .ok u ∧
        t.merge? u = .ok s := by
  rw [Gathering.statistics?]
  cases g.statistics? kind (R := R) with
  | error e => exact iff_of_false nofun fun ⟨_, _, no, _⟩ => nomatch no
  | ok t =>
    cases h.statistics? kind (R := R) with
    | error e => exact iff_of_false nofun fun ⟨_, _, _, no, _⟩ => nomatch no
    | ok u =>
      refine ⟨fun h => ⟨t, u, rfl, rfl, h⟩, ?_⟩
      rintro ⟨_, _, ⟨⟩, ⟨⟩, h⟩
      exact h

theorem Gathered.of_ok (hs : g.statistics? kind = .ok s) : Gathered kind g s := by
  induction g generalizing s with
  | empty =>
    cases hs
    exact .empty kind
  | record g operation latency success ih =>
    obtain ⟨t, ht, recorded⟩ := statistics?_record_eq_ok_iff.1 hs
    exact (ih ht).record recorded
  | begin g time ih =>
    obtain ⟨t, ht, rfl⟩ := statistics?_begin_eq_ok_iff.1 hs
    exact (ih ht).begin time
  | finish g time ih =>
    obtain ⟨t, ht, rfl⟩ := statistics?_finish_eq_ok_iff.1 hs
    exact (ih ht).finish time
  | merge g h ihg ihh =>
    obtain ⟨t, u, ht, hu, merged⟩ := statistics?_merge_eq_ok_iff.1 hs
    exact (ihg ht).merge (ihh hu) merged

/-- One sample more can be gathered. -/
theorem Gathered.exists_record (hs : Gathered kind g s) {operation : String} {latency : Span}
    {success : Bool} (fits : (Gathering.record g operation latency success).Fits) :
    ∃ t : Statistics R, Gathered kind (.record g operation latency success) t := by
  have few : (samplesOf operation g.samples).length < wordMax := by
    have more := fits operation
    rw [Gathering.samples, samplesOf_append, samplesOf_singleton, if_pos rfl, List.length_append]
      at more
    exact Nat.lt_of_succ_lt_succ more
  have recorded := record?_of_few s operation latency success (hs.requests operation ▸ few)
    (Nat.lt_of_le_of_lt (hs.errors operation) few)
  exact ⟨_, hs.record recorded⟩

/-- Both sides together can be gathered. -/
theorem Gathered.exists_merge {t : Statistics R} (hs : Gathered kind g s) (ht : Gathered kind h t)
    (fits : (Gathering.merge g h).Fits) : ∃ u : Statistics R, Gathered kind (.merge g h) u := by
  have both (name : String) :
      (samplesOf name g.samples).length + (samplesOf name h.samples).length ≤ wordMax := by
    rw [← List.length_append, ← samplesOf_append]
    exact Nat.le_of_lt_succ (fits name)
  have room : s.HasRoom t := fun name => by
    rw [hs.requests, ht.requests]
    exact ⟨both name, (Nat.add_le_add (hs.errors name) (ht.errors name)).trans (both name)⟩
  obtain ⟨u, merged⟩ := merge?_of_kind hs.built.uniform ht.built.uniform
    (hs.kind.trans ht.kind.symm) room
  exact ⟨u, hs.merge ht merged⟩

/-- **Statistics of any kind can be gathered in any way** in which a word counts the samples of each
operation. -/
theorem exists_gathered (kind : StatsKind) (g : Gathering) (fits : g.Fits) :
    ∃ s : Statistics R, Gathered kind g s := by
  induction g with
  | empty => exact ⟨.empty kind, .empty kind⟩
  | record g operation latency success ih =>
    obtain ⟨s, hs⟩ := ih (fits.part (List.sublist_append_left ..))
    exact hs.exists_record fits
  | begin g time ih =>
    obtain ⟨s, hs⟩ := ih fits
    exact ⟨_, hs.begin time⟩
  | finish g time ih =>
    obtain ⟨s, hs⟩ := ih fits
    exact ⟨_, hs.finish time⟩
  | merge g h ihg ihh =>
    obtain ⟨s, hs⟩ := ihg (fits.part (List.sublist_append_left ..))
    obtain ⟨t, ht⟩ := ihh (fits.part (List.sublist_append_right ..))
    exact hs.exists_merge ht fits

theorem Built.gathered {s : Statistics R} (h : s.Built) : ∃ kind g, Gathered kind g s := by
  induction h with
  | empty kind => exact ⟨kind, .empty, .empty kind⟩
  | record _ recorded ih =>
    obtain ⟨kind, g, hs⟩ := ih
    exact ⟨kind, _, hs.record recorded⟩
  | begin _ time ih =>
    obtain ⟨kind, g, hs⟩ := ih
    exact ⟨kind, _, hs.begin time⟩
  | finish _ time ih =>
    obtain ⟨kind, g, hs⟩ := ih
    exact ⟨kind, _, hs.finish time⟩
  | setInterval _ begun ended ih =>
    obtain ⟨kind, g, hs⟩ := ih
    exact ⟨kind, _, (hs.begin begun).finish ended⟩
  | merge _ _ merged ihs iht =>
    obtain ⟨kind, g, hs⟩ := ihs
    obtain ⟨kind', h, ht⟩ := iht
    -- statistics of different kinds do not merge
    obtain ⟨like, -⟩ := joins_of_merge? merged
    obtain rfl : kind = kind' := by rw [← hs.kind, ← ht.kind, like]
    exact ⟨kind, _, hs.merge ht merged⟩

/-- **Statistics that come about** are those that are gathered in some way. -/
theorem built_iff_gathered {s : Statistics R} :
    s.Built ↔ ∃ (kind : StatsKind) (g : Gathering), g.statistics? kind = .ok s := by
  constructor
  · intro h
    obtain ⟨kind, g, hs⟩ := h.gathered
    exact ⟨kind, g, hs.gathered⟩
  · rintro ⟨kind, g, hs⟩
    exact (Gathered.of_ok hs).built

end Statistics

/-! ### What is kept -/

/-- A property of accumulators of a kind, and of the samples that they hold, is kept by recording
and merging as long as the samples are few. -/
structure Kept {R : Type} [Scalar R] (few : Nat → Prop) (kind : StatsKind)
    (P : Accumulator R → List Sample → Prop) : Prop where
  fewer : ∀ {m n}, m ≤ n → few n → few m
  empty : P (.empty kind) []
  record : ∀ {a l} (latency : Span) (success : Bool), P a l → few (l.length + 1) →
    P (a.record latency success) (l ++ [(latency, success)])
  merge : ∀ {a b c l k}, P a l → P b k → few (l.length + k.length) → a.merge? b = .ok c →
    P c (l ++ k)

namespace Kept

variable {R : Type} [Scalar R] {few : Nat → Prop} {kind : StatsKind}
  {P : Accumulator R → List Sample → Prop}

/-- What is kept holds of an operation and its samples, and there is an operation exactly if there
is a sample of it. -/
structure Holds (P : Accumulator R → List Sample → Prop) (found : Option (Accumulator R))
    (l : List Sample) : Prop where
  kept : ∀ a, found = some a → P a l
  missing : found = none ↔ l = []

variable {l k : List Sample}

omit [Scalar R] in
theorem Holds.absent : Holds P none [] := ⟨by rintro _ ⟨⟩, iff_of_true rfl rfl⟩

omit [Scalar R] in
theorem Holds.present {a : Accumulator R} (h : P a l) (filled : l ≠ []) :
    Holds P (some a) l :=
  ⟨by rintro _ ⟨⟩; exact h, iff_of_false nofun filled⟩

omit [Scalar R] in
theorem Holds.of_some {a : Accumulator R} (h : Holds P (some a) l) : P a l ∧ l ≠ [] :=
  ⟨h.kept a rfl, fun nil => nomatch h.missing.2 nil⟩

/-- One sample more. -/
theorem Holds.record (h : Kept few kind P) {found : Option (Accumulator R)}
    (holds : Holds P found l) (more : few (l.length + 1)) (latency : Span) (success : Bool) :
    Holds P (some ((found.getD (.empty kind)).record latency success))
      (l ++ [(latency, success)]) := by
  refine .present (h.record latency success ?_ more) (by simp)
  cases found with
  | none =>
    obtain rfl := holds.missing.1 rfl
    exact h.empty
  | some a => exact holds.kept a rfl

/-- Two sides. -/
theorem Holds.joined (h : Kept few kind P) {a b : Option (Accumulator R)} (ha : Holds P a l)
    (hb : Holds P b k) (mergeable : Statistics.Mergeable a b)
    (more : few (l.length + k.length)) : Holds P (Statistics.joined a b) (l ++ k) := by
  cases a with
  | none =>
    obtain rfl := ha.missing.1 rfl
    exact hb
  | some a =>
    obtain ⟨keptA, filled⟩ := ha.of_some
    cases b with
    | none =>
      obtain rfl := hb.missing.1 rfl
      rwa [List.append_nil]
    | some b =>
      obtain ⟨c, merges⟩ := mergeable a b rfl rfl
      simp only [Statistics.joined, merges, Except.toOption]
      exact .present (h.merge keptA hb.of_some.1 more merges) (by simp [filled])

/-- **What is kept holds of each operation** whose samples are few. -/
theorem operations (h : Kept few kind P) (g : Gathering) (name : String)
    (all : few (samplesOf name g.samples).length) {s : Statistics R}
    (hs : g.statistics? kind = .ok s) : Holds P (s.operation? name) (samplesOf name g.samples) := by
  induction g generalizing s with
  | empty =>
    cases hs
    exact .absent
  | record g operation latency success ih =>
    obtain ⟨t, ht, recorded⟩ := Statistics.statistics?_record_eq_ok_iff.1 hs
    obtain ⟨-, rfl⟩ := Statistics.record?_eq_ok_iff.1 recorded
    rw [Gathering.samples, samplesOf_append, samplesOf_singleton] at all ⊢
    rw [Statistics.operation?_record]
    by_cases here : name = operation
    · subst here
      rw [if_pos rfl, List.length_append] at all
      rw [if_pos rfl, if_pos rfl, (Statistics.Gathered.of_ok ht).kind]
      exact (ih (h.fewer (Nat.le_add_right _ _) all) ht).record h all latency success
    · rw [if_neg (Ne.symm here), List.append_nil] at all ⊢
      rw [if_neg here]
      exact ih all ht
  | begin g time ih =>
    obtain ⟨t, ht, rfl⟩ := Statistics.statistics?_begin_eq_ok_iff.1 hs
    have before := ih all ht
    exact before
  | finish g time ih =>
    obtain ⟨t, ht, rfl⟩ := Statistics.statistics?_finish_eq_ok_iff.1 hs
    have before := ih all ht
    exact before
  | merge g g' ihg ihg' =>
    obtain ⟨t, t', ht, ht', merged⟩ := Statistics.statistics?_merge_eq_ok_iff.1 hs
    obtain ⟨mergeable, found⟩ := (Statistics.joins_of_merge? merged).2.operation name
    rw [Gathering.samples, samplesOf_append] at all ⊢
    rw [List.length_append] at all
    rw [found]
    exact (ihg (h.fewer (Nat.le_add_right _ _) all) ht).joined h
      (ihg' (h.fewer (Nat.le_add_left _ _) all) ht') mergeable all

end Kept

/-! ### Counting all samples -/

namespace Statistics

variable {R : Type} [Scalar R] {kind : StatsKind} {g : Gathering} {s : Statistics R}

/-- The samples of all operations together are all samples. -/
theorem Gathered.perm_samples (hs : Gathered kind g s) :
    (s.operations.keys.flatMap fun name => samplesOf name g.samples).Perm
      (g.samples.map (·.2)) := by
  refine perm_samplesOf s.operations.nodup_keys fun e he => ?_
  refine OrderedMap.mem_keys_iff.2 (Option.ne_none_iff_exists'.1 fun absent => ?_)
  -- an operation that is not there counts no sample
  have none : (samplesOf e.1 g.samples).length = 0 := by
    rw [← hs.requests, requestsOf, operation?, absent]
    rfl
  have listed : e.2 ∈ samplesOf e.1 g.samples :=
    List.mem_map_of_mem (List.mem_filter.2 ⟨he, by simp⟩)
  exact List.ne_nil_of_mem listed (List.eq_nil_of_length_eq_zero none)

/-- **The total number of requests** counts all samples. -/
theorem Gathered.requestTotal_eq (hs : Gathered kind g s) :
    s.requestTotal = g.samples.length := by
  have each : (s.operations.keys.map fun name => (s.requestsOf name).toNat) =
      s.operations.keys.map fun name => (samplesOf name g.samples).length :=
    List.map_congr_left fun name _ => hs.requests name
  rw [Statistics.requestTotal_eq, each, ← List.length_flatMap, hs.perm_samples.length_eq,
    List.length_map]

end Statistics

end LoadFleet
