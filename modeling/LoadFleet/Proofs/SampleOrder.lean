import LoadFleet.Proofs.Histograms
import LoadFleet.Proofs.Merging
/-!
# The order of recorded samples

A recording keeps its samples in the order in which they came, and merging appends.  What it tells
of them, apart from the mean and the deviation, goes through the samples in ascending order, and so
depends on the samples and on the number of failures only: not on the order, not on how the samples
were spread over the recordings that were merged, and not on which of them are the failures.

* `Samples.Alike`: the same samples in some order, and as many failures.  Merging in another order
  or with another grouping leaves recordings alike.
* `Samples.Alike.sorted_eq`: the ascending order of samples is one list.
* `Accumulator.Views`: what an accumulator tells that is no average.
* `Samples.Alike.views_eq`: recordings that are alike tell the same.
* `recordAll?_cases`: by induction over the samples, what recording one after the other comes to.
* `Accumulator.merge?_recording_left`, `Accumulator.merge?_recording_right`: both groupings of three
  recordings need the same room.
* `Accumulator.views_of_merged`: the main statement.
-/

namespace LoadFleet

/-! ### Recordings that are alike -/

namespace Samples

/-- Recordings have the same samples, in any order, and the same number of failures. -/
structure Alike (s t : Samples) : Prop where
  latencies : s.toList.Perm t.toList
  errors : s.errors = t.errors

variable {s t u : Samples}

theorem toList_merge : (s.merge t).toList = s.toList ++ t.toList := Array.toList_append

theorem alike_merge_comm : (s.merge t).Alike (t.merge s) where
  latencies := by
    rw [toList_merge, toList_merge]
    exact List.perm_append_comm
  errors := UInt64.add_comm s.errors t.errors

theorem alike_merge_assoc : ((s.merge t).merge u).Alike (s.merge (t.merge u)) where
  latencies := by simp only [toList_merge, List.append_assoc, List.Perm.refl]
  errors := UInt64.add_assoc s.errors t.errors u.errors

namespace Alike

theorem sorted_eq (h : s.Alike t) : s.sorted = t.sorted :=
  List.Perm.eq_of_pairwise (fun _ _ _ _ => UInt64.le_antisymm) sorted_ascending sorted_ascending
    (sorted_perm.trans (h.latencies.trans sorted_perm.symm))

theorem count_eq (h : s.Alike t) : s.count = t.count := h.latencies.length_eq

/-- Each of the largest samples is one of the others, or is zero. -/
theorem largest_eq (h : s.Alike t) : s.largest = t.largest := by
  refine h.latencies.foldl_eq' (fun x _ y _ z => ?_) 0
  rw [← UInt64.toNat_inj, toNat_max, toNat_max, toNat_max, toNat_max, Nat.max_right_comm]

end Alike

end Samples

/-! ### What recordings tell -/

/-- Figures of an accumulator that are no averages, with its views by what they are asked for. -/
structure Accumulator.Views where
  requests : UInt64
  errors : UInt64
  largest : UInt64
  percentile : Float → Except StatsError (Option Float)
  histogram : Nat → Float → Except StatsError (Option Histogram)
  boxPlot : Except StatsError (Option BoxPlot)

/-- What an accumulator tells, apart from averages and deviations. -/
def Accumulator.views (a : OperationStats) : Accumulator.Views :=
  ⟨a.requests, a.errors, a.largest, a.percentile?, a.histogram?, a.boxPlot?⟩

namespace Samples.Alike

variable {s t : Samples}

theorem percentile?_eq (h : s.Alike t) :
    (.recording s : OperationStats).percentile? = (.recording t : OperationStats).percentile? := by
  funext p
  simp only [Accumulator.percentile?, h.sorted_eq]

theorem histogram?_eq (h : s.Alike t) :
    (.recording s : OperationStats).histogram? = (.recording t : OperationStats).histogram? := by
  funext buckets cutoff
  simp only [Accumulator.histogram?, h.sorted_eq]

/-- **Recordings that are alike tell the same.** -/
theorem views_eq (h : s.Alike t) :
    (.recording s : OperationStats).views = (.recording t : OperationStats).views := by
  have boxPlot : (.recording s : OperationStats).boxPlot? =
      (.recording t : OperationStats).boxPlot? := by
    simp only [Accumulator.boxPlot?, h.percentile?_eq]
  simp only [Accumulator.views, Accumulator.requests, Accumulator.errors, Accumulator.largest,
    h.count_eq, h.errors, h.largest_eq, h.percentile?_eq, h.histogram?_eq, boxPlot]

end Samples.Alike

/-! ### One recording of all samples -/

/-- An accumulator that records samples one after the other, if its counters have room. -/
def recordAll? (log : List Sample) : Except StatsError OperationStats :=
  log.foldlM (fun a x => a.record? x.1 x.2) (.empty .recording)

/-- Logs have the same latencies, in any order, and the same number of failures. -/
structure SameSamples (log log' : List Sample) : Prop where
  latencies : (log.map fun x => x.1.toWord).Perm (log'.map fun x => x.1.toWord)
  failures : (log.countP fun x => !x.2) = log'.countP fun x => !x.2

/-- **Recording samples one after the other** is an overflow exactly if a word does not count
them. -/
theorem recordAll?_cases (log : List Sample) :
    (∃ s, recordAll? log = .ok (.recording s) ∧ Keeps s log) ∨
      2 ^ 64 ≤ log.length ∧ recordAll? log = .error .overflow := by
  -- by induction on the samples that are still to come
  have goOn (later earlier : List Sample) (s : Samples) (kept : Keeps s earlier) :
      (∃ t, later.foldlM (fun (a : OperationStats) x => a.record? x.1 x.2) (.recording s) =
        .ok (.recording t) ∧ Keeps t (earlier ++ later)) ∨
      2 ^ 64 ≤ (earlier ++ later).length ∧
        later.foldlM (fun (a : OperationStats) x => a.record? x.1 x.2) (.recording s) =
          .error .overflow := by
    induction later generalizing earlier s with
    | nil => exact .inl ⟨s, rfl, by rwa [List.append_nil]⟩
    | cons x r ih =>
      have counts : (Accumulator.recording s : OperationStats).Counts earlier.length := kept.counts
      rw [List.foldlM_cons, Accumulator.record?]
      by_cases few : earlier.length + 1 < 2 ^ 64
      · rw [if_pos (Accumulator.hasRoom_of_one few counts x.2), List.append_cons]
        exact ih _ _ (kept.record few x.1 x.2)
      · refine .inr ⟨by simp only [List.length_append, List.length_cons]; omega, ?_⟩
        have full : ¬ (Accumulator.recording s : OperationStats).HasRoom 1
            (if x.2 then 0 else 1) := by
          rintro ⟨room, -⟩
          rw [counts.1] at room
          exact few (Nat.lt_succ_of_le room)
        rw [if_neg full]
        rfl
  exact goOn log [] .empty .empty

theorem Keeps.alike {s t : Samples} {a b : List Sample} (h : Keeps s a) (k : Keeps t b)
    (same : SameSamples a b) : s.Alike t where
  latencies := by
    rw [h.latencies, k.latencies]
    exact same.latencies
  errors := UInt64.toNat_inj.1 (by rw [h.errors, k.errors, same.failures])

theorem SameSamples.length_eq {a b : List Sample} (same : SameSamples a b) :
    a.length = b.length := by
  simpa using same.latencies.length_eq

/-- What is told of recorded samples is told by an accumulator that recorded them, one after the
other, in any order. -/
theorem Keeps.views_recordAll? {s : Samples} {a log : List Sample} (h : Keeps s a)
    (same : SameSamples log a) :
    (recordAll? log).map Accumulator.views = .ok (.recording s : OperationStats).views := by
  rcases recordAll?_cases log with ⟨t, recorded, kept⟩ | ⟨many, -⟩
  · rw [recorded, ← (kept.alike h same).views_eq]
    rfl
  · exact absurd h.few (Nat.not_lt.2 (same.length_eq ▸ many))

theorem recordAll?_of_many {log : List Sample} (many : 2 ^ 64 ≤ log.length) :
    recordAll? log = .error .overflow := by
  rcases recordAll?_cases log with ⟨s, -, kept⟩ | ⟨-, overflows⟩
  · exact absurd kept.few (Nat.not_lt.2 many)
  · exact overflows

/-! ### Merging -/

namespace Accumulator

variable {s t u : Samples} {a b : List Sample}

/-- Recordings are merged if words have room for their counters together. -/
theorem merge?_recording : (recording s : OperationStats).merge? (recording t) =
    if (recording s : OperationStats).HasRoom t.count.toUInt64.toNat t.errors.toNat then
      .ok (recording (s.merge t))
    else .error .overflow := rfl

theorem merge?_recording_swap :
    ((recording t).merge? (recording s)).map views =
      ((recording s : OperationStats).merge? (recording t)).map views := by
  have swap : (recording t : OperationStats).HasRoom s.count.toUInt64.toNat s.errors.toNat ↔
      (recording s : OperationStats).HasRoom t.count.toUInt64.toNat t.errors.toNat := by
    simp only [HasRoom, requests, errors, Nat.add_comm]
  rw [merge?_recording, merge?_recording, if_congr swap rfl rfl]
  split
  · exact congrArg Except.ok Samples.alike_merge_comm.views_eq
  · rfl

/-- Words have room for the counters of three recordings together. -/
def RoomForThree (s t u : Samples) : Prop :=
  s.count.toUInt64.toNat + t.count.toUInt64.toNat + u.count.toUInt64.toNat ≤ wordMax ∧
    s.errors.toNat + t.errors.toNat + u.errors.toNat ≤ wordMax

instance (s t u : Samples) : Decidable (RoomForThree s t u) := inferInstanceAs (Decidable (_ ∧ _))

/-- The first two of three recordings are merged first. -/
theorem merge?_recording_left :
    (((recording s : OperationStats).merge? (recording t)).bind fun st => st.merge? (recording u)) =
      if RoomForThree s t u then .ok (recording ((s.merge t).merge u)) else .error .overflow := by
  by_cases room : (recording s : OperationStats).HasRoom t.count.toUInt64.toNat t.errors.toNat
  · have merged : (recording s : OperationStats).merge? (recording t) =
        .ok (recording (s.merge t)) := if_pos room
    have joins := joins_of_merge? merged
    have three : (recording (s.merge t) : OperationStats).HasRoom u.count.toUInt64.toNat
        u.errors.toNat ↔ RoomForThree s t u := by
      rw [HasRoom, joins.requests, joins.errors]
      rfl
    rw [merged]
    exact if_congr three rfl rfl
  · have fails : (recording s : OperationStats).merge? (recording t) = .error .overflow :=
      if_neg room
    have three : ¬ RoomForThree s t u := fun three =>
      room ⟨(Nat.le_add_right ..).trans three.1, (Nat.le_add_right ..).trans three.2⟩
    rw [fails, if_neg three]
    rfl

/-- The last two of three recordings are merged first. -/
theorem merge?_recording_right :
    (((recording t : OperationStats).merge? (recording u)).bind fun tu =>
        (recording s).merge? tu) =
      if RoomForThree s t u then .ok (recording (s.merge (t.merge u))) else .error .overflow := by
  by_cases room : (recording t : OperationStats).HasRoom u.count.toUInt64.toNat u.errors.toNat
  · have merged : (recording t : OperationStats).merge? (recording u) =
        .ok (recording (t.merge u)) := if_pos room
    have joins := joins_of_merge? merged
    have three : (recording s : OperationStats).HasRoom
        (recording (t.merge u) : OperationStats).requests.toNat
        (recording (t.merge u) : OperationStats).errors.toNat ↔ RoomForThree s t u := by
      rw [HasRoom, joins.requests, joins.errors, ← Nat.add_assoc, ← Nat.add_assoc]
      rfl
    rw [merged]
    exact if_congr three rfl rfl
  · have fails : (recording t : OperationStats).merge? (recording u) = .error .overflow :=
      if_neg room
    have three : ¬ RoomForThree s t u := by
      rintro ⟨requests, errors⟩
      rw [Nat.add_assoc] at requests errors
      exact room ⟨(Nat.le_add_left ..).trans requests, (Nat.le_add_left ..).trans errors⟩
    rw [fails, if_neg three]
    rfl

/-- Recordings of so many samples are merged exactly if a word counts them together. -/
theorem merge?_of_keeps (hs : Keeps s a) (ht : Keeps t b) :
    (recording s : OperationStats).merge? (recording t) = .ok (recording (s.merge t)) ∧
        Keeps (s.merge t) (a ++ b) ∨
      2 ^ 64 ≤ (a ++ b).length ∧
        (recording s : OperationStats).merge? (recording t) = .error .overflow := by
  have left : (recording s : OperationStats).Counts a.length := hs.counts
  have right : (recording t : OperationStats).Counts b.length := ht.counts
  rw [List.length_append]
  by_cases few : a.length + b.length < 2 ^ 64
  · exact .inl ⟨if_pos (hasRoom_of_few few left right), hs.merge ht few⟩
  · refine .inr ⟨Nat.le_of_not_lt few, if_neg ?_⟩
    rintro ⟨room, -⟩
    rw [left.1, right.1] at room
    exact few (Nat.lt_succ_of_le room)

/-- Merged recordings tell what one tells that recorded all samples. -/
theorem views_recordAll?_merge (hs : Keeps s a) (ht : Keeps t b) {log : List Sample}
    (same : SameSamples log (a ++ b)) : (recordAll? log).map views =
      ((recording s : OperationStats).merge? (recording t)).map views := by
  rcases merge?_of_keeps hs ht with ⟨merged, kept⟩ | ⟨many, overflows⟩
  · rw [merged, kept.views_recordAll? same]
    rfl
  · rw [overflows, recordAll?_of_many (same.length_eq ▸ many)]

/-- **Merging recordings.**  Neither the order nor the grouping matters: the merged ones tell the
same counts, the same largest latency, the same percentiles, the same histograms and the same box
plot, or it is an overflow all the same.  They tell what one accumulator tells that recorded the
samples of all of them in any order, with as many failures among them, and it is no overflow as long
as a word counts the samples. -/
theorem views_of_merged (s t u : Samples) :
    let pair : Except StatsError OperationStats := (recording s).merge? (recording t)
    let triple : Except StatsError OperationStats := pair.bind fun st => st.merge? (recording u)
    ((recording t).merge? (recording s)).map views = pair.map views ∧
    (((recording t).merge? (recording u)).bind fun tu => (recording s).merge? tu).map views =
      triple.map views ∧
    ∀ a b c : List Sample, Keeps s a → Keeps t b → Keeps u c → ∀ log : List Sample,
      (SameSamples log (a ++ b) → (recordAll? log).map views = pair.map views) ∧
      (SameSamples log (a ++ b ++ c) → (recordAll? log).map views = triple.map views) ∧
      (a.length + b.length < 2 ^ 64 → ∃ st, pair = .ok st) ∧
      (a.length + b.length + c.length < 2 ^ 64 → ∃ stu, triple = .ok stu) := by
  intro pair triple
  refine ⟨merge?_recording_swap, ?_, fun a b c hs ht hu log => ?_⟩
  · rw [merge?_recording_right, show triple = _ from merge?_recording_left]
    split
    · exact congrArg Except.ok Samples.alike_merge_assoc.views_eq.symm
    · rfl
  · refine ⟨views_recordAll?_merge hs ht, fun same => ?_, fun few => ?_, fun few => ?_⟩
    · rcases merge?_of_keeps hs ht with ⟨merged, kept⟩ | ⟨many, overflows⟩
      · have rest : triple = (recording (s.merge t)).merge? (recording u) := by
          simp only [triple, pair, merged, Except.bind]
        rw [rest]
        exact views_recordAll?_merge kept hu same
      · have rest : triple = .error .overflow := by
          simp only [triple, pair, overflows, Except.bind]
        rw [rest, recordAll?_of_many (same.length_eq ▸ many.trans (by simp))]
    · exact ⟨_, if_pos (hasRoom_of_few few hs.counts ht.counts)⟩
    · have fewer : a.length + b.length < 2 ^ 64 := Nat.lt_of_le_of_lt (Nat.le_add_right ..) few
      have kept : Keeps (s.merge t) (a ++ b) := hs.merge ht fewer
      have merged : pair = .ok (recording (s.merge t)) :=
        if_pos (hasRoom_of_few fewer hs.counts ht.counts)
      refine ⟨recording ((s.merge t).merge u), ?_⟩
      simp only [triple, merged, Except.bind]
      exact if_pos (hasRoom_of_few (by rwa [List.length_append]) kept.counts hu.counts)

/-- Three samples in two recordings, one of them a failure, and another one that failed in their
place. -/
theorem views_of_merged_three :
    let a : List Sample := [(.ofNanos 7, true), (.ofNanos 3, false)]
    let b : List Sample := [(.ofNanos 3, true)]
    let log : List Sample := [(.ofNanos 3, true), (.ofNanos 7, false), (.ofNanos 3, true)]
    let s : Samples := ⟨#[7, 3], 1⟩
    let t : Samples := ⟨#[3], 0⟩
    Keeps s a ∧ Keeps t b ∧ Keeps .empty [] ∧ SameSamples log (a ++ b) ∧
      ∃ st : OperationStats, (recording s).merge? (recording t) = .ok st ∧
        (recordAll? log).map views = .ok st.views ∧ st.largest = 7 ∧ st.errors = 1 := by
  intro a b log s t
  have hs : Keeps s a := ⟨by decide, by decide, by decide⟩
  have ht : Keeps t b := ⟨by decide, by decide, by decide⟩
  have same : SameSamples log (a ++ b) := ⟨by decide, by decide⟩
  obtain ⟨-, -, one⟩ := views_of_merged s t .empty
  obtain ⟨told, -, merges, -⟩ := one a b [] hs ht .empty log
  obtain ⟨st, merged⟩ := merges (by decide)
  refine ⟨hs, ht, .empty, same, st, merged, ?_, ?_, ?_⟩
  · rw [told same, merged]
    rfl
  · cases merged
    decide
  · cases merged
    decide

end Accumulator

end LoadFleet
