import LoadFleet.Topology.History
import Mathlib.Data.List.Nodup
import Mathlib.Data.List.Perm.Subperm
import Mathlib.Tactic.Push
/-!
# When histories are quiet

A history is looked through from its newest event on, with a count of the ends that belong to no
start yet. What this comes to is said of the events in the order of their arrival: from no event on
are there more starts than ends. This is so exactly if every start can be given an end of its own
that came later.

* `allEnded_iff`: by induction over the events, newest first, what the count finds.
* `paired_of_ended`: by induction over the events, oldest first, a start in front of events that are
  paired finds an end that none of them took.
* `Paired.le`: an end of its own for each start means at least as many ends.
* `isSettled_iff`: the main statement.
-/

namespace LoadFleet.TopologyHistory

/-- The number of events of a phase. -/
def count (phase : EventPhase) (events : List TopologyEvent) : Nat :=
  events.countP fun e => e.phase = phase

/-- From no event on, in the order of arrival, there are more starts than ends. -/
def Ended (events : List TopologyEvent) : Prop :=
  ∀ later, later <:+ events → count .start later ≤ count .finish later

/-- The positions of the events of a phase. -/
def positions (phase : EventPhase) (events : List TopologyEvent) : List Nat :=
  events.findIdxs fun e => e.phase = phase

/-- Every start has an end of its own that came later. -/
def Paired (events : List TopologyEvent) : Prop :=
  ∃ finish : Nat → Nat, (∀ i ∈ positions .start events, i < finish i) ∧
    (∀ i ∈ positions .start events, finish i ∈ positions .finish events) ∧
    ∀ i ∈ positions .start events, ∀ j ∈ positions .start events, finish i = finish j → i = j

section

variable {e : TopologyEvent} {events : List TopologyEvent} {phase : EventPhase}

theorem count_cons : count phase (e :: events) =
    count phase events + if e.phase = phase then 1 else 0 := by
  simp [count, List.countP_cons]

theorem count_reverse : count phase events.reverse = count phase events := List.countP_reverse

theorem mem_positions {i : Nat} :
    i ∈ positions phase events ↔ ∃ h : i < events.length, events[i].phase = phase := by
  rw [positions, List.mem_findIdxs_iff_exists_getElem_pos]
  simp only [decide_eq_true_eq]

theorem zero_mem_positions : 0 ∈ positions phase (e :: events) ↔ e.phase = phase := by
  simp [mem_positions]

theorem succ_mem_positions {i : Nat} :
    i + 1 ∈ positions phase (e :: events) ↔ i ∈ positions phase events := by
  simp [mem_positions]

theorem length_positions : (positions phase events).length = count phase events :=
  List.length_findIdxs

theorem nodup_positions : (positions phase events).Nodup := List.nodup_findIdxs

/-! ### What the count finds -/

/-- Looking through events, newest first, finds no start without an end exactly if among no number
of newest events there are more starts than ends, those known before included. -/
theorem allEnded_iff {ends : Nat} {newest : List TopologyEvent} :
    allEnded ends newest = true ↔
      ∀ later, later <+: newest → count .start later ≤ ends + count .finish later := by
  induction newest generalizing ends with
  | nil =>
    refine iff_of_true rfl fun later none => ?_
    rw [List.prefix_nil.1 none]
    exact Nat.zero_le _
  | cons e r ih =>
    have split : (∀ later, later <+: e :: r → count .start later ≤ ends + count .finish later) ↔
        ∀ later, later <+: r → count .start (e :: later) ≤ ends + count .finish (e :: later) := by
      constructor
      · intro all later initial
        exact all _ ((List.prefix_cons_inj e).2 initial)
      · intro all later initial
        rcases List.prefix_cons_iff.1 initial with rfl | ⟨later, rfl, rest⟩
        · exact Nat.zero_le _
        · exact all later rest
    rw [split, allEnded]
    simp only [count_cons]
    cases phase : e.phase with
    | finish =>
      simp only [ih, reduceCtorEq, ↓reduceIte, Nat.add_zero]
      simp only [Nat.add_assoc, Nat.add_comm 1]
    | single => simp only [ih, reduceCtorEq, ↓reduceIte, Nat.add_zero]
    | start =>
      simp only [reduceCtorEq, ↓reduceIte, Nat.add_zero]
      by_cases none : ends = 0
      · -- a start of which the end is not known fails by itself
        rw [if_pos none]
        refine iff_of_false Bool.false_ne_true fun all => ?_
        have := all [] List.nil_prefix
        simp [count, none] at this
      · rw [if_neg none, ih]
        constructor
        · intro all later initial
          have := all later initial
          omega
        · intro all later initial
          have := all later initial
          omega

theorem allEnded_reverse : allEnded 0 events.reverse = true ↔ Ended events := by
  rw [allEnded_iff]
  constructor
  · intro all later final
    have := all later.reverse (List.reverse_prefix.2 final)
    rwa [count_reverse, count_reverse, Nat.zero_add] at this
  · intro all later initial
    have final : later.reverse <:+ events := by
      rwa [← List.reverse_prefix, List.reverse_reverse]
    have := all later.reverse final
    rwa [count_reverse, count_reverse, ← Nat.zero_add (count .finish later)] at this

/-! ### Ends of their own -/

theorem Ended.tail (ended : Ended (e :: events)) : Ended events :=
  fun later final => ended later (final.trans (List.suffix_cons e events))

/-- Of more ends than starts, one is not taken. -/
theorem exists_free_end (finish : Nat → Nat)
    (more : count .start events < count .finish events) :
    ∃ k ∈ positions .finish events, ∀ i ∈ positions .start events, finish i ≠ k := by
  by_contra taken
  push Not at taken
  have covered : positions .finish events ⊆ (positions .start events).map finish := by
    intro k hk
    obtain ⟨i, hi, rfl⟩ := taken k hk
    exact List.mem_map_of_mem hi
  have fewer := (List.subperm_of_subset nodup_positions covered).length_le
  rw [List.length_map, length_positions, length_positions] at fewer
  exact Nat.not_lt.2 fewer more

theorem paired_of_ended (ended : Ended events) : Paired events := by
  induction events with
  | nil => exact ⟨id, nofun, nofun, nofun⟩
  | cons e r ih =>
    obtain ⟨finish, later, ends, own⟩ := ih ended.tail
    -- the end of the first event, which only matters if it is a start
    obtain ⟨first, free⟩ : ∃ first, e.phase = .start →
        first ∈ positions .finish r ∧ ∀ i ∈ positions .start r, finish i ≠ first := by
      by_cases start : e.phase = .start
      · have whole := ended _ List.suffix_rfl
        rw [count_cons, count_cons, if_pos start, if_neg (by simp [start])] at whole
        obtain ⟨k, hk, free⟩ := exists_free_end finish whole
        exact ⟨k, fun _ => ⟨hk, free⟩⟩
      · exact ⟨0, fun h => absurd h start⟩
    refine ⟨fun | 0 => first + 1 | i + 1 => finish i + 1, ?_, ?_, ?_⟩
    · rintro (_ | i) hi
      · exact Nat.succ_pos _
      · exact Nat.succ_lt_succ (later i (succ_mem_positions.1 hi))
    · rintro (_ | i) hi
      · exact succ_mem_positions.2 (free (zero_mem_positions.1 hi)).1
      · exact succ_mem_positions.2 (ends i (succ_mem_positions.1 hi))
    · rintro (_ | i) hi (_ | j) hj same
      · rfl
      · exact absurd (Nat.succ.inj same).symm
          ((free (zero_mem_positions.1 hi)).2 j (succ_mem_positions.1 hj))
      · exact absurd (Nat.succ.inj same)
          ((free (zero_mem_positions.1 hj)).2 i (succ_mem_positions.1 hi))
      · rw [own i (succ_mem_positions.1 hi) j (succ_mem_positions.1 hj) (Nat.succ.inj same)]

theorem Paired.tail (paired : Paired (e :: events)) : Paired events := by
  obtain ⟨finish, later, ends, own⟩ := paired
  -- the end of a start comes after it, and so is not the first event
  have behind (i : Nat) (hi : i ∈ positions .start events) :
      finish (i + 1) - 1 + 1 = finish (i + 1) :=
    Nat.sub_add_cancel (Nat.one_le_of_lt (later (i + 1) (succ_mem_positions.2 hi)))
  refine ⟨fun i => finish (i + 1) - 1, fun i hi => ?_, fun i hi => ?_, fun i hi j hj same => ?_⟩
  · exact Nat.lt_sub_of_add_lt (later (i + 1) (succ_mem_positions.2 hi))
  · have := ends (i + 1) (succ_mem_positions.2 hi)
    rw [← behind i hi] at this
    exact succ_mem_positions.1 this
  · have same : finish (i + 1) = finish (j + 1) := by
      rw [← behind i hi, ← behind j hj]
      exact congrArg (· + 1) same
    exact Nat.succ.inj (own _ (succ_mem_positions.2 hi) _ (succ_mem_positions.2 hj) same)

theorem Paired.suffix {later : List TopologyEvent} (paired : Paired events)
    (final : later <:+ events) : Paired later := by
  obtain ⟨before, rfl⟩ := final
  induction before with
  | nil => exact paired
  | cons e r ih => exact ih paired.tail

theorem Paired.le (paired : Paired events) : count .start events ≤ count .finish events := by
  obtain ⟨finish, -, ends, own⟩ := paired
  have distinct : ((positions .start events).map finish).Nodup :=
    List.Nodup.map_on own nodup_positions
  have taken : (positions .start events).map finish ⊆ positions .finish events := by
    intro k hk
    obtain ⟨i, hi, rfl⟩ := List.mem_map.1 hk
    exact ends i hi
  have fewer := (List.subperm_of_subset distinct taken).length_le
  rwa [List.length_map, length_positions, length_positions] at fewer

theorem ended_iff_paired : Ended events ↔ Paired events :=
  ⟨paired_of_ended, fun paired _ final => (paired.suffix final).le⟩

end

/-! ### Quiet histories -/

variable {cache : String} {period : Span} {now : Instant}

theorem not_within_iff {time : Instant} : (!within time now period) = true ↔
    period.nanos ≤ now - time := by
  simp [within]

theorem isQuiet_iff {h : TopologyHistory} {history : HistoryKind} :
    h.isQuiet cache period now history = true ↔
      (∀ e ∈ h.events cache history, period.nanos ≤ now - e.time) ∧
        Ended (h.events cache history) := by
  rw [isQuiet, Bool.and_eq_true, allEnded_reverse]
  simp only [List.all_reverse, List.all_eq_true, not_within_iff]

theorem membersQuiet_iff {h : TopologyHistory} :
    h.membersQuiet period now = true ↔
      ∀ changed, h.membersChanged = some changed → period.nanos ≤ now - changed := by
  rw [membersQuiet]
  cases h.membersChanged with
  | none => simp
  | some changed => simpa using not_within_iff

/-- **Histories are settled** exactly if each selected one that has events has only events at least
a period old, of which in the order of arrival the starts never outnumber the ends from some event
on, and if the members, when they are asked for and ever changed, last did so at least a period ago.
The starts never outnumber the ends exactly if each start has a later end of its own. -/
theorem isSettled_iff (h : TopologyHistory) (cache : String) (histories : OrderedSet HistoryKind)
    (checkMembership : Bool) (period : Span) (now : Instant) :
    (h.isSettled cache histories checkMembership period now = true ↔
      (∀ history ∈ histories.toList, h.events cache history ≠ [] →
        (∀ e ∈ h.events cache history, period.nanos ≤ now - e.time) ∧
          ∀ later, later <:+ h.events cache history → count .start later ≤ count .finish later) ∧
        (checkMembership = true →
          ∀ changed, h.membersChanged = some changed → period.nanos ≤ now - changed)) ∧
      ∀ history, (∀ later, later <:+ h.events cache history →
        count .start later ≤ count .finish later) ↔ Paired (h.events cache history) := by
  refine ⟨?_, fun history => ended_iff_paired⟩
  have members : (!checkMembership || h.membersQuiet period now) = true ↔
      (checkMembership = true →
        ∀ changed, h.membersChanged = some changed → period.nanos ≤ now - changed) := by
    rw [← membersQuiet_iff]
    cases checkMembership <;> simp
  rw [isSettled, Bool.and_eq_true, members, List.all_eq_true]
  refine and_congr_left' (forall₂_congr fun history _ => ?_)
  rw [isQuiet_iff]
  constructor
  · intro quiet _
    exact quiet
  · intro quiet
    by_cases none : h.events cache history = []
    · rw [none]
      refine ⟨nofun, fun later final => ?_⟩
      rw [List.suffix_nil.1 final]
      exact Nat.le_refl _
    · exact quiet none

/-- An end without a start does no harm, a start behind the last end does. -/
example :
    let e (id : EventId) (phase : EventPhase) : TopologyEvent :=
      ⟨id, defaultCache, .rehash, phase, id, 2⟩
    let h (log : List TopologyEvent) : TopologyHistory := ⟨log, [], none⟩
    let settled (h : TopologyHistory) : Bool :=
      h.isSettled defaultCache (.ofList [.rehash]) true (.ofNanos 5) 9
    settled (h [e 0 .finish, e 1 .start, e 2 .single, e 3 .finish]) = true ∧
      settled (h [e 0 .start, e 1 .finish, e 2 .start]) = false := by
  decide

end LoadFleet.TopologyHistory
