import LoadFleet.Proofs.QuietHistories
import LoadFleet.Topology.Timeline
/-!
# Recent changes and settled histories

A history is judged in two ways.  A check for recent changes looks at its newest event only; whether
it is settled is found by looking at all its events.  Where events are recorded in the order in
which they happen, no event is newer than the newest one, and the two judge the same age.  What
makes the difference is then only whether every start has an end, and the members.

What is settled gets no younger: an age only grows as time goes by, also the age of what lies ahead,
which is zero until then.  So it stays settled until something is recorded, and is settled for any
period that is shorter.

* `forall_old_iff`: in the order of time, events are as old as the newest one at least.
* `isSettled_iff_checks`: settled is quiet by the newest events, with ends and quiet members.
* `isSettled_mono`: later, for shorter periods and for fewer histories.
* `Timeline.Undisturbed.seen_eq`: a history stays as it is until something is recorded.
* `isSettled_agrees`: the main statement.
-/

namespace LoadFleet

namespace TopologyHistory

/-- Events were recorded in the order in which they happened. -/
def InOrder (h : TopologyHistory) : Prop := h.log.Pairwise fun a b => a.time ≤ b.time

/-- The members did not change within a period, or are not asked for. -/
def MembersStay (h : TopologyHistory) (checkMembership : Bool) (period : Span) (now : Instant) :
    Prop :=
  checkMembership = true → ∀ changed, h.membersChanged = some changed → period.nanos ≤ now - changed

variable {h : TopologyHistory} {cache : String} {history : HistoryKind}
  {histories : OrderedSet HistoryKind} {checkMembership : Bool} {period : Span} {now : Instant}

theorem inOrder_empty : empty.InOrder := .nil

theorem InOrder.record (ordered : h.InOrder) {time : Instant}
    (last : ∀ e ∈ h.log, e.time ≤ time) (cache : String) (history : HistoryKind)
    (phase : EventPhase) (members : UInt64) :
    (h.record cache history phase members time).InOrder :=
  List.pairwise_append.2 ⟨ordered, List.pairwise_singleton _ _, fun e he _ new => by
    rw [List.mem_singleton.1 new]
    exact last e he⟩

/-! ### The newest event -/

theorem checkRecent_eq_true_iff {expectChange : Bool} :
    h.checkRecent cache history period expectChange now = true ↔
      h.changedWithin cache history period now = expectChange := by
  rw [checkRecent, decide_eq_true_eq]

theorem changedWithin_eq_false_iff : h.changedWithin cache history period now = false ↔
    ∀ e, h.newest? cache history = some e → period.nanos ≤ now - e.time := by
  rw [changedWithin]
  cases h.newest? cache history with
  | none => simp
  | some e => simpa using not_within_iff

/-- In the order of time, all events are old as soon as the last one is. -/
theorem forall_old_iff {events : List TopologyEvent}
    (ordered : events.Pairwise fun a b => a.time ≤ b.time) :
    (∀ e ∈ events, period.nanos ≤ now - e.time) ↔
      ∀ e, events.getLast? = some e → period.nanos ≤ now - e.time := by
  constructor
  · intro all e newest
    exact all e (List.mem_of_getLast? newest)
  · intro newest e he
    obtain ⟨last, hlast⟩ : ∃ last, events.getLast? = some last :=
      ⟨_, List.getLast?_eq_some_getLast (List.ne_nil_of_mem he)⟩
    obtain ⟨earlier, rfl⟩ := List.getLast?_eq_some_iff.1 hlast
    have before : e.time ≤ last.time := by
      rcases List.mem_append.1 he with earlier | same
      · exact (List.pairwise_append.1 ordered).2.2 e earlier last (.head _)
      · exact Nat.le_of_eq (by rw [List.mem_singleton.1 same])
    exact Nat.le_trans (newest last hlast) (Nat.sub_le_sub_left before now)

/-! ### Settled histories -/

/-- What is settled, said history by history. -/
theorem isSettled_iff_quiet : h.isSettled cache histories checkMembership period now = true ↔
    (∀ history ∈ histories.toList, (∀ e ∈ h.events cache history, period.nanos ≤ now - e.time) ∧
      Paired (h.events cache history)) ∧
    h.MembersStay checkMembership period now := by
  have members : (!checkMembership || h.membersQuiet period now) = true ↔
      h.MembersStay checkMembership period now := by
    rw [MembersStay, ← membersQuiet_iff]
    cases checkMembership <;> simp
  rw [isSettled, Bool.and_eq_true, members, List.all_eq_true]
  simp only [isQuiet_iff, ended_iff_paired]

/-- A settled history has not changed recently. -/
theorem checkRecent_of_isSettled
    (settled : h.isSettled cache histories checkMembership period now = true)
    (selected : history ∈ histories.toList) (expectChange : Bool) :
    h.checkRecent cache history period expectChange now = !expectChange := by
  have old := ((isSettled_iff_quiet.1 settled).1 history selected).1
  have unchanged : h.changedWithin cache history period now = false :=
    changedWithin_eq_false_iff.2 fun e newest => old e (List.mem_of_getLast? newest)
  rw [checkRecent, unchanged]
  cases expectChange <;> rfl

/-- **Settled, by the newest events.**  Of histories that are recorded in the order of time, the
newest events tell whether they are settled, if the starts have ends and the members stay. -/
theorem isSettled_iff_checks (ordered : h.InOrder) :
    h.isSettled cache histories checkMembership period now = true ↔
      (∀ history ∈ histories.toList, h.checkRecent cache history period false now = true) ∧
      (∀ history ∈ histories.toList, Paired (h.events cache history)) ∧
      h.MembersStay checkMembership period now := by
  rw [isSettled_iff_quiet, ← and_assoc, ← forall₂_and]
  refine and_congr_left' (forall₂_congr fun history _ => and_congr_left' ?_)
  rw [checkRecent_eq_true_iff, changedWithin_eq_false_iff]
  exact forall_old_iff (ordered.filter _)

/-- What is settled stays so as time goes by, and is so for shorter periods and fewer histories. -/
theorem isSettled_mono {histories' : OrderedSet HistoryKind} {period' : Span} {later : Instant}
    (settled : h.isSettled cache histories checkMembership period now = true)
    (fewer : histories'.toList ⊆ histories.toList) (shorter : period'.nanos ≤ period.nanos)
    (after : now ≤ later) :
    h.isSettled cache histories' checkMembership period' later = true := by
  have older {time : Instant} (old : period.nanos ≤ now - time) : period'.nanos ≤ later - time :=
    Nat.le_trans shorter (Nat.le_trans old (Nat.sub_le_sub_right after time))
  obtain ⟨quiet, members⟩ := isSettled_iff_quiet.1 settled
  refine isSettled_iff_quiet.2 ⟨fun history selected => ?_, fun check changed last => ?_⟩
  · obtain ⟨old, paired⟩ := quiet history (fewer selected)
    exact ⟨fun e he => older (old e he), paired⟩
  · exact older (members check changed last)

end TopologyHistory

/-! ### Until something is recorded -/

namespace Timeline

/-- From one time to another no event is recorded, and no other members are. -/
def Undisturbed (t : Timeline) (now later : Instant) : Prop :=
  ∀ c ∈ t.scheduled, now < c.1 → c.1 ≤ later → c.2 = .membership (t.seen now).members

/-- What is due at a later time is what is due now, and what comes in between. -/
theorem due_append {changes : List (Instant × TopologyChange)}
    (ordered : changes.Pairwise fun c d => c.1 ≤ d.1) {now later : Instant} (after : now ≤ later) :
    changes.filter (fun c => c.1 ≤ later) =
      changes.filter (fun c => c.1 ≤ now) ++ changes.filter fun c => now < c.1 ∧ c.1 ≤ later := by
  induction ordered with
  | nil => rfl
  | @cons c r first _ ih =>
    by_cases due : c.1 ≤ now
    · rw [List.filter_cons_of_pos (by simpa using Nat.le_trans due after),
        List.filter_cons_of_pos (by simpa using due),
        List.filter_cons_of_neg (by simpa using fun h => absurd due (Nat.not_le.2 h)), ih]
      rfl
    · -- nothing after a change that is not due is due
      have ahead (d : Instant × TopologyChange) (hd : d ∈ c :: r) : now < d.1 := by
        rcases List.mem_cons.1 hd with rfl | hd
        · exact Nat.not_le.1 due
        · exact Nat.lt_of_lt_of_le (Nat.not_le.1 due) (first d hd)
      have none : (c :: r).filter (fun c => c.1 ≤ now) = [] :=
        List.filter_eq_nil_iff.2 fun d hd => by simpa using ahead d hd
      rw [none, List.nil_append]
      exact List.filter_congr fun d hd => by simp [ahead d hd]

/-- **A history stays as it is** until an event or other members are recorded. -/
theorem Undisturbed.seen_eq {t : Timeline} {now later : Instant} (calm : t.Undisturbed now later)
    (after : now ≤ later) : t.seen later = t.seen now := by
  rw [seen, due_append t.ordered after, List.foldl_append, ← seen]
  -- by induction on the changes in between, each of which changes nothing
  have still (changes : List (Instant × TopologyChange))
      (same : ∀ c ∈ changes, c.2 = .membership (t.seen now).members) :
      changes.foldl (fun h c => c.2.apply c.1 h) (t.seen now) = t.seen now := by
    induction changes with
    | nil => rfl
    | cons c r ih =>
      have nothing : c.2.apply c.1 (t.seen now) = t.seen now := by
        rw [same c (.head _), TopologyChange.apply, TopologyHistory.setMembers, if_pos rfl]
      rw [List.foldl_cons, nothing]
      exact ih fun d hd => same d (.tail _ hd)
  refine still _ fun c hc => ?_
  obtain ⟨hm, between⟩ := List.mem_filter.1 hc
  obtain ⟨begun, due⟩ := of_decide_eq_true between
  exact calm c hm begun due

end Timeline

/-- **Both ways to judge a history agree.**  If histories are settled, a check for recent changes
with the same period finds none in any of them.  If events were recorded in the order in which they
happened, histories are settled exactly if these checks find nothing, every start has an end of its
own that came later, and the members are quiet or not asked for.  Once histories are settled, they
are settled at every later time until an event or a change of the members is recorded, for every
period that is not longer, and so is every part of them. -/
theorem TopologyHistory.isSettled_agrees (h : TopologyHistory) (cache : String)
    (histories : OrderedSet HistoryKind) (checkMembership : Bool) (period : Span) (now : Instant) :
    (h.isSettled cache histories checkMembership period now = true →
      (∀ history ∈ histories.toList,
        h.checkRecent cache history period false now = true ∧
          h.checkRecent cache history period true now = false) ∧
      ∀ (t : Timeline) (later : Instant), t.seen now = h → now ≤ later →
        t.Undisturbed now later →
        ∀ period' : Span, period'.nanos ≤ period.nanos →
        ∀ histories' : OrderedSet HistoryKind, histories'.toList ⊆ histories.toList →
          (t.seen later).isSettled cache histories' checkMembership period' later = true) ∧
    (h.InOrder →
      (h.isSettled cache histories checkMembership period now = true ↔
        (∀ history ∈ histories.toList, h.checkRecent cache history period false now = true) ∧
        (∀ history ∈ histories.toList, Paired (h.events cache history)) ∧
        (checkMembership = true →
          ∀ changed, h.membersChanged = some changed → period.nanos ≤ now - changed))) := by
  refine ⟨fun settled => ⟨fun history selected => ?_, ?_⟩, isSettled_iff_checks⟩
  · exact ⟨checkRecent_of_isSettled settled selected false,
      checkRecent_of_isSettled settled selected true⟩
  · intro t later seen after calm period' shorter histories' fewer
    rw [calm.seen_eq after, seen]
    exact isSettled_mono settled fewer shorter after

/-- A rehash that ended at two has been over for five at seven. It has been over for four at nine,
where the same members are told again in between. -/
theorem TopologyHistory.isSettled_agrees_rehash :
    let h : TopologyHistory := ((empty.setMembers ["a"] 0).record defaultCache .rehash .start 2
      1).record defaultCache .rehash .finish 2 2
    let t : Timeline := ⟨h, [(8, .membership ["a"])], by decide⟩
    let histories : OrderedSet HistoryKind := .ofList [.rehash]
    h.InOrder ∧ t.seen 7 = h ∧ t.Undisturbed 7 9 ∧
      h.isSettled defaultCache histories true (.ofNanos 5) 7 = true ∧
      (t.seen 9).isSettled defaultCache histories true (.ofNanos 4) 9 = true ∧
      h.checkRecent defaultCache .rehash (.ofNanos 5) true 7 = false := by
  intro h t histories
  have begun : (empty.setMembers ["a"] 0).InOrder := inOrder_empty
  have ordered : h.InOrder :=
    (begun.record nofun _ _ _ _).record (by decide) defaultCache .rehash .finish 2
  have seen : t.seen 7 = h := by decide
  have calm : t.Undisturbed 7 9 := by
    intro c hc _ _
    rw [List.mem_singleton.1 hc, seen]
    rfl
  have paired (history : HistoryKind) (selected : history ∈ histories.toList) :
      Paired (h.events defaultCache history) := by
    rw [← ended_iff_paired, ← allEnded_reverse]
    revert history
    decide
  obtain ⟨stays, checks⟩ := h.isSettled_agrees defaultCache histories true (.ofNanos 5) 7
  have settled : h.isSettled defaultCache histories true (.ofNanos 5) 7 = true :=
    (checks ordered).2 ⟨by decide, paired, fun _ changed last => by cases last; decide⟩
  obtain ⟨unchanged, later⟩ := stays settled
  exact ⟨ordered, seen, calm, settled,
    later t 9 seen (by decide) calm (.ofNanos 4) (by decide) histories fun _ selected => selected,
    (unchanged .rehash (by decide)).2⟩

end LoadFleet
