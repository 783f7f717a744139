import LoadFleet.Topology.Timeline
/-!
# What looks at a history find

A history goes on while a wait looks at it.  Since events are only added, and get greater numbers as
they arrive, every look from the arrival of the earliest matching event on finds this event, and no
look before finds any.

* `EventQuery.Matches`: what a wait is for.  A look finds the first event of the log that it is for
  (`TopologyHistory.find?_eq_some_iff`).
* `Timeline.arrivals`: the events of a timeline with the times from which they can be seen.
  `Timeline.Earliest` is the event among them that a wait should find.
* `Timeline.seen_log`: what is seen at a time are the events that arrived until then.
* `Timeline.find?_of_none_arrived`, `Timeline.find?_of_earliest`: what a look finds, by when it is
  taken.
-/

namespace LoadFleet

/-! ### What a wait is for -/

namespace TopologyHistory

/-- What a wait for an event is for. -/
structure EventQuery.Matches (q : EventQuery) (e : TopologyEvent) : Prop where
  cache : e.cache = q.cache
  history : e.history = q.history
  after : ∀ marker, q.after = some marker → marker < e.id
  phase : e.phase = .single ∨ q.condition = .start ∧ e.phase = .start ∨
    q.condition = .finish ∧ e.phase = .finish
  enough : q.minMembers ≤ e.members
  few : e.members ≤ q.maxMembers

theorem satisfies_iff {e : TopologyEvent} {condition : EventCondition} :
    e.satisfies condition = true ↔ e.phase = .single ∨ condition = .start ∧ e.phase = .start ∨
      condition = .finish ∧ e.phase = .finish := by
  cases condition with
  | start => simp [TopologyEvent.satisfies, or_comm]
  | finish => simp [TopologyEvent.satisfies, or_comm]

theorem isAfter_iff {marker : Option EventId} {e : TopologyEvent} :
    isAfter marker e = true ↔ ∀ m, marker = some m → m < e.id := by
  cases marker <;> simp [isAfter]

variable {h : TopologyHistory} {q : EventQuery} {e : TopologyEvent}

theorem matches_iff :
    e.isOf q.cache q.history = true ∧ isAfter q.after e = true ∧ q.accepts e = true ↔
      q.Matches e := by
  simp only [TopologyEvent.isOf, EventQuery.accepts, Bool.and_eq_true, decide_eq_true_eq,
    satisfies_iff, isAfter_iff]
  constructor
  · rintro ⟨⟨cache, history⟩, after, ⟨phase, enough⟩, few⟩
    exact ⟨cache, history, after, phase, enough, few⟩
  · rintro ⟨cache, history, after, phase, enough, few⟩
    exact ⟨⟨cache, history⟩, after, ⟨phase, enough⟩, few⟩

/-- A look finds the first event of the log that it is for. -/
theorem find?_eq_some_iff : h.find? q = some e ↔
    ∃ earlier later, h.log = earlier ++ e :: later ∧ q.Matches e ∧
      ∀ x ∈ earlier, ¬ q.Matches x := by
  simp only [find?, events, List.find?_filter, List.find?_eq_some_iff_append, Bool.not_eq_true',
    decide_eq_true_eq, decide_eq_false_iff_not, matches_iff]
  constructor
  · rintro ⟨matched, earlier, later, log, before⟩
    exact ⟨earlier, later, log, matched, before⟩
  · rintro ⟨earlier, later, log, matched, before⟩
    exact ⟨matched, earlier, later, log, before⟩

theorem find?_eq_none_iff : h.find? q = none ↔ ∀ x ∈ h.log, ¬ q.Matches x := by
  simp only [find?, events, List.find?_filter, List.find?_eq_none, decide_eq_true_eq, matches_iff]

end TopologyHistory

/-! ### What arrives -/

/-- The event that a change adds, with the next number. -/
def TopologyChange.event? (c : TopologyChange) (time : Instant) (id : EventId) :
    Option TopologyEvent :=
  match c with
  | event cache history phase members happened =>
    some ⟨id, cache, history, phase, happened.getD time, members⟩
  | membership _ => none

theorem TopologyChange.log_apply (c : TopologyChange) (time : Instant) (h : TopologyHistory) :
    (c.apply time h).log = h.log ++ (c.event? time h.nextId).toList := by
  cases c with
  | event cache history phase members happened => rfl
  | membership names =>
    simp only [apply, event?, TopologyHistory.setMembers]
    split <;> simp

namespace Timeline

/-- The events among changes to come, with their times of arrival. -/
def arriving : EventId → List (Instant × TopologyChange) → List (Instant × TopologyEvent)
  | _, [] => []
  | id, (time, c) :: r =>
    match c.event? time id with
    | some e => (time, e) :: arriving (id + 1) r
    | none => arriving id r

/-- The events of a timeline in the order of their arrival, with the times from which they can be
seen.  The events of the history have been there all the time. -/
def arrivals (t : Timeline) : List (Instant × TopologyEvent) :=
  t.history.log.map (fun e => (0, e)) ++ arriving t.history.nextId t.scheduled

/-- The event that a wait should find: the first one that it is for, which can be seen from
`arrival` on. -/
def Earliest (t : Timeline) (q : TopologyHistory.EventQuery) (e : TopologyEvent)
    (arrival : Instant) : Prop :=
  ∃ earlier later, t.arrivals = earlier ++ (arrival, e) :: later ∧ q.Matches e ∧
    ∀ x ∈ earlier, ¬ q.Matches x.2

theorem log_foldl (changes : List (Instant × TopologyChange)) (h : TopologyHistory) :
    (changes.foldl (fun h c => c.2.apply c.1 h) h).log =
      h.log ++ (arriving h.nextId changes).map (·.2) := by
  induction changes generalizing h with
  | nil => simp [arriving]
  | cons c r ih =>
    obtain ⟨time, c⟩ := c
    -- the next event gets the number after the ones that are there
    have log := c.log_apply time h
    have next : (c.apply time h).nextId = h.nextId + (c.event? time h.nextId).toList.length := by
      rw [TopologyHistory.nextId, log, List.length_append]
      rfl
    rw [List.foldl_cons, ih, log, arriving, next]
    cases c.event? time h.nextId with
    | none => simp
    | some e => simp

theorem exists_change_of_mem_arriving {id : EventId} {changes : List (Instant × TopologyChange)}
    {x : Instant × TopologyEvent} (h : x ∈ arriving id changes) : ∃ c ∈ changes, c.1 = x.1 := by
  induction changes generalizing id with
  | nil => cases h
  | cons c r ih =>
    obtain ⟨time, c⟩ := c
    rw [arriving] at h
    cases hc : c.event? time id with
    | none =>
      obtain ⟨d, hd, same⟩ := ih (by simpa [hc] using h)
      exact ⟨d, List.mem_cons_of_mem _ hd, same⟩
    | some e =>
      simp only [hc, List.mem_cons] at h
      rcases h with rfl | h
      · exact ⟨(time, c), List.mem_cons_self, rfl⟩
      · obtain ⟨d, hd, same⟩ := ih h
        exact ⟨d, List.mem_cons_of_mem _ hd, same⟩

/-- Events arrive in the order of their times. -/
theorem arriving_ordered {changes : List (Instant × TopologyChange)}
    (ordered : changes.Pairwise fun c d => c.1 ≤ d.1) (id : EventId) :
    (arriving id changes).Pairwise fun x y => x.1 ≤ y.1 := by
  induction ordered generalizing id with
  | nil => exact .nil
  | @cons c r first _ ih =>
    obtain ⟨time, c⟩ := c
    rw [arriving]
    cases c.event? time id with
    | none => exact ih id
    | some e =>
      refine .cons ?_ (ih (id + 1))
      intro x hx
      obtain ⟨d, hd, same⟩ := exists_change_of_mem_arriving hx
      exact same ▸ first d hd

/-- What arrives until a time are the events among the changes until then. -/
theorem arriving_filter {changes : List (Instant × TopologyChange)}
    (ordered : changes.Pairwise fun c d => c.1 ≤ d.1) (now : Instant) (id : EventId) :
    arriving id (changes.filter fun c => c.1 ≤ now) =
      (arriving id changes).filter fun x => x.1 ≤ now := by
  induction ordered generalizing id with
  | nil => rfl
  | @cons c r first ordered ih =>
    obtain ⟨time, c⟩ := c
    by_cases due : time ≤ now
    · rw [List.filter_cons_of_pos (by simpa using due), arriving, arriving]
      cases c.event? time id with
      | none => exact ih id
      | some e => rw [List.filter_cons_of_pos (by simpa using due), ih (id + 1)]
    · -- nothing after a change that is not due is due
      have later : ∀ d ∈ (time, c) :: r, ¬ d.1 ≤ now := by
        intro d hd
        rcases List.mem_cons.1 hd with rfl | hd
        · exact due
        · exact fun h => due (Nat.le_trans (first d hd) h)
      rw [List.filter_eq_nil_iff.2 (by simpa using later)]
      refine (List.filter_eq_nil_iff.2 fun x hx => ?_).symm
      obtain ⟨d, hd, same⟩ := exists_change_of_mem_arriving hx
      simpa [← same] using later d hd

/-! ### What a look sees -/

variable {t : Timeline} {q : TopologyHistory.EventQuery} {e : TopologyEvent} {arrival now : Instant}

/-- **What is seen at a time are the events that arrived until then.** -/
theorem seen_log (t : Timeline) (now : Instant) :
    (t.seen now).log = (t.arrivals.filter fun x => x.1 ≤ now).map (·.2) := by
  have log : t.history.log.map (fun e => (0, e)) =
      (t.history.log.map fun e => (0, e)).filter fun x : Instant × TopologyEvent => x.1 ≤ now := by
    refine (List.filter_eq_self.2 fun x hx => ?_).symm
    obtain ⟨e, -, rfl⟩ := List.mem_map.1 hx
    simp
  rw [seen, log_foldl, arriving_filter t.ordered, arrivals, List.filter_append, ← log]
  simp [Function.comp_def]

theorem arrivals_ordered (t : Timeline) : t.arrivals.Pairwise fun x y => x.1 ≤ y.1 := by
  refine List.pairwise_append.2 ⟨?_, arriving_ordered t.ordered _, ?_⟩
  · exact List.pairwise_map.2 (List.pairwise_of_forall fun _ _ => Nat.le_refl 0)
  · intro x hx y _
    obtain ⟨e, -, rfl⟩ := List.mem_map.1 hx
    exact Nat.zero_le _

theorem le_lastChange (t : Timeline) {c : Instant × TopologyChange} (h : c ∈ t.scheduled) :
    c.1 ≤ t.lastChange := by
  have (changes : List (Instant × TopologyChange)) (last : Instant) :
      last ≤ changes.foldl (fun last c => max last c.1) last ∧
        ∀ c ∈ changes, c.1 ≤ changes.foldl (fun last c => max last c.1) last := by
    induction changes generalizing last with
    | nil => simp
    | cons d r ih =>
      obtain ⟨start, rest⟩ := ih (max last d.1)
      refine ⟨Nat.le_trans (Nat.le_max_left _ _) start, ?_⟩
      intro c hc
      rcases List.mem_cons.1 hc with rfl | hc
      · exact Nat.le_trans (Nat.le_max_right _ _) start
      · exact rest c hc
  exact (this t.scheduled 0).2 c h

theorem arrival_le_lastChange {x : Instant × TopologyEvent} (h : x ∈ t.arrivals) :
    x.1 ≤ t.lastChange := by
  rcases List.mem_append.1 h with h | h
  · obtain ⟨e, -, rfl⟩ := List.mem_map.1 h
    exact Nat.zero_le _
  · obtain ⟨c, hc, same⟩ := exists_change_of_mem_arriving h
    exact same ▸ t.le_lastChange hc

/-- A look finds nothing before anything that it is for arrives. -/
theorem find?_of_none_arrived (h : ∀ x ∈ t.arrivals, x.1 ≤ now → ¬ q.Matches x.2) :
    (t.seen now).find? q = none := by
  refine TopologyHistory.find?_eq_none_iff.2 fun x hx => ?_
  rw [seen_log] at hx
  obtain ⟨y, hy, rfl⟩ := List.mem_map.1 hx
  obtain ⟨hy, due⟩ := List.mem_filter.1 hy
  exact h y hy (by simpa using due)

/-- Before the arrival of the earliest event nothing that the wait is for arrives. -/
theorem Earliest.none_arrived (h : t.Earliest q e arrival) (early : now < arrival) :
    ∀ x ∈ t.arrivals, x.1 ≤ now → ¬ q.Matches x.2 := by
  obtain ⟨earlier, later, arrivals, -, before⟩ := h
  intro x hx due
  have ordered := arrivals ▸ t.arrivals_ordered
  rw [arrivals] at hx
  rcases List.mem_append.1 hx with hx | hx
  · exact before x hx
  · -- what arrives with the event or after it has not arrived yet
    have after : arrival ≤ x.1 := by
      rcases List.mem_cons.1 hx with rfl | hx
      · exact Nat.le_refl _
      · exact (List.pairwise_cons.1 (List.pairwise_append.1 ordered).2.1).1 x hx
    exact absurd (Nat.le_trans after due) (Nat.not_le.2 early)

theorem Earliest.le_lastChange (h : t.Earliest q e arrival) : arrival ≤ t.lastChange := by
  obtain ⟨earlier, later, arrivals, -, -⟩ := h
  have member : (arrival, e) ∈ t.arrivals := by simp [arrivals]
  exact arrival_le_lastChange member

/-- A look from the arrival on finds the event. -/
theorem find?_of_earliest (h : t.Earliest q e arrival) (due : arrival ≤ now) :
    (t.seen now).find? q = some e := by
  obtain ⟨earlier, later, arrivals, matched, before⟩ := h
  refine TopologyHistory.find?_eq_some_iff.2
    ⟨(earlier.filter fun x => x.1 ≤ now).map (·.2), (later.filter fun x => x.1 ≤ now).map (·.2),
      ?_, matched, fun x hx => ?_⟩
  · rw [seen_log, arrivals, List.filter_append, List.filter_cons_of_pos (by simpa using due),
      List.map_append, List.map_cons]
  · obtain ⟨y, hy, rfl⟩ := List.mem_map.1 hx
    exact before y (List.mem_filter.1 hy).1

end Timeline

end LoadFleet
