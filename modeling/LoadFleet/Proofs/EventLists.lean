import LoadFleet.Proofs.Markers
import Mathlib.Data.Finmap
/-!
# Many lists of events under one count

Events of all caches and kinds arrive one after the other, and one count numbers all of them.  A
history keeps them in one log.  Kept apart, they are one list for each cache and kind, and an event
that arrives goes to the end of the list it is for.  Both tell the same: the list of a cache and
kind is the part of the log that belongs to it.

So numbers grow along every list, and no two lists share one.  A marker that is taken at the newest
event of a list is not less than any number that was given in that list before, and less than every
number that is given later.  What comes behind it in the list is what arrived later.

* `EventLists`: the lists, with the count that they share.
* `EventLists.events_add`, `TopologyHistory.events_add`: an event is added to one list only.
* `TopologyHistory.log_addAll`, `TopologyHistory.events_addAll`: what is kept of all that arrives.
* `TopologyHistory.filter_isAfter_latest?`: what comes behind a marker.
* `EventLists.Keeps`: lists hold the same as a history.  What arrives keeps this
  (`EventLists.Keeps.addAll`).
* `TopologyHistory.events_of_occurrences`: the main statement.
-/

namespace LoadFleet

/-! ### What arrives -/

/-- What is told of an event when it arrives, before it has a number. -/
structure Occurrence where
  cache : String
  history : HistoryKind
  phase : EventPhase
  members : UInt64
  /-- When it happened. -/
  time : Instant

/-- What was told of an event. -/
def TopologyEvent.occurrence (e : TopologyEvent) : Occurrence :=
  ⟨e.cache, e.history, e.phase, e.members, e.time⟩

namespace Occurrence

/-- Whether it belongs to the history of a kind in a cache. -/
def isOf (o : Occurrence) (cache : String) (history : HistoryKind) : Bool :=
  o.cache = cache && o.history = history

/-- The event under its number. -/
def event (o : Occurrence) (id : EventId) : TopologyEvent :=
  ⟨id, o.cache, o.history, o.phase, o.time, o.members⟩

/-- The events of what arrives one after the other, numbered from the first on. -/
def eventsFrom (first : EventId) (arriving : List Occurrence) : List TopologyEvent :=
  arriving.mapIdx fun i o => o.event (first + i)

variable {o : Occurrence} {cache : String} {history : HistoryKind} {first : EventId}
  {arriving : List Occurrence} {e : TopologyEvent}

theorem isOf_iff (o : Occurrence) :
    o.isOf cache history = true ↔ o.cache = cache ∧ o.history = history := by
  simp [isOf]

theorem eventsFrom_nil : eventsFrom first [] = [] := rfl

theorem eventsFrom_cons :
    eventsFrom first (o :: arriving) = o.event first :: eventsFrom (first + 1) arriving := by
  simp only [eventsFrom, List.mapIdx_cons, Nat.add_zero, Nat.add_assoc, Nat.add_comm 1]

theorem length_eventsFrom : (eventsFrom first arriving).length = arriving.length :=
  List.length_mapIdx

theorem le_of_mem_eventsFrom (mem : e ∈ eventsFrom first arriving) : first ≤ e.id := by
  obtain ⟨i, _, rfl⟩ := List.mem_mapIdx.1 mem
  exact Nat.le_add_right first i

/-- Of what arrives for a cache and kind, nothing gets lost or is changed. -/
theorem told_eventsFrom :
    ((eventsFrom first arriving).filter fun e => e.isOf cache history).map (·.occurrence) =
      arriving.filter fun o => o.isOf cache history := by
  have told : (eventsFrom first arriving).map (·.occurrence) = arriving := by
    induction arriving generalizing first with
    | nil => rfl
    | cons o r ih =>
      rw [eventsFrom_cons, List.map_cons, ih]
      rfl
  conv_rhs => rw [← told, List.filter_map]
  rfl

end Occurrence

open Occurrence (eventsFrom)

/-! ### One list for each cache and kind -/

/-- A list of events for each cache and kind that has any, and the next number for all of them.
Numbers do not run out: whatever keeps the events is full before a word has counted to its end. -/
structure EventLists where
  nextId : EventId
  lists : Finmap fun _ : String × HistoryKind => List TopologyEvent

namespace EventLists

/-- No lists yet. -/
def empty : EventLists := ⟨0, ∅⟩

/-- The events of a kind in a cache. -/
def events (l : EventLists) (cache : String) (history : HistoryKind) : List TopologyEvent :=
  (l.lists.lookup (cache, history)).getD []

/-- Adds an event at the end of the list it is for, which begins with it if it is the first. -/
def add (l : EventLists) (o : Occurrence) : EventLists where
  nextId := l.nextId + 1
  lists := l.lists.insert (o.cache, o.history) (l.events o.cache o.history ++ [o.event l.nextId])

/-- Adds what arrives, one after the other. -/
def addAll (l : EventLists) (arriving : List Occurrence) : EventLists := arriving.foldl add l

/-- The number of the newest event of a kind in a cache. -/
def latest? (l : EventLists) (cache : String) (history : HistoryKind) : Option EventId :=
  (l.lists.lookup (cache, history)).bind fun events => events.getLast?.map (·.id)

/-- The earliest event that satisfies a wait. -/
def find? (l : EventLists) (q : TopologyHistory.EventQuery) : Option TopologyEvent :=
  (l.lists.lookup (q.cache, q.history)).bind fun events =>
    (events.filter (TopologyHistory.isAfter q.after)).find? q.accepts

variable {l : EventLists} {o : Occurrence} {cache : String} {history : HistoryKind}

/-- **An event is added to one list**, at its end. -/
theorem events_add : (l.add o).events cache history =
    l.events cache history ++ if o.isOf cache history then [o.event l.nextId] else [] := by
  by_cases own : o.cache = cache ∧ o.history = history
  · rw [if_pos (o.isOf_iff.2 own)]
    obtain ⟨rfl, rfl⟩ := own
    rw [add, events, Finmap.lookup_insert, Option.getD_some]
  · rw [if_neg (mt o.isOf_iff.1 own), List.append_nil]
    have apart : (cache, history) ≠ (o.cache, o.history) := by
      intro same
      cases same
      exact own ⟨rfl, rfl⟩
    rw [add, events, Finmap.lookup_insert_of_ne _ apart, events]

theorem latest?_eq : l.latest? cache history = (l.events cache history).getLast?.map (·.id) := by
  rw [latest?, events]
  cases l.lists.lookup (cache, history) <;> rfl

theorem find?_eq (q : TopologyHistory.EventQuery) : l.find? q =
    ((l.events q.cache q.history).filter (TopologyHistory.isAfter q.after)).find? q.accepts := by
  rw [find?, events]
  cases l.lists.lookup (q.cache, q.history) <;> rfl

end EventLists

/-! ### Histories -/

namespace TopologyHistory

/-- Records what arrives. -/
def add (h : TopologyHistory) (o : Occurrence) : TopologyHistory :=
  h.record o.cache o.history o.phase o.members o.time

/-- Records what arrives, one after the other. -/
def addAll (h : TopologyHistory) (arriving : List Occurrence) : TopologyHistory :=
  arriving.foldl add h

variable {h : TopologyHistory} {o : Occurrence} {cache : String} {history : HistoryKind}
  {arriving : List Occurrence} {d e : TopologyEvent}

theorem log_add : (h.add o).log = h.log ++ [o.event h.nextId] := rfl

theorem nextId_add : (h.add o).nextId = h.nextId + 1 := by
  rw [nextId, log_add, List.length_append, List.length_singleton, nextId]

/-- **An event is added to one list of the history**, at its end. -/
theorem events_add : (h.add o).events cache history =
    h.events cache history ++ if o.isOf cache history then [o.event h.nextId] else [] := by
  rw [events, log_add, List.filter_append, ← events]
  congr 1
  by_cases own : o.isOf cache history = true
  · rw [if_pos own]
    exact List.filter_cons_of_pos own
  · rw [if_neg own]
    exact List.filter_cons_of_neg own

/-- **What arrives is numbered in its order.** -/
theorem log_addAll : (h.addAll arriving).log = h.log ++ eventsFrom h.nextId arriving := by
  induction arriving generalizing h with
  | nil =>
    rw [Occurrence.eventsFrom_nil, List.append_nil]
    rfl
  | cons o r ih =>
    rw [addAll, List.foldl_cons, ← addAll, ih, log_add, nextId_add, Occurrence.eventsFrom_cons,
      List.append_assoc, List.singleton_append]

theorem nextId_addAll : (h.addAll arriving).nextId = h.nextId + arriving.length := by
  rw [nextId, log_addAll, List.length_append, Occurrence.length_eventsFrom, nextId]

/-- What arrives for a cache and kind is added at the end of its list. -/
theorem events_addAll : (h.addAll arriving).events cache history =
    h.events cache history ++
      (eventsFrom h.nextId arriving).filter fun e => e.isOf cache history := by
  rw [events, log_addAll, List.filter_append, ← events]

theorem Numbered.addAll (numbered : h.Numbered) : (h.addAll arriving).Numbered := by
  induction arriving generalizing h with
  | nil => exact numbered
  | cons o r ih =>
    exact ih (numbered.apply (.event o.cache o.history o.phase o.members (some o.time)) o.time)

/-- The next number has not been given yet. -/
theorem Numbered.lt_nextId (numbered : h.Numbered) (mem : e ∈ h.log) : e.id < h.nextId := by
  have log : h.log.map (·.id) = List.range h.log.length := numbered
  have id : e.id ∈ List.range h.log.length := log ▸ List.mem_map_of_mem mem
  exact List.mem_range.1 id

/-- No number is given twice. -/
theorem Numbered.eq_of_id_eq (numbered : h.Numbered) (hd : d ∈ h.log) (he : e ∈ h.log)
    (same : d.id = e.id) : d = e := by
  have log : h.log.map (·.id) = List.range h.log.length := numbered
  exact List.inj_on_of_nodup_map (log ▸ List.nodup_range) hd he same

/-- Events of two lists with the same number are one event, and the lists are the same. -/
theorem Numbered.list_eq {cache' : String} {history' : HistoryKind} (numbered : h.Numbered)
    (hd : d ∈ h.events cache history) (he : e ∈ h.events cache' history') (same : d.id = e.id) :
    d = e ∧ cache = cache' ∧ history = history' := by
  obtain ⟨hd, isOf⟩ := List.mem_filter.1 hd
  obtain ⟨he, isOf'⟩ := List.mem_filter.1 he
  obtain rfl := numbered.eq_of_id_eq hd he same
  obtain ⟨rfl, rfl⟩ := d.occurrence.isOf_iff.1 isOf
  exact ⟨rfl, d.occurrence.isOf_iff.1 isOf'⟩

theorem latest?_eq_none_iff : h.latest? cache history = none ↔ h.events cache history = [] := by
  rw [latest?, newest?, Option.map_eq_none_iff, List.getLast?_eq_none_iff]

theorem latest?_eq_some_iff {id : EventId} : h.latest? cache history = some id ↔
    ∃ before e, h.events cache history = before ++ [e] ∧ e.id = id := by
  simp only [latest?, newest?, Option.map_eq_some_iff, List.getLast?_eq_some_iff]
  constructor
  · rintro ⟨e, ⟨before, list⟩, number⟩
    exact ⟨before, e, list, number⟩
  · rintro ⟨before, e, list, number⟩
    exact ⟨e, ⟨before, list⟩, number⟩

/-- **What comes behind a marker** that is taken at the newest event of a list is what arrives for
this list later. -/
theorem filter_isAfter_latest? (numbered : h.Numbered) (later : List Occurrence) (cache : String)
    (history : HistoryKind) :
    ((h.addAll later).events cache history).filter (isAfter (h.latest? cache history)) =
      (eventsFrom h.nextId later).filter fun e => e.isOf cache history := by
  have before : (h.events cache history).filter (isAfter (h.latest? cache history)) = [] := by
    refine List.filter_eq_nil_iff.2 fun e he after => ?_
    obtain ⟨mem, isOf⟩ := List.mem_filter.1 he
    obtain ⟨newest, marker, le⟩ := numbered.exists_latest? mem isOf
    exact Nat.not_lt.2 le (isAfter_iff.1 after newest marker)
  -- the marker may be a number of this list only, but all that arrives later gets greater ones
  have behind (e : TopologyEvent) (he : e ∈ eventsFrom h.nextId later) :
      isAfter (h.latest? cache history) e = true := by
    refine isAfter_iff.2 fun id marker => ?_
    obtain ⟨d, hd, -, rfl⟩ := exists_of_latest? marker
    exact Nat.lt_of_lt_of_le (numbered.lt_nextId hd) (Occurrence.le_of_mem_eventsFrom he)
  rw [events_addAll, List.filter_append, before, List.nil_append]
  exact List.filter_eq_self.2 fun e he => behind e (List.mem_filter.1 he).1

end TopologyHistory

/-! ### Lists and histories tell the same -/

namespace EventLists

/-- Lists hold the same as a history. -/
structure Keeps (l : EventLists) (h : TopologyHistory) : Prop where
  next : l.nextId = h.nextId
  events : ∀ cache history, l.events cache history = h.events cache history

namespace Keeps

variable {l : EventLists} {h : TopologyHistory}

theorem empty : EventLists.empty.Keeps .empty := ⟨rfl, fun _ _ => rfl⟩

theorem add (keeps : l.Keeps h) (o : Occurrence) : (l.add o).Keeps (h.add o) where
  next := by rw [TopologyHistory.nextId_add, ← keeps.next, EventLists.add]
  events cache history := by
    rw [events_add, TopologyHistory.events_add, keeps.events, keeps.next]

theorem addAll (keeps : l.Keeps h) (arriving : List Occurrence) :
    (l.addAll arriving).Keeps (h.addAll arriving) := by
  induction arriving generalizing l h with
  | nil => exact keeps
  | cons o r ih => exact ih (keeps.add o)

theorem latest? (keeps : l.Keeps h) (cache : String) (history : HistoryKind) :
    l.latest? cache history = h.latest? cache history := by
  rw [latest?_eq, keeps.events, TopologyHistory.latest?, TopologyHistory.newest?]

theorem find? (keeps : l.Keeps h) (q : TopologyHistory.EventQuery) : l.find? q = h.find? q := by
  rw [find?_eq, keeps.events, TopologyHistory.find?]

end Keeps

end EventLists

/-- **Many lists under one count.**  Whatever arrives, for any caches and kinds, is numbered in the
order of its arrival, and no number is given twice, be it in one list or in two.

The list of a cache and kind holds what arrived for them: in this order, under growing numbers, and
otherwise as it was told.  Lists that are kept apart under one count hold the same and give the same
answers.  What arrives next is added at the end of one list, and the others stay as they are.

A list has a newest number exactly if it has events, and then this is the number of its last one.  A
marker that is taken there parts the list, however it goes on, into what was there and what arrives
later.  So a wait with this marker finds the first event that it accepts of those that arrive for
its cache and kind later. -/
theorem TopologyHistory.events_of_occurrences (arriving : List Occurrence) :
    let h := empty.addAll arriving
    let l := EventLists.empty.addAll arriving
    (h.nextId = arriving.length ∧ h.log = eventsFrom 0 arriving ∧
      (h.log.Pairwise fun d e => d.id < e.id) ∧
      ∀ cache history cache' history', ∀ d ∈ h.events cache history,
        ∀ e ∈ h.events cache' history', d.id = e.id →
          d = e ∧ cache = cache' ∧ history = history') ∧
    (∀ cache history,
      h.events cache history = (eventsFrom 0 arriving).filter (fun e => e.isOf cache history) ∧
      (h.events cache history).map (·.occurrence) =
        arriving.filter (fun o => o.isOf cache history) ∧
      (h.events cache history).Pairwise fun d e => d.id < e.id) ∧
    (l.nextId = h.nextId ∧
      (∀ cache history, l.events cache history = h.events cache history) ∧
      (∀ cache history, l.latest? cache history = h.latest? cache history) ∧
      ∀ q, l.find? q = h.find? q) ∧
    (∀ o cache history, (h.add o).events cache history = h.events cache history ++
      if o.isOf cache history then [o.event arriving.length] else []) ∧
    (∀ cache history, (h.latest? cache history = none ↔ h.events cache history = []) ∧
      ∀ id, h.latest? cache history = some id ↔
        ∃ before e, h.events cache history = before ++ [e] ∧ e.id = id) ∧
    ∀ later cache history,
      let new := (eventsFrom arriving.length later).filter fun e => e.isOf cache history
      (h.addAll later).events cache history = h.events cache history ++ new ∧
      ((h.addAll later).events cache history).filter (isAfter (h.latest? cache history)) = new ∧
      ∀ condition minMembers maxMembers,
        let q : EventQuery :=
          ⟨cache, history, condition, minMembers, maxMembers, h.latest? cache history⟩
        (h.addAll later).find? q = new.find? q.accepts := by
  intro h l
  have numbered : h.Numbered := Numbered.empty.addAll
  have next : h.nextId = arriving.length := nextId_addAll.trans (Nat.zero_add _)
  have log : h.log = eventsFrom 0 arriving := log_addAll
  have events (cache : String) (history : HistoryKind) : h.events cache history =
      (eventsFrom 0 arriving).filter fun e => e.isOf cache history := events_addAll
  have keeps : l.Keeps h := EventLists.Keeps.empty.addAll arriving
  refine ⟨⟨next, log, numbered.ascending, ?_⟩, fun cache history => ⟨events cache history, ?_, ?_⟩,
    ⟨keeps.next, keeps.events, keeps.latest?, keeps.find?⟩, fun o cache history => ?_,
    fun cache history => ⟨latest?_eq_none_iff, fun id => latest?_eq_some_iff⟩,
    fun later cache history => ?_⟩
  · intro cache history cache' history' d hd e he same
    exact numbered.list_eq hd he same
  · rw [events]
    exact Occurrence.told_eventsFrom
  · exact numbered.ascending.filter _
  · rw [events_add, next]
  · have behind := filter_isAfter_latest? numbered later cache history
    rw [next] at behind
    refine ⟨by rw [events_addAll, next], behind, fun condition minMembers maxMembers => ?_⟩
    exact congrArg (List.find? (EventQuery.accepts _)) behind

/-- A rehash goes on in one cache while another cache has one too.  Both lists grow in turns, and
the marker at the beginning of the first rehash leaves its end to be found. -/
theorem TopologyHistory.events_of_occurrences_two :
    let o (cache : String) (phase : EventPhase) : Occurrence := ⟨cache, .rehash, phase, 2, 0⟩
    let h := empty.addAll [o "a" .start, o "b" .single]
    let after := h.addAll [o "b" .start, o "a" .finish]
    h.latest? "a" .rehash = some 0 ∧ h.latest? "c" .rehash = none ∧
      (∀ d ∈ h.events "a" .rehash, ∀ e ∈ h.events "b" .rehash, d.id ≠ e.id) ∧
      after.find? ⟨"a", .rehash, .finish, 0, 9, some 0⟩ = some ((o "a" .finish).event 3) ∧
      after.find? ⟨"b", .rehash, .finish, 0, 9, some 1⟩ = none := by
  intro o h after
  obtain ⟨⟨-, -, -, apart⟩, -, -, -, newest, goes_on⟩ :=
    events_of_occurrences [o "a" .start, o "b" .single]
  have first : h.latest? "a" .rehash = some 0 :=
    (newest "a" .rehash).2 0 |>.2 ⟨[], (o "a" .start).event 0, by decide, rfl⟩
  have second : h.latest? "b" .rehash = some 1 :=
    (newest "b" .rehash).2 1 |>.2 ⟨[], (o "b" .single).event 1, by decide, rfl⟩
  refine ⟨first, (newest "c" .rehash).1.2 (by decide), ?_, ?_, ?_⟩
  · intro d hd e he same
    exact absurd (apart _ _ _ _ d hd e he same).2.1 (by decide)
  · rw [← first]
    exact ((goes_on _ "a" .rehash).2.2 .finish 0 9).trans (by decide)
  · rw [← second]
    exact ((goes_on _ "b" .rehash).2.2 .finish 0 9).trans (by decide)

end LoadFleet
