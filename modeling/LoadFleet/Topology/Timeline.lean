import LoadFleet.Topology.History
/-!
# Histories that go on

A `Timeline` is a history together with the changes that are still to come. What a stage sees of
the topology depends on when it looks.
-/

namespace LoadFleet

/-- A change of the topology. -/
inductive TopologyChange where
  /-- Something happened, at the time of its arrival unless another is told. -/
  | event (cache : String) (history : HistoryKind) (phase : EventPhase) (members : UInt64)
      (happened : Option Instant)
  | membership (names : List String)
  deriving DecidableEq

/-- The history after a change. -/
def TopologyChange.apply (c : TopologyChange) (now : Instant) (h : TopologyHistory) :
    TopologyHistory :=
  match c with
  | event cache history phase members happened =>
    h.record cache history phase members (happened.getD now)
  | membership names => h.setMembers names now

/-- A history and the changes to come, the next one first. -/
structure Timeline where
  history : TopologyHistory
  scheduled : List (Instant × TopologyChange)
  ordered : scheduled.Pairwise fun c d => c.1 ≤ d.1

namespace Timeline

/-- A timeline on which nothing happened and nothing will. -/
def empty : Timeline := ⟨.empty, [], .nil⟩

/-- The history as it is seen at a time, after the changes that are due. -/
def seen (t : Timeline) (now : Instant) : TopologyHistory :=
  (t.scheduled.filter fun c => c.1 ≤ now).foldl (fun h c => c.2.apply c.1 h) t.history

/-- The timeline when it is `now`. -/
def advance (t : Timeline) (now : Instant) : Timeline where
  history := t.seen now
  scheduled := t.scheduled.filter fun c => now < c.1
  ordered := t.ordered.filter _

/-- Changes the history now. -/
def change (t : Timeline) (c : TopologyChange) (now : Instant) : Timeline :=
  { t with history := c.apply now t.history }

/-- Schedules a change, behind those at the same time. -/
def schedule (t : Timeline) (time : Instant) (c : TopologyChange) : Timeline where
  history := t.history
  scheduled :=
    t.scheduled.filter (fun d => d.1 ≤ time) ++
      (time, c) :: t.scheduled.filter (fun d => time < d.1)
  ordered := by
    refine List.pairwise_append.2
      ⟨t.ordered.filter _, List.pairwise_cons.2 ⟨?_, t.ordered.filter _⟩, ?_⟩
    · intro d later
      exact Nat.le_of_lt (by simpa using (List.mem_filter.1 later).2)
    · intro d earlier e rest
      have before : d.1 ≤ time := by simpa using (List.mem_filter.1 earlier).2
      rcases List.mem_cons.1 rest with rfl | later
      · exact before
      · have after : time < e.1 := by simpa using (List.mem_filter.1 later).2
        exact Nat.le_trans before (Nat.le_of_lt after)

/-- When the last change happens. -/
def lastChange (t : Timeline) : Instant := t.scheduled.foldl (fun last c => max last c.1) 0

end Timeline

end LoadFleet
