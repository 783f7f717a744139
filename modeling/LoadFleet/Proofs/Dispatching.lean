import LoadFleet.Coordinator.Run
/-!
# What workers are sent

What the workers are sent is seen by letting each of them write it down (`Member.logged`), which
changes nothing else (`Coordinator.dispatch?_logged`).

* `Coordinator.Dispatches`: stages that are sent to a fleet one after the other.  Every worker is
  sent each of them once and in order (`Coordinator.Dispatches.sentTo`).
* `Coordinator.dispatch?_of_valid`: a stage that is valid is never refused.  The coordinator may
  wait for a silent worker forever, if the clock cannot represent the deadline
  (`Coordinator.WaitsForever`), and for no other reason.
-/

namespace LoadFleet

variable {W : Type}

/-! ### What workers are sent -/

/-- The worker, writing down which stages it is sent. -/
def Member.logged (m : Member W) : Member (W × List (WorkerIndex × Stage)) where
  index := m.index
  serve stage now deadline w :=
    ((m.serve stage now deadline w.1).1,
      ((m.serve stage now deadline w.1).2, w.2 ++ [(m.index, stage)]))

/-- The stages that a worker was sent, in order. -/
def sentTo (worker : WorkerIndex) (log : List (WorkerIndex × Stage)) : List Stage :=
  (log.filter fun e => e.1 = worker).map (·.2)

/-- The same result, without what the workers wrote down. -/
def Ended.unlogged {A : Type} (e : Ended (W × List (WorkerIndex × Stage)) A) : Ended W A :=
  ⟨e.result, e.time, e.world.1⟩

theorem Fleet.send_logged (stage : Stage) (now : Instant) (deadline : Option Instant)
    (fleet : List (Member W)) (world : W) (log : List (WorkerIndex × Stage)) :
    Fleet.send stage now deadline (fleet.map Member.logged) (world, log) =
      ((Fleet.send stage now deadline fleet world).1,
        ((Fleet.send stage now deadline fleet world).2,
          log ++ fleet.map fun m => (m.index, stage))) := by
  induction fleet generalizing world log with
  | nil => simp [send]
  | cons m r ih => simp [send, Member.logged, ih]

/-- Every worker is sent a stage once. -/
theorem sentTo_fleet {fleet : List (Member W)} (distinct : (fleet.map (·.index)).Nodup)
    {m : Member W} (hm : m ∈ fleet) (stage : Stage) :
    sentTo m.index (fleet.map fun m => (m.index, stage)) = [stage] := by
  have once : (fleet.map (·.index)).filter (· = m.index) = [m.index] := by
    rw [List.filter_eq, List.Nodup.count distinct, if_pos (List.mem_map_of_mem hm)]
    rfl
  have : fleet.map (fun m => (m.index, stage)) = (fleet.map (·.index)).map fun i => (i, stage) := by
    rw [List.map_map]; rfl
  rw [sentTo, this, List.filter_map, List.map_map]
  exact congrArg (List.map fun _ => stage) once

theorem sentTo_append (worker : WorkerIndex) (a b : List (WorkerIndex × Stage)) :
    sentTo worker (a ++ b) = sentTo worker a ++ sentTo worker b := by
  simp [sentTo]

namespace Coordinator

/-! ### Dispatching stages -/

/-- The stages are sent to the fleet one after the other, from one point of a run to another, and
come to these acknowledgements. -/
inductive Dispatches (c : Coordinator) (fleet : List (Member W)) :
    Instant → W → List (Stage × Acknowledgements) → Instant → W → Prop where
  | nil (now : Instant) (world : W) : Dispatches c fleet now world [] now world
  | cons {now time last : Instant} {world after final : W} {stage : Stage}
      {acks : Acknowledgements} {r : List (Stage × Acknowledgements)}
      (h : c.dispatch? fleet stage now world = some ⟨.ok acks, time, after⟩)
      (t : Dispatches c fleet time after r last final) :
      Dispatches c fleet now world ((stage, acks) :: r) last final

/-- The coordinator waits for the acknowledgements of a stage forever: nothing ends its wait, and
some worker gives no reply. -/
def WaitsForever (c : Coordinator) (fleet : List (Member W)) (stage : Stage) (now : Instant)
    (world : W) : Prop :=
  c.deadline stage now = none ∧
    ∃ worker, (worker, none) ∈ (Fleet.send stage now none fleet world).1

variable {c : Coordinator} {fleet : List (Member W)} {stage : Stage} {now : Instant} {world : W}

theorem receive?_eq_none_iff {worker : WorkerIndex} {reply : Option Reply} :
    c.receive? stage now worker reply = none ↔ c.deadline stage now = none ∧ reply = none := by
  cases hd : c.deadline stage now with
  | none => cases reply <;> simp [receive?, late?, Reply.inTime, hd]
  | some d =>
    simp only [receive?, late?, hd, Option.map_some, reduceCtorEq, false_and, iff_false]
    cases reply with
    | none => simp
    | some r => dsimp only; split <;> simp

theorem collect?_eq_none_iff :
    c.collect? fleet stage now world = none ↔ c.WaitsForever fleet stage now world := by
  have none_iff : ∀ {A B : Type} (f : A → Option B) (l : List A),
      l.mapM f = none ↔ ∃ a ∈ l, f a = none := by
    intro A B f l
    induction l with
    | nil => simp
    | cons a r ih => cases h : f a <;> cases hr : r.mapM f <;> simp_all
  have : c.collect? fleet stage now world = none ↔
      ∃ e ∈ (Fleet.send stage now (c.deadline stage now) fleet world).1,
        c.receive? stage now e.1 e.2 = none := by
    rw [← none_iff]
    simp only [collect?, bind, Option.bind]
    split <;> simp_all
  simp only [this, receive?_eq_none_iff, WaitsForever]
  constructor
  · rintro ⟨⟨worker, _⟩, hm, hd, rfl⟩
    exact ⟨hd, worker, hd ▸ hm⟩
  · rintro ⟨hd, worker, hm⟩
    exact ⟨(worker, none), hd ▸ hm, hd, rfl⟩

/-- Sending a valid stage is never refused: either the coordinator waits forever, or there are
acknowledgements. -/
theorem dispatch?_of_valid (c : Coordinator) (fleet : List (Member W)) (now : Instant) (world : W)
    (valid : stage.validate = .ok ()) :
    (c.dispatch? fleet stage now world = none ∧ c.WaitsForever fleet stage now world) ∨
      (¬ c.WaitsForever fleet stage now world ∧
        ∃ acks time after, c.dispatch? fleet stage now world = some ⟨.ok acks, time, after⟩) := by
  rw [← collect?_eq_none_iff]
  cases hc : c.collect? fleet stage now world with
  | none => simp [dispatch?, valid, hc]
  | some d => simp [dispatch?, valid, hc]

/-- When the workers write down what they are sent, sending a stage comes to the same, and each
worker writes down a stage that is sent. -/
theorem dispatch?_logged (world : W) (log : List (WorkerIndex × Stage)) :
    c.dispatch? (fleet.map Member.logged) stage now (world, log) =
      (c.dispatch? fleet stage now world).map fun e =>
        ⟨e.result, e.time, e.world, log ++ match stage.validate with
          | .ok () => fleet.map fun m => (m.index, stage)
          | .error _ => []⟩ := by
  cases hv : stage.validate with
  | error flaw => simp [dispatch?, hv]
  | ok u =>
    simp only [dispatch?, hv, collect?, Fleet.send_logged, bind, Option.bind]
    cases (Fleet.send stage now (c.deadline stage now) fleet world).1.mapM fun e =>
      c.receive? stage now e.1 e.2 <;> rfl

/-- What the workers wrote down while stages were sent: every worker each stage, in order. -/
theorem Dispatches.log {now last : Instant} {w final : W × List (WorkerIndex × Stage)}
    {sent : List (Stage × Acknowledgements)}
    (h : Dispatches c (fleet.map Member.logged) now w sent last final) :
    final.2 = w.2 ++ sent.flatMap fun e => fleet.map fun m => (m.index, e.1) := by
  induction h with
  | nil => simp
  | @cons now time last w after final stage acks r h _ ih =>
    rw [dispatch?_logged w.1 w.2] at h
    obtain ⟨e, he, h⟩ := Option.map_eq_some_iff.1 h
    cases hv : stage.validate with
    | error flaw =>
      simp only [dispatch?, hv, Option.some.injEq] at he
      subst he
      cases h
    | ok u =>
      rw [ih, List.flatMap_cons, ← List.append_assoc]
      simp only [hv, Ended.mk.injEq] at h
      obtain ⟨-, -, rfl⟩ := h
      rfl

/-- Every worker was sent exactly the stages of the run, each once and in order. -/
theorem Dispatches.sentTo {now last : Instant} {world : W}
    {final : W × List (WorkerIndex × Stage)} {sent : List (Stage × Acknowledgements)}
    (h : Dispatches c (fleet.map Member.logged) now (world, []) sent last final)
    (distinct : (fleet.map (·.index)).Nodup) {m : Member W} (hm : m ∈ fleet) :
    sentTo m.index final.2 = sent.map (·.1) := by
  rw [h.log, List.nil_append]
  clear h
  induction sent with
  | nil => rfl
  | cons e r ih => rw [List.flatMap_cons, sentTo_append, sentTo_fleet distinct hm, ih]; rfl

end Coordinator

end LoadFleet
