import LoadFleet.Coordinator.Local
import LoadFleet.Proofs.PoolEnds
/-!
# Workers beside the coordinator

A worker may run in the process of the coordinator, by the same clock.  What it comes to with a
stage for stressors is told for stressors that do anything at all, with any regard to a request to
stop: they may be slow, crash or hang, and interfere with those of other workers.

* `Worker.Comes`: what a worker comes to.
* `Member.Beside`: a member of a fleet that comes to nothing else.
* `Crew.manners_run`: stressors leave the manners of their store as they are.
* `Site.member_beside`: workers that share a store run beside the coordinator.
-/

namespace LoadFleet

/-! ### Workers whose stressors do anything -/

/-- The store tells the size of a container at once: it takes no time for that, and neither hangs
nor crashes. It may fail. -/
def Manners.TellsSizeAtOnce (m : Manners) : Prop :=
  (m.delay .totalSize).isZero = true ∧
    (m.fate .totalSize = .answered ∨ ∃ e, m.fate .totalSize = .fails e)

namespace Worker

variable {w : Worker} {clock : Clock} {stage : Stage} {now : Instant}

/-- What a worker may come to with a stage for stressors, and when, if it comes to an end. It skips
the stage or refuses it at once, or it runs a pool. The stressors of the pool do anything at all,
with any regard to a request to stop; only the store they leave behind has to tell its size at
once. -/
inductive Comes (w : Worker) (clock : Clock) (stage : Stage) (now : Instant) :
    Option (Instant × Acknowledgement) → Prop where
  | skipped : Comes w clock stage now (some (now, .success w.index .zero .none))
  | refused {flaw : StageError} (invalid : stage.validate = .error flaw) :
    Comes w clock stage now (some (now, .failure w.index .zero (rejection w.index stage flaw)))
  | iterated {settings : IterateSettings} (kind : stage.kind = .iterate settings)
    (squad : Option Instant → Squad IterationResult Simulated)
    (atOnce : ∀ stop, (squad stop).after.manners.TellsSizeAtOnce) :
    Comes w clock stage now
      ((w.iterateWith clock stage settings now squad).map fun (t, r, _) =>
        (t, w.acknowledge now t r))
  | stressed {settings : StressSettings} (kind : stage.kind = .stress settings)
    (squad : Option Instant → Squad Stress.Result Simulated) :
    Comes w clock stage now
      ((w.stressWith clock stage now squad).map fun (t, r, _) => (t, w.acknowledge now t r))

/-- A worker acknowledges in its own name. -/
theorem Comes.worker_eq {t : Instant} {ack : Acknowledgement}
    (comes : w.Comes clock stage now (some (t, ack))) : ack.worker = w.index := by
  generalize h : some (t, ack) = came at comes
  cases comes with
  | skipped | refused => cases h; rfl
  | iterated | stressed =>
    obtain ⟨_, -, same⟩ := Option.map_eq_some_iff.1 h.symm
    cases same
    rfl

end Worker

/-! ### Fleets of such workers -/

variable {W : Type}

/-- A member of a fleet is a worker beside the coordinator: whatever the other workers have done to
the world, in which some things are kept, its reply is what the worker comes to. -/
structure Member.Beside (m : Member W) (Keeps : W → Prop) (w : Worker) (clock : Clock)
    (stage : Stage) (now : Instant) : Prop where
  index : m.index = w.index
  replies : ∀ deadline world, Keeps world → ∃ came punctual, w.Comes clock stage now came ∧
    (m.serve stage now deadline world).1 = came.map fun e => ⟨e.1, punctual, .ok e.2⟩
  keeps : ∀ deadline world, Keeps world → Keeps (m.serve stage now deadline world).2

/-- A reply was given by a worker of the fleet, in a world in which some things are kept, if workers
whose replies are such as all replies are keep them. -/
theorem Fleet.mem_send (Such : Option Reply → Prop) {stage : Stage} {now : Instant}
    {deadline : Option Instant} {fleet : List (Member W)} {Keeps : W → Prop}
    (keeps : ∀ m ∈ fleet, ∀ world, Keeps world → Such (m.serve stage now deadline world).1 →
      Keeps (m.serve stage now deadline world).2)
    {world : W} (such : ∀ e ∈ (Fleet.send stage now deadline fleet world).1, Such e.2)
    (kept : Keeps world) {worker : WorkerIndex} {reply : Option Reply}
    (hm : (worker, reply) ∈ (Fleet.send stage now deadline fleet world).1) :
    ∃ m ∈ fleet, ∃ world', Keeps world' ∧ m.index = worker ∧
      (m.serve stage now deadline world').1 = reply := by
  induction fleet generalizing world with
  | nil => cases hm
  | cons m r ih =>
    obtain ⟨first, rest⟩ := List.forall_mem_cons.1 keeps
    obtain ⟨here, such⟩ := List.forall_mem_cons.1 such
    rcases List.mem_cons.1 hm with same | hm
    · cases same
      exact ⟨m, .head _, world, kept, rfl, rfl⟩
    · obtain ⟨m', hm', found⟩ := ih rest such (first world kept here) hm
      exact ⟨m', .tail _ hm', found⟩

/-! ### Workers that share a store -/

/-- A call leaves the manners of a store as they are. -/
theorem Ask.manners_answer {S : Type} (ask : Ask Simulated.Cursor S) (store : Simulated)
    (now : Instant) : (ask.answer store now).2.manners = store.manners := by
  cases ask with
  | invoke => rfl
  | iterate container filter converter goOn =>
    show (store.iterate container filter converter).2.manners = _
    rw [Simulated.iterate]
    dsimp only
    split <;> rfl
  | hasNext cursor => cases cursor <;> rfl
  | next cursor => cases cursor <;> rfl
  | close cursor => cases cursor <;> rfl

namespace Crew

variable {K S R : Type}

theorem manners_settle (c : Crew K S R) (p : Queued) (ask : Ask Simulated.Cursor S) :
    (c.settle p ask).store.manners = c.store.manners := by
  rw [settle]
  dsimp only
  split
  · exact ask.manners_answer _ _
  · rfl
  · rfl
  · rfl

theorem manners_turn (step : Step K S R) (stop : Option Instant) (c : Crew K S R) (p : Queued) :
    (turn step stop c p).store.manners = c.store.manners := by
  rw [turn]
  split
  · split
    · rfl
    · rw [call]
      dsimp only
      split
      · exact manners_settle ..
      · rfl
  · exact manners_settle ..
  · rfl

/-- Stressors leave the manners of their store as they are. -/
theorem manners_run (step : Step K S R) (stop limit : Option Instant) (turns : Nat)
    (c : Crew K S R) : (run step stop limit turns c).store.manners = c.store.manners := by
  induction turns generalizing c with
  | zero => rfl
  | succ turns ih =>
    rw [run]
    split
    · rfl
    · split
      · rfl
      · rw [ih, manners_turn]

theorem manners_squad (c : Crew K S R) (step : Step K S R) (stop limit : Option Instant) :
    (c.squad step stop limit).after.manners = c.store.manners := manners_run ..

theorem manners_pooled (c : Crew K S R) (step : Step K S R) (limits : PoolLimits)
    (started : Instant) (stop : Option Instant) :
    (c.pooled step limits started stop).after.manners = c.store.manners := by
  cases stop <;> exact manners_squad ..

end Crew

theorem manners_abandonPool {K S R : Type} (crew : Crew K S R) (step : Step K S R)
    (limits : PoolLimits) (started dropped : Instant) :
    (abandonPool crew step limits started dropped).manners = crew.store.manners :=
  Crew.manners_squad ..

namespace Worker

variable {w : Worker} {env : Surroundings} {stage : Stage} {now : Instant}

theorem manners_abandon (dropped : Instant) :
    (w.abandon env stage now dropped).manners = env.store.manners := by
  rw [abandon]
  split
  · exact manners_abandonPool ..
  · exact manners_abandonPool ..
  · rfl

/-- What a worker comes to that shares a store, if its store tells sizes at once. -/
theorem execute_comes (stressors : stage.kind.hasStressors = true)
    (atOnce : env.store.manners.TellsSizeAtOnce) :
    w.Comes env.clock stage now
      ((w.execute env stage now).execution.map fun e => (e.answered, e.ack)) := by
  rw [execute]
  dsimp only
  split
  · exact .skipped
  · split
    · next flaw invalid => exact .refused invalid
    · dsimp only
      rw [runStage]
      cases kind : stage.kind with
      | iterate s =>
        rw [Option.map_map]
        refine .iterated kind _ fun stop => ?_
        rw [Crew.manners_pooled]
        exact atOnce
      | stress s =>
        rw [Option.map_map]
        exact .stressed kind _
      | waitForEvent | waitForSettle | checkTopology =>
        rw [kind] at stressors
        cases stressors

/-- What a worker that shares a store leaves behind. -/
theorem execute_keeps (stressors : stage.kind.hasStressors = true) {x : Execution}
    (h : (w.execute env stage now).execution = some x) :
    x.worker = w ∧ x.store.manners = env.store.manners := by
  rw [execute] at h
  dsimp only at h
  split at h
  · cases h
    exact ⟨rfl, rfl⟩
  · split at h
    · cases h
      exact ⟨rfl, rfl⟩
    · dsimp only at h
      rw [runStage] at h
      cases kind : stage.kind with
      | iterate s =>
        rw [kind] at h
        obtain ⟨_, done, rfl⟩ := Option.map_eq_some_iff.1 h
        obtain ⟨o, ran, done⟩ := Option.bind_eq_some_iff.1 done
        obtain ⟨_, -, done⟩ := Option.bind_eq_some_iff.1 done
        cases done
        obtain ⟨stop, after⟩ := Pool.after_of_run _ _ _ _ ran
        exact ⟨rfl, (congrArg Simulated.manners after).trans (Crew.manners_pooled ..)⟩
      | stress s =>
        rw [kind] at h
        obtain ⟨_, done, rfl⟩ := Option.map_eq_some_iff.1 h
        obtain ⟨o, ran, done⟩ := Option.bind_eq_some_iff.1 done
        cases done
        obtain ⟨stop, after⟩ := Pool.after_of_run _ _ _ _ ran
        exact ⟨rfl, (congrArg Simulated.manners after).trans (Crew.manners_pooled ..)⟩
      | waitForEvent | waitForSettle | checkTopology =>
        rw [kind] at stressors
        cases stressors

theorem manners_execute_abandon (dropped : Instant) :
    ((w.execute env stage now).abandon dropped).manners = env.store.manners := by
  rw [execute]
  dsimp only
  split
  · rfl
  · split
    · rfl
    · exact manners_abandon ..

end Worker

namespace Site

/-- What stays as it is while workers that share a store run stages for stressors: the workers, the
clock, and the manners of the store. -/
structure Keeps (workers : List Worker) (clock : Clock) (manners : Manners) (s : Site) : Prop where
  workers : s.workers = workers
  clock : s.surroundings.clock = clock
  manners : s.surroundings.store.manners = manners

variable {workers : List Worker} {clock : Clock} {manners : Manners}

theorem Keeps.abandon {s : Site} (keeps : Keeps workers clock manners s) {running : Running}
    (same : ∀ dropped, (running.abandon dropped).manners = s.surroundings.store.manners)
    (deadline : Option Instant) : Keeps workers clock manners (s.abandon running deadline) := by
  cases deadline with
  | none => exact keeps
  | some d => exact ⟨keeps.workers, keeps.clock, (same d).trans keeps.manners⟩

section Serve

variable {s : Site} {position : Nat} {w : Worker} {stage : Stage} {now : Instant}
  {deadline : Option Instant}

theorem serve_of_worker (here : s.workers[position]? = some w) :
    (s.serve position stage now deadline).1 =
      (w.execute s.surroundings stage now).execution.map fun e =>
        ⟨e.answered, (w.execute s.surroundings stage now).alone, .ok e.ack⟩ := by
  rw [serve, here]
  dsimp only
  cases (w.execute s.surroundings stage now).execution with
  | none => rfl
  | some e =>
    dsimp only
    split <;> rfl

theorem Keeps.serve (keeps : Keeps workers clock manners s) (here : workers[position]? = some w)
    (stressors : stage.kind.hasStressors = true) :
    Keeps workers clock manners (s.serve position stage now deadline).2 := by
  have abandoned : Keeps workers clock manners
      (s.abandon (w.execute s.surroundings stage now) deadline) :=
    keeps.abandon (fun dropped => Worker.manners_execute_abandon dropped) deadline
  rw [Site.serve, keeps.workers, here]
  dsimp only
  cases done : (w.execute s.surroundings stage now).execution with
  | none => exact abandoned
  | some e =>
    dsimp only
    split
    · obtain ⟨same, manners⟩ := w.execute_keeps stressors done
      obtain ⟨inside, value⟩ := List.getElem?_eq_some_iff.1 here
      refine ⟨?_, keeps.clock, manners.trans keeps.manners⟩
      show workers.set position e.worker = workers
      rw [same, ← value]
      exact List.set_getElem_self inside
    · exact abandoned

end Serve

/-- **Workers that share a store run beside the coordinator.** -/
theorem member_beside {site : W → Site} {put : Site → W → W}
    (found : ∀ s world, site (put s world) = s) (atOnce : manners.TellsSizeAtOnce) {position : Nat}
    {w : Worker} (here : workers[position]? = some w) {stage : Stage}
    (stressors : stage.kind.hasStressors = true) (now : Instant) :
    (member site put position w.index).Beside
      (fun world => Keeps workers clock manners (site world)) w clock stage now where
  index := rfl
  replies deadline world keeps := by
    have comes : w.Comes (site world).surroundings.clock stage now _ :=
      Worker.execute_comes stressors (keeps.manners ▸ atOnce)
    rw [keeps.clock] at comes
    refine ⟨_, (w.execute (site world).surroundings stage now).alone, comes, ?_⟩
    rw [Option.map_map]
    exact serve_of_worker (keeps.workers ▸ here)
  keeps deadline world keeps := by
    show Keeps workers clock manners (site (put _ world))
    rw [found]
    exact keeps.serve here stressors

end Site

end LoadFleet
