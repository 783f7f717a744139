import LoadFleet.Proofs.FleetReplies
import LoadFleet.Proofs.JointPasses
import LoadFleet.Proofs.LocalWorkers
import LoadFleet.Proofs.PoolRun
/-!
# Replies to an iteration

A worker whose stressors have all returned acknowledges an iteration with their results, and with
the size of the container. When all workers of a fleet reply in time, the coordinator has these
acknowledgements and no other ones.

* `Pool.run_of_ended`: a pool without a time limit, all of whose stressors end.
* `Worker.executeWith`: what a worker comes to with an iteration, given what its stressors do.
* `Worker.executeWith_of_ended`: the acknowledgement of a worker whose stressors returned results.
* `Worker.execute_leaves`, `Site.serve_leaves`: such a worker leaves everything as it is.
* `Coordinator.collect?_of_inTime`: what the coordinator has when all replies are in time.
-/

namespace LoadFleet

/-! ### Pools -/

namespace Pool

variable {A W : Type}

/-- A pool without a time limit, all of whose stressors end with a result, has these results. -/
theorem run_of_ended {clock : Clock} {limits : PoolLimits} (unlimited : limits.deadline = none)
    {started : Instant} {squad : Option Instant → Squad A W} {results : List (Instant × A)}
    (ended : (squad none).completions = results.map fun e => some (e.1, .finished e.2)) :
    ∃ last, run clock limits started squad =
      some ⟨results.map fun e => .finished e.2, false, last, (squad none).after⟩ := by
  have forever : deadline clock limits started = none := by rw [deadline, unlimited]; rfl
  rcases joinInTime_cases none started (squad none).completions with ⟨-, -, hangs⟩ |
    ⟨last, joined, -⟩ | ⟨_, _, limited, -⟩
  · rw [ended] at hangs
    obtain ⟨_, -, none⟩ := List.mem_map.1 hangs
    cases none
  · refine ⟨last, ?_⟩
    rw [run, forever, joined, ended]
    simp [Completed.outcome, Ending.outcome, Function.comp_def]
  · cases limited

end Pool

theorem firstPanic?_of_finished {A : Type} (worker : WorkerIndex) (i : Nat) (results : List A) :
    firstPanic? worker i (results.map UnitOutcome.finished) = none := by
  induction results generalizing i with
  | nil => rfl
  | cons a r ih => exact ih (i + 1)

/-! ### Workers -/

namespace Worker

variable {w : Worker} {clock : Clock} {stage : Stage} {settings : IterateSettings}
  {now : Instant} {squad : Option Instant → Squad IterationResult Simulated}

/-- What a worker comes to with an iteration, given whether its service is running and what its
stressors do. -/
def executeWith (w : Worker) (clock : Clock) (running : Bool) (stage : Stage)
    (settings : IterateSettings) (now : Instant)
    (squad : Option Instant → Squad IterationResult Simulated) :
    Option (Instant × Acknowledgement) :=
  if !stage.targets w.index || !running then some (now, .success w.index .zero .none)
  else
    match stage.validate with
    | .error e => some (now, .failure w.index .zero (rejection w.index stage e))
    | .ok () =>
      (w.iterateWith clock stage settings now squad).map fun (t, r, _) => (t, w.acknowledge now t r)

/-- A worker that runs an iteration comes to what its crew makes of it. -/
theorem execute_eq_executeWith {env : Surroundings} (kind : stage.kind = .iterate settings) :
    (w.execute env stage now).execution.map (fun e => (e.answered, e.ack)) =
      w.executeWith env.clock env.store.memory.running stage settings now
        ((Iterate.crew settings env now).pooled (Iterate.step settings env) (w.limits stage)
          now) := by
  rw [execute, executeWith]
  dsimp only
  split
  · rfl
  · cases stage.validate with
    | error e => rfl
    | ok =>
      dsimp only
      rw [runStage, kind]
      dsimp only
      rw [Option.map_map]
      rfl

/-- A worker whose stressors all return results, and leave the store as it is, leaves it as it is as
well. -/
theorem execute_leaves {env : Surroundings} (kind : stage.kind = .iterate settings)
    (unlimited : stage.timeout = none) {results : List (Instant × IterationResult)}
    {undisturbed : Squad IterationResult Simulated}
    (does : (Iterate.crew settings env now).pooled (Iterate.step settings env) (w.limits stage) now
      none = undisturbed)
    (ended : undisturbed.completions = results.map fun e => some (e.1, .finished e.2))
    (after : undisturbed.after = env.store) {x : Execution}
    (h : (w.execute env stage now).execution = some x) : x.worker = w ∧ x.store = env.store := by
  refine ⟨(w.execute_keeps (by rw [kind]; rfl) h).1, ?_⟩
  rw [execute] at h
  dsimp only at h
  split at h
  · cases h
    rfl
  · cases valid : stage.validate with
    | error => rw [valid] at h; cases h; rfl
    | ok =>
      rw [valid] at h
      dsimp only at h
      rw [runStage, kind] at h
      obtain ⟨_, done, rfl⟩ := Option.map_eq_some_iff.1 h
      obtain ⟨o, ran, done⟩ := Option.bind_eq_some_iff.1 done
      obtain ⟨_, -, done⟩ := Option.bind_eq_some_iff.1 done
      cases done
      subst does
      obtain ⟨last, ran'⟩ : ∃ last, Pool.run env.clock (w.limits stage) now _ = _ :=
        Pool.run_of_ended unlimited ended
      cases ran.symm.trans ran'
      exact after

/-- A worker whose stressors all returned results acknowledges these, and the size that the store
tells it. -/
theorem executeWith_of_ended (targeted : stage.targets w.index)
    (valid : stage.validate = .ok ()) (unlimited : stage.timeout = none)
    {results : List (Instant × IterationResult)}
    (ended : (squad none).completions = results.map fun e => some (e.1, .finished e.2))
    (mannered : (squad none).after.manners = {}) {size : UInt64}
    (told : (squad none).after.memory.totalSize settings.container = .ok (some size)) :
    ∃ time ack, w.executeWith clock true stage settings now squad = some (time, ack) ∧
      ack.error = none ∧ ack.payload = .iteration (results.map (·.2)) (some size) := by
  obtain ⟨last, ran⟩ : ∃ last, Pool.run clock (w.limits stage) now squad = _ :=
    Pool.run_of_ended unlimited ended
  have answered : callEnd? clock (squad none).after .totalSize last = some (last, .ok ()) := by
    rw [callEnd?, mannered]
    rfl
  have size : (squad none).after.totalSize settings.container = .ok (some size) := by
    rw [Simulated.totalSize, mannered]
    exact told
  have finished (results : List (Instant × IterationResult)) :
      (results.map fun e => UnitOutcome.finished e.2) =
        (results.map (·.2)).map UnitOutcome.finished := by
    rw [List.map_map]
    rfl
  rw [executeWith, targeted, valid]
  simp only [Bool.not_true, Bool.or_self, Bool.false_eq_true, ↓reduceIte, iterateWith, ran,
    answered, size, Option.bind_eq_bind, Option.bind_some, Option.map_some, Option.pure_def,
    acknowledge, poolError?, finished, firstPanic?_of_finished]
  refine ⟨_, _, rfl, rfl, ?_⟩
  simp [PoolOutcome.results, Except.toOption, List.filterMap_map, Function.comp_def]

end Worker

/-- A worker of a site that answers in time, and leaves itself and the store as they are, leaves the
site as it is. -/
theorem Site.serve_leaves {site : Site} {position : Nat} {w : Worker} {stage : Stage}
    {now : Instant} {deadline : Option Instant} (here : site.workers[position]? = some w)
    (leaves : ∀ x, (w.execute site.surroundings stage now).execution = some x →
      x.worker = w ∧ x.store = site.surroundings.store) {reply : Reply}
    (served : (site.serve position stage now deadline).1 = some reply)
    (inTime : reply.inTime deadline) : (site.serve position stage now deadline).2 = site := by
  rw [serve, here] at served ⊢
  dsimp only at served ⊢
  cases executed : (w.execute site.surroundings stage now).execution with
  | none => rw [executed] at served; cases served
  | some e =>
    rw [executed] at served
    dsimp only at served ⊢
    have counts : (replyOf (w.execute site.surroundings stage now) e).inTime deadline = true := by
      by_contra late
      rw [if_neg late] at served
      cases served
      exact late inTime
    have same : site.workers.set position w = site.workers := by
      obtain ⟨inside, rfl⟩ := List.getElem?_eq_some_iff.1 here
      exact List.set_getElem_self inside
    obtain ⟨worker, store⟩ := leaves e executed
    rw [if_pos counts, worker, store, same]
    rfl

/-! ### The coordinator -/

namespace Coordinator

variable {W : Type} {c : Coordinator} {fleet : List (Member W)} {stage : Stage} {now : Instant}
  {world : W}

/-- When all workers of a fleet reply in time, with acknowledgements of some property, the
coordinator has such an acknowledgement of each of them. -/
theorem collect?_of_inTime (Fits : WorkerIndex → Acknowledgement → Prop)
    (distinct : (fleet.map (·.index)).Nodup)
    (replies : ∀ worker reply, (worker, reply) ∈ c.replies fleet stage now world →
      ∃ given ack, reply = some given ∧ given.inTime (c.deadline stage now) ∧
        given.answer = .ok ack ∧ Fits worker ack) :
    ∃ d, c.collect? fleet stage now world = some d ∧
      d.acks.keys.Perm (fleet.map (·.index)) ∧
        ∀ worker ack, d.acks.find? worker = some ack → Fits worker ack := by
  cases collected : c.collect? fleet stage now world with
  | none =>
    obtain ⟨-, worker, silent⟩ := waitsForever_iff.1 (collect?_eq_none_iff.1 collected)
    obtain ⟨_, _, none, -⟩ := replies worker none silent
    cases none
  | some d =>
    refine ⟨d, rfl, keys_acks distinct collected, fun worker ack found => ?_⟩
    have known : worker ∈ d.acks.keys := OrderedMap.mem_keys_iff.2 ⟨ack, found⟩
    rw [(keys_acks distinct collected).mem_iff, mem_replies] at known
    obtain ⟨reply, replied⟩ := known
    obtain ⟨given, ack', rfl, inTime, answer, fits⟩ := replies worker reply replied
    have counted : c.counted? stage now (some given) = some given :=
      Option.filter_eq_some_iff.2 ⟨rfl, inTime⟩
    rw [find?_acks distinct collected replied, receive?_of_counted counted] at found
    simp only [receivedOf, answer, Option.map_some, Option.some.injEq] at found
    exact found ▸ fits

end Coordinator
end LoadFleet
