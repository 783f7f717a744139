import LoadFleet.Coordinator.Fleet
import LoadFleet.Worker.Worker
/-!
# Workers beside the coordinator

Workers may live in the process of the coordinator. They share a store and its topology, and each
has a state of its own.
-/

namespace LoadFleet

/-- Workers that live beside the coordinator, and what they work with. -/
structure Site where
  surroundings : Surroundings
  workers : List Worker

namespace Site

/-- A site with a number of workers. -/
def start (surroundings : Surroundings) (workers : List Worker) : Site := ⟨surroundings, workers⟩

/-- Puts a store in the place of the one that the workers share. -/
def withStore (s : Site) (store : Simulated) : Site :=
  { s with surroundings := { s.surroundings with store } }

/-- The reply of a worker that answered. -/
def replyOf (running : Running) (e : Execution) : Reply := ⟨e.answered, running.alone, .ok e.ack⟩

/-- The site when nobody waits any longer for a stage that runs: its stressors are told to stop. -/
def abandon (s : Site) (running : Running) (deadline : Option Instant) : Site :=
  match deadline with
  | some d => s.withStore (running.abandon d)
  | none => s

/-- Lets the worker at a position run a stage. A worker that is not waited for forgets it. -/
def serve (position : Nat) (stage : Stage) (now : Instant) (deadline : Option Instant) (s : Site) :
    Option Reply × Site :=
  match s.workers[position]? with
  | none => (none, s)
  | some worker =>
    let running := worker.execute s.surroundings stage now
    match running.execution with
    | none => (none, s.abandon running deadline)
    | some e =>
      let reply := replyOf running e
      if reply.inTime deadline then
        (some reply, { s.withStore e.store with workers := s.workers.set position e.worker })
      else (some reply, s.abandon running deadline)

/-- The worker at a position as a worker of a fleet whose world holds the site. -/
def member {W : Type} (site : W → Site) (put : Site → W → W) (position : Nat)
    (index : WorkerIndex) : Member W :=
  ⟨index, fun stage now deadline world =>
    let (reply, after) := (site world).serve position stage now deadline
    (reply, put after world)⟩

end Site

end LoadFleet
