import LoadFleet.Ack.Acknowledgement
import LoadFleet.Coordinator.Error
import LoadFleet.Report.Verdict
import LoadFleet.Time.Brief
import LoadFleet.Time.Clock
/-!
# Fleets

The coordinator sends a stage to all workers of its fleet at once, and waits for their replies until
a deadline. Whatever the workers do, there is one acknowledgement for each of them in the end: its
own, or one that tells that the worker could not be reached or did not answer in time.

What a worker does is given from outside, as a function on a world that the fleet shares. The rules
of the coordinator hold for every such function.
-/

namespace LoadFleet

/-- What comes back from a worker. -/
structure Reply where
  time : Instant
  /-- Whether the reply counts when the deadline is reached at the same instant. -/
  punctual : Bool
  answer : Except CoordinatorError Acknowledgement

/-- Whether a reply comes before a deadline, if there is one. -/
def Reply.inTime (r : Reply) (deadline : Option Instant) : Bool :=
  deadline.all fun d => r.time < d || (r.time = d && r.punctual)

/-- A worker of a fleet that shares a world. -/
structure Member (W : Type) where
  index : WorkerIndex
  /-- Serves a stage that is sent now, given the instant after which nobody waits. The reply may
  come late or not at all. -/
  serve : Stage → Instant → Option Instant → W → Option Reply × W

/-- A worker that cannot be reached. -/
def Member.unreachable {W : Type} (index : WorkerIndex) (causes : List String) : Member W :=
  ⟨index, fun _ now _ world => (some ⟨now, true, .error (.transport index causes)⟩, world)⟩

/-- How long the coordinator waits for acknowledgements. -/
structure Patience where
  /-- How long it waits when a stage has no time limit. -/
  timeout : Span := .ofSeconds 3600
  /-- How long it waits beyond the time limit of a stage. -/
  slack : Span := .ofSeconds 15

namespace Patience

/-- How long the coordinator waits for the acknowledgements of a stage. -/
def span (p : Patience) (stage : Stage) : Span :=
  match stage.timeout with
  | some timeout => timeout + p.slack
  | none => p.timeout

end Patience

/-- The coordinator: its clock and its patience. -/
structure Coordinator where
  clock : Clock
  patience : Patience

/-- An acknowledgement, and when it was there. -/
structure Received where
  worker : WorkerIndex
  time : Instant
  ack : Acknowledgement

/-- The error of a worker whose call failed. -/
def unreachableError (worker : WorkerIndex) (e : CoordinatorError) : AckError :=
  .ofChain .unreachable s!"worker {worker} could not be reached" e.chain

/-- The error of a worker that did not answer in time. -/
def lateError (worker : WorkerIndex) (stage : Stage) (patience : Span) : AckError :=
  { kind := .timeout
    message :=
      s!"worker {worker} did not acknowledge stage `{stage.name}` within {patience.brief}" }

namespace Coordinator

/-- When the coordinator stops waiting; a deadline that the clock cannot represent never comes. -/
def deadline (c : Coordinator) (stage : Stage) (now : Instant) : Option Instant :=
  c.clock.alarm? now (c.patience.span stage)

/-- What stands for a worker that gave no answer in time; nothing if it is waited for forever. -/
def late? (c : Coordinator) (stage : Stage) (now : Instant) (worker : WorkerIndex) :
    Option Received :=
  (c.deadline stage now).map fun d =>
    ⟨worker, d, .failure worker (now.spanTo d) (lateError worker stage (c.patience.span stage))⟩

/-- The acknowledgement of a worker, given its reply. -/
def receive? (c : Coordinator) (stage : Stage) (now : Instant) (worker : WorkerIndex) :
    Option Reply → Option Received
  | some reply =>
    if reply.inTime (c.deadline stage now) then
      some
        { worker
          time := reply.time
          ack := match reply.answer with
            | .ok ack => ack
            | .error e => .failure worker (now.spanTo reply.time) (unreachableError worker e) }
    else c.late? stage now worker
  | none => c.late? stage now worker

end Coordinator

/-- The replies of the workers to a stage, in the order of the fleet, and the world afterwards. -/
def Fleet.send {W : Type} (stage : Stage) (now : Instant) (deadline : Option Instant) :
    List (Member W) → W → List (WorkerIndex × Option Reply) × W
  | [], world => ([], world)
  | m :: r, world =>
    let (reply, world) := m.serve stage now deadline world
    let (replies, world) := Fleet.send stage now deadline r world
    ((m.index, reply) :: replies, world)

/-- What a stage comes to when all workers are done with it, or given up. -/
structure Dispatched (W : Type) where
  /-- What was received, in the order of the fleet. -/
  received : List Received
  world : W

namespace Dispatched

variable {W : Type}

/-- The acknowledgements by worker. -/
def acks (d : Dispatched W) : Acknowledgements :=
  .ofList (d.received.map fun r => (r.worker, r.ack))

/-- When the last acknowledgement was there. -/
def ended (d : Dispatched W) (now : Instant) : Instant :=
  d.received.foldl (fun last r => max last r.time) now

end Dispatched

/-- What the coordinator comes to with something that it does, when that is, and the world then. -/
structure Ended (W A : Type) where
  result : Except CoordinatorError A
  time : Instant
  world : W

namespace Coordinator

variable {W : Type}

/-- Sends a stage to all workers and waits for them. There is no result if the coordinator waits
forever. -/
def collect? (c : Coordinator) (fleet : List (Member W)) (stage : Stage) (now : Instant)
    (world : W) : Option (Dispatched W) := do
  let (replies, world) := Fleet.send stage now (c.deadline stage now) fleet world
  return ⟨← replies.mapM fun (worker, reply) => c.receive? stage now worker reply, world⟩

/-- Sends a stage to all workers and waits for them, unless the stage is not valid: then no worker
is sent anything. There is no result if the coordinator waits forever. -/
def dispatch? (c : Coordinator) (fleet : List (Member W)) (stage : Stage) (now : Instant)
    (world : W) : Option (Ended W Acknowledgements) :=
  match stage.validate with
  | .error flaw => some ⟨.error (.config flaw), now, world⟩
  | .ok () => (c.collect? fleet stage now world).map fun d => ⟨.ok d.acks, d.ended now, d.world⟩

end Coordinator

end LoadFleet
