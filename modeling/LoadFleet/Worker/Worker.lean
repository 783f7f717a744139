import LoadFleet.Stage.Validation
import LoadFleet.Stressor.Crew
import LoadFleet.Stressor.Iterate
import LoadFleet.Stressor.Stress
import LoadFleet.Text.Quoted
import LoadFleet.Worker.Error
/-!
# Workers

A worker runs one stage after the other and answers each with an acknowledgement. Between stages it
remembers, for every topology history, the newest event that a wait has seen, so that the next wait
looks only at later ones.

`Worker.execute` tells when a worker answers, what, and what it leaves behind. A worker whose store
hangs may never answer; `Running.abandon` tells what happens when nobody waits any longer.
-/

namespace LoadFleet

/-- The newest event of each cache and history that a wait has seen. -/
abbrev Markers := String → HistoryKind → Option EventId

namespace Markers

/-- No event was seen yet. -/
def none : Markers := fun _ _ => Option.none

/-- Remembers an event. -/
def set (m : Markers) (cache : String) (history : HistoryKind) (id : EventId) : Markers :=
  fun c h => if c = cache ∧ h = history then some id else m c h

end Markers

/-- A worker between two stages. -/
structure Worker where
  index : WorkerIndex
  /-- How long stressors may take to stop when time has run out. -/
  grace : Span
  markers : Markers

namespace Worker

/-- The grace period unless another is configured. -/
def defaultGrace : Span := .ofSeconds 5

/-- A worker that has seen nothing yet. -/
def start (index : WorkerIndex) (grace : Span) : Worker := ⟨index, grace, .none⟩

/-- Forgets what was seen. -/
def reset (w : Worker) : Worker := { w with markers := .none }

end Worker

/-- What a worker works with: the clock, the service under test, its topology and the calendar. -/
structure Surroundings where
  clock : Clock
  store : Simulated
  timeline : Timeline
  /-- The calendar time at which the clock reads zero. -/
  epoch : WallTime
  /-- What the draws of stress tests start from. -/
  seed : UInt64
  /-- How many nanoseconds pass between two readings of the clock in a row. -/
  lag : Nat

/-- What running a stage comes to: the acknowledgement and when it is given, the worker and the
store afterwards. -/
structure Execution where
  answered : Instant
  ack : Acknowledgement
  worker : Worker
  store : Simulated

/-- A stage as it runs: how it ends if it does, and the store if nobody waits any longer. -/
structure Running where
  execution : Option Execution
  /-- Whether the worker answers by itself, without stressors that have to get their turn. -/
  alone : Bool
  abandon : Instant → Simulated

/-! ### Calls of the worker itself -/

/-- When a call of the worker to its store comes to an end, and what becomes of it. -/
def callEnd? (clock : Clock) (store : Simulated) (call : StoreCall) (now : Instant) :
    Option (Instant × Except StoreError Unit) :=
  let delay := store.manners.delay call
  let time := if delay.isZero then now else clock.wake now delay
  match store.manners.fate call with
  | .answered => some (time, .ok ())
  | .fails e => some (time, .error e)
  | .crashes _ | .hangs => none

/-! ### Stages of a pool -/

/-- What a stage measured, and what went wrong. -/
structure StageResult where
  payload : Payload
  error : Option AckError

/-- The wording of a crash. -/
def panicText (unit : Nat) (message : String) : String :=
  s!"task {unit} panicked with message " ++ Quoted.encode message

/-- The error of the first stressor that crashed. -/
def firstPanic? {A : Type} (worker : WorkerIndex) : Nat → List (UnitOutcome A) → Option AckError
  | _, [] => none
  | i, .panicked message :: _ =>
    some { kind := .stage
           message := s!"worker {worker}: stressor {i} panicked: {panicText i message}" }
  | i, _ :: r => firstPanic? worker (i + 1) r

/-- What is wrong with how a pool ended. -/
def poolError? {A W : Type} (worker : WorkerIndex) (stage : Stage) (o : PoolOutcome A W) :
    Option AckError :=
  if o.timedOut then
    let timeout := (stage.timeout.getD .zero).brief
    some { kind := .timeout
           message :=
             s!"worker {worker}: stage `{stage.name}` exceeded its timeout of {timeout}, " ++
               s!"{o.aborted} stressors aborted" }
  else firstPanic? worker 0 o.units

/-- The limits of the pool of a stage. -/
def Worker.limits (w : Worker) (stage : Stage) : PoolLimits := ⟨stage.timeout, w.grace⟩

/-- The seat of a stressor. -/
def Surroundings.seat (env : Surroundings) (i : Nat) : Seat := ⟨i, env.epoch⟩

/-- How a stressor of an iteration takes a turn. -/
def Iterate.step (settings : IterateSettings) (env : Surroundings) :
    Step Unit (Iterate.State Simulated.Cursor) IterationResult :=
  fun i s now stopping _ => (s.turn settings (env.seat i) now stopping, ())

/-- The stressors of an iteration. -/
def Iterate.crew (settings : IterateSettings) (env : Surroundings) (now : Instant) :
    Crew Unit (Iterate.State Simulated.Cursor) IterationResult :=
  .start env.clock () env.store
    ((List.range settings.test.threads.toNat).map fun i => Iterate.start settings (env.seat i) now)
    now

/-- What a stressor of a stress test works with. -/
def Stress.setup (settings : StressSettings) (weights : Stress.Weights) (value : Bytes)
    (env : Surroundings) (i : Nat) : Stress.Setup :=
  ⟨settings, weights, value, env.seat i, Stress.seeded (env.seed + i.toUInt64), env.lag⟩

/-- How a stressor of a stress test takes a turn. Without weights to draw an operation with, it
gives up at once. -/
def Stress.step (settings : StressSettings) (value : Bytes) (env : Surroundings) :
    Step Stress.Completion Stress.State Stress.Result :=
  fun i s now stopping completion =>
    match Stress.weights? settings with
    | .ok weights => s.turn (Stress.setup settings weights value env i) now stopping completion
    | .error reason =>
      (.finish ⟨.empty settings.test.stats, some s!"invalid operation ratios: {reason}"⟩,
        completion)

/-- The stressors of a stress test. -/
def Stress.crew (settings : StressSettings) (env : Surroundings) (now : Instant) :
    Crew Stress.Completion Stress.State Stress.Result :=
  .start env.clock (.ofSettings settings) env.store
    ((List.range settings.test.threads.toNat).map fun i =>
      ⟨(env.seat i).begin settings.test.stats now, 0, 0, none⟩)
    now

/-- The store after the stressors of a pool were told to stop because nobody waits for them. -/
def abandonPool {K S R : Type} (crew : Crew K S R) (step : Step K S R) (limits : PoolLimits)
    (started dropped : Instant) : Simulated :=
  let stop := match Pool.deadline crew.clock limits started with
    | some d => min d dropped
    | none => dropped
  (crew.squad step (some stop) none).after

/-- The iteration stage, given what its stressors do: the results of those that finished, and the
size of the container as the store tells it afterwards. -/
def Worker.iterateWith (w : Worker) (clock : Clock) (stage : Stage) (settings : IterateSettings)
    (now : Instant) (squad : Option Instant → Squad IterationResult Simulated) :
    Option (Instant × StageResult × Simulated) := do
  let outcome ← Pool.run clock (w.limits stage) now squad
  let (answered, fate) ← callEnd? clock outcome.after .totalSize outcome.ended
  let size := match fate with
    | .ok () => outcome.after.totalSize settings.container
    | .error e => .error e
  return (answered,
    { payload := .iteration outcome.results (size.toOption.bind id)
      error := poolError? w.index stage outcome },
    outcome.after)

/-- The iteration stage of a worker, whose stressors share its store. -/
def Worker.iterate (w : Worker) (env : Surroundings) (stage : Stage) (settings : IterateSettings)
    (now : Instant) : Option (Instant × StageResult × Simulated) :=
  let crew := Iterate.crew settings env now
  w.iterateWith env.clock stage settings now
    (crew.pooled (Iterate.step settings env) (w.limits stage) now)

/-- The error of the first stressor that gave up. -/
def firstFailure? (worker : WorkerIndex) (results : List Stress.Result) : Option AckError :=
  (results.findSome? (·.failure)).map fun failure =>
    { kind := .stage, message := s!"worker {worker}: {failure}" }

/-- The stress test, given what its stressors do: the statistics of those that finished. -/
def Worker.stressWith (w : Worker) (clock : Clock) (stage : Stage) (now : Instant)
    (squad : Option Instant → Squad Stress.Result Simulated) :
    Option (Instant × StageResult × Simulated) := do
  let outcome ← Pool.run clock (w.limits stage) now squad
  return (outcome.ended,
    { payload := .statistics (outcome.results.map (·.stats))
      error := (poolError? w.index stage outcome).orElse fun _ =>
        firstFailure? w.index outcome.results },
    outcome.after)

/-- The stress test of a worker, whose stressors share its store. -/
def Worker.stress (w : Worker) (env : Surroundings) (stage : Stage) (settings : StressSettings)
    (now : Instant) : Option (Instant × StageResult × Simulated) :=
  let crew := Stress.crew settings env now
  let step := Stress.step settings (Bytes.zeros settings.entrySize.toNat) env
  w.stressWith env.clock stage now (crew.pooled step (w.limits stage) now)

/-! ### Topology stages -/

/-- How a topology stage ended, and the markers after it. -/
structure TopologyResult where
  answered : Instant
  result : Except WorkerError Unit
  markers : Markers

/-- The cache that a setting names. -/
def cacheName (cache : Option String) : String := cache.getD defaultCache

/-- What an event stage waits for, after a marker. -/
def EventSettings.query (s : EventSettings) (marker : Option EventId) :
    TopologyHistory.EventQuery :=
  ⟨cacheName s.cache, s.history, s.condition, s.minMembers, s.memberLimit, marker⟩

/-- The markers after an event stage: if it sets them, they remember the newest event. -/
def EventSettings.remember (s : EventSettings) (h : TopologyHistory) (m : Markers) : Markers :=
  let cache := cacheName s.cache
  match s.set, h.latest? cache s.history with
  | true, some id => m.set cache s.history id
  | _, _ => m

/-- Waits for an event, or only remembers the newest one. -/
def Worker.waitForEvent (w : Worker) (env : Surroundings) (s : EventSettings) (now : Instant) :
    Option TopologyResult :=
  let cache := cacheName s.cache
  if s.wait then
    let query := s.query (w.markers cache s.history)
    match env.timeline.waitForEvent env.clock.wake query ⟨s.timeout, s.pollInterval⟩ now with
    | .found _ t => some ⟨t, .ok (), s.remember (env.timeline.seen t) w.markers⟩
    | .timedOut waited t =>
      let context :=
        s!"waiting for {s.condition.title} of {s.history.title} history in cache `{cache}`"
      some ⟨t, .error (.timeout context waited), w.markers⟩
    | .never => none
  else some ⟨now, .ok (), s.remember (env.timeline.seen now) w.markers⟩

/-- Waits until nothing changes any more, and asks for the members of the cluster. -/
def Worker.waitForSettle (w : Worker) (env : Surroundings) (s : SettleSettings)
    (now : Instant) : Option TopologyResult :=
  let cache := cacheName s.cache
  let limits : WaitLimits := ⟨s.timeout, s.pollInterval⟩
  match env.timeline.waitUntilSettled env.clock.wake cache s.histories s.checkMembership
      s.period limits now with
  | .found () t =>
    (callEnd? env.clock env.store .members t).map fun (answered, fate) =>
      ⟨answered, fate.mapError (.store "failed to query cluster members"), w.markers⟩
  | .timedOut waited t =>
    some ⟨t, .error (.timeout s!"waiting for cache `{cache}` to settle" waited), w.markers⟩
  | .never => none

/-- Checks whether the histories changed as expected, up to the first that did not. -/
def checkHistories (h : TopologyHistory) (s : CheckSettings) (now : Instant) :
    List HistoryKind → Except WorkerError Unit
  | [] => .ok ()
  | history :: r =>
    let cache := cacheName s.cache
    if h.checkRecent cache history s.period s.changed now then checkHistories h s now r
    else .error (.topologyCheck cache history s.changed)

/-- Runs a topology stage. -/
def Worker.topology (w : Worker) (env : Surroundings) (kind : StageKind) (now : Instant) :
    Option TopologyResult :=
  if !env.store.manners.tellsTopology then
    some ⟨now, .error (.noTopology env.store.name), w.markers⟩
  else
    match kind with
    | .waitForEvent s => w.waitForEvent env s now
    | .waitForSettle s => w.waitForSettle env s now
    | .checkTopology s =>
      some ⟨now, checkHistories (env.timeline.seen now) s now s.histories.toList, w.markers⟩
    | _ => some ⟨now, .ok (), w.markers⟩

/-- The error of a topology stage. -/
def topologyError (worker : WorkerIndex) (stage : Stage) (e : WorkerError) : AckError :=
  .ofChain (if e.isTimeout then .timeout else .stage)
    s!"worker {worker} failed stage `{stage.name}`" e.chain

/-! ### Stages -/

/-- The acknowledgement of a stage that was run. -/
def Worker.acknowledge (w : Worker) (now answered : Instant) (r : StageResult) : Acknowledgement :=
  ⟨w.index, Instant.spanTo now answered, r.error, r.payload⟩

@[simp] theorem Worker.acknowledge_worker (w : Worker) (now answered : Instant) (r : StageResult) :
    (w.acknowledge now answered r).worker = w.index := rfl

@[simp] theorem Worker.acknowledge_error (w : Worker) (now answered : Instant) (r : StageResult) :
    (w.acknowledge now answered r).error = r.error := rfl

/-- Runs a valid stage that is for the worker, while its service is running. -/
def Worker.runStage (w : Worker) (env : Surroundings) (stage : Stage) (now : Instant) :
    Option Execution :=
  match stage.kind with
  | .iterate s =>
    (w.iterate env stage s now).map fun (t, r, store) => ⟨t, w.acknowledge now t r, w, store⟩
  | .stress s =>
    (w.stress env stage s now).map fun (t, r, store) => ⟨t, w.acknowledge now t r, w, store⟩
  | kind =>
    (w.topology env kind now).map fun r =>
      let error := match r.result with
        | .ok () => none
        | .error e => some (topologyError w.index stage e)
      ⟨r.answered, w.acknowledge now r.answered ⟨.none, error⟩, { w with markers := r.markers },
        env.store⟩

/-- The store of a stage that nobody waits for any longer. -/
def Worker.abandon (w : Worker) (env : Surroundings) (stage : Stage) (now dropped : Instant) :
    Simulated :=
  match stage.kind with
  | .iterate s =>
    abandonPool (Iterate.crew s env now) (Iterate.step s env) (w.limits stage) now dropped
  | .stress s =>
    abandonPool (Stress.crew s env now)
      (Stress.step s (Bytes.zeros s.entrySize.toNat) env) (w.limits stage) now dropped
  | _ => env.store

/-- The error of a stage that the worker refuses to run. -/
def rejection (worker : WorkerIndex) (stage : Stage) (e : StageError) : AckError :=
  .ofChain .stage s!"worker {worker} rejected stage `{stage.name}`" [e.message]

/-- Whether a stage is run by stressors. -/
def StageKind.hasStressors : StageKind → Bool
  | .iterate _ | .stress _ => true
  | _ => false

/-- Runs a stage. A stage that is not for the worker is skipped, and so are all stages while the
service is not running. -/
def Worker.execute (w : Worker) (env : Surroundings) (stage : Stage) (now : Instant) : Running :=
  let atOnce (ack : Acknowledgement) : Running :=
    ⟨some ⟨now, ack, w, env.store⟩, true, fun _ => env.store⟩
  if !stage.targets w.index || !env.store.memory.running then
    atOnce (.success w.index .zero .none)
  else
    match stage.validate with
    | .error e => atOnce (.failure w.index .zero (rejection w.index stage e))
    | .ok () => ⟨w.runStage env stage now, !stage.kind.hasStressors, w.abandon env stage now⟩

end LoadFleet
