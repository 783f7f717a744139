import LoadFleet.Proofs.JointPasses
import LoadFleet.Proofs.LocalWorkers
/-!
# Passes of a crew

A worker that runs an iteration lets its stressors take turns in the order of a queue. What they do
is one of the runs of `Iterate.Moment.Runs`, in which the stressors of the other workers wait.
Without faults every turn takes the stressors closer to their end, so a crew that takes turns enough
is done.

* `Crew.units_requeue`: which stressors a queue holds.
* `Iterate.Shows`: a crew shows where the stressors of a worker stand.
* `Iterate.turn_shows`: a turn is a step or two of a run, or drops a stressor that has ended from
  the queue. So the steps left and the length of the queue get less in sum.
* `Iterate.run_shows`: by induction over the turns, a crew that takes enough of them is done.
* `Iterate.crew_passes`: what a worker lets its stressors do goes on with any run in which they are
  at their start.
-/

namespace LoadFleet

/-! ### Queues -/

namespace Crew

/-- The numbers of the stressors in a queue. -/
def units (queue : List Queued) : List Nat := queue.map (·.unit)

theorem units_enqueue (p : Queued) (queue : List Queued) :
    (units (enqueue p queue)).Perm (p.unit :: units queue) := by
  induction queue with
  | nil => exact .refl _
  | cons q r ih =>
    rw [enqueue]
    split
    · exact .refl _
    · exact (ih.cons q.unit).trans (.swap ..)

/-- A stressor that is put back into a queue is in it, with all others. -/
theorem units_requeue (p : Queued) (call : StoreCall) (queue : List Queued) :
    (units (requeue p call queue)).Perm (p.unit :: units queue) := by
  rw [requeue]
  generalize (if isCounted call then p.left - 1 else p.left) = left
  split
  · exact units_enqueue ..
  · exact .refl _

/-- Every stressor has a first turn. -/
theorem mem_units_firstTurns (now : Instant) {i count : Nat} (below : i < count) :
    i ∈ units (firstTurns now count) := by
  simp only [units, firstTurns, List.map_map, List.mem_map, List.mem_append, List.mem_range]
  refine ⟨i, ?_, rfl⟩
  rw [if_neg (by omega), List.mem_singleton]
  omega

theorem length_firstTurns (now : Instant) (count : Nat) :
    (firstTurns now count).length = count := by
  rw [firstTurns, List.length_map, List.length_append, List.length_range]
  split
  · next none => rw [none]; rfl
  · rw [List.length_singleton]
    omega

variable {K S R : Type} {c : Crew K S R}

/-- A store with good manners answers a call. -/
theorem settle_of_mannered (mannered : c.store.manners = {}) (p : Queued)
    (ask : Ask Simulated.Cursor S) :
    c.settle p ask =
      { c with
          store := (ask.answer c.store p.time).2
          stands := c.stands.setIfInBounds p.unit (.ready (ask.answer c.store p.time).1)
          queue := requeue p ask.kind c.queue } := by
  have fate : c.store.manners.fate ask.kind = .answered := by rw [mannered]; rfl
  rw [settle]
  simp only [fate]

/-- A store with good manners takes no time for a call. -/
theorem call_of_mannered (mannered : c.store.manners = {}) (p : Queued)
    (ask : Ask Simulated.Cursor S) : c.call p ask = c.settle p ask := by
  have delay : (c.store.manners.delay ask.kind).isZero = true := by rw [mannered]; rfl
  rw [call]
  simp only [delay, ↓reduceIte]

end Crew

namespace Iterate

open Moment

/-! ### What a crew shows -/

variable {n k : Nat}

/-- A crew shows where the stressors of a worker stand. Those that have not ended are in its
queue. -/
structure Shows (c : Crew Unit (State Simulated.Cursor) IterationResult) (m : Moment n k)
    (worker : Fin n) : Prop where
  store : c.store = m.store
  size : c.stands.size = k
  stands : ∀ i : Fin k, c.stands[i.1]? = some (m.stands (worker, i))
  queued : ∀ i : Fin k, (∃ time ending, m.stands (worker, i) = .ended time ending) ∨
    i.1 ∈ Crew.units c.queue

section

variable {c : Crew Unit (State Simulated.Cursor) IterationResult} {m : Moment n k} {worker : Fin n}

/-- A crew and a moment go on in the same way with one stressor. -/
theorem Shows.set (shows : Shows c m worker) (i : Fin k) (store : Simulated)
    (stand : Stand Simulated.Cursor (State Simulated.Cursor) IterationResult)
    {queue : List Queued}
    (others : ∀ j ∈ Crew.units c.queue, j ≠ i.1 → j ∈ Crew.units queue)
    (here : (∃ time ending, stand = .ended time ending) ∨ i.1 ∈ Crew.units queue) :
    Shows { c with store, queue, stands := c.stands.setIfInBounds i.1 stand }
      ⟨store, Function.update m.stands (worker, i) stand⟩ worker := by
  have other (j : Fin k) (different : j ≠ i) :
      Function.update m.stands (worker, i) stand (worker, j) = m.stands (worker, j) :=
    Function.update_of_ne (fun same => different (Prod.ext_iff.1 same).2) ..
  refine ⟨rfl, by rw [Array.size_setIfInBounds, shows.size], fun j => ?_, fun j => ?_⟩
  · dsimp only
    rw [Array.getElem?_setIfInBounds]
    by_cases same : j = i
    · subst same
      simp [shows.size]
    · rw [if_neg fun eq => same (Fin.ext eq.symm), shows.stands, other j same]
  · dsimp only
    by_cases same : j = i
    · subst same
      simpa using here
    · rw [other j same]
      exact (shows.queued j).imp_right fun there =>
        others j.1 there fun eq => same (Fin.ext eq)

/-- Nothing is lost when a stressor that has ended is dropped from the queue. -/
theorem Shows.drop (shows : Shows c m worker) {p : Queued} {queue : List Queued}
    (taken : c.queue = p :: queue)
    (idle : ∀ i : Fin k, p.unit = i → ∃ time ending, m.stands (worker, i) = .ended time ending) :
    Shows { c with queue } m worker := by
  refine ⟨shows.store, shows.size, shows.stands, fun i => ?_⟩
  rcases shows.queued i with ended | there
  · exact .inl ended
  · rw [taken] at there
    rcases List.mem_cons.1 there with this | there
    · exact .inl (idle i this.symm)
    · exact .inr there

end

section

variable {settings : IterateSettings} {env : Surroundings} {found : InMemory.Cursor}
  {first m : Moment n k} {history : List (Moment n k)} {left : Nat} {worker : Fin n}
  {c : Crew Unit (State Simulated.Cursor) IterationResult}
  (offers : env.store.Offers settings found) (loops : 0 < settings.numLoops.toNat)

/-- How a run goes on with what one worker does: the stressors of the others wait. -/
structure GoesOn (settings : IterateSettings) (env : Surroundings) (found : InMemory.Cursor)
    (first : Moment n k) (history : List (Moment n k)) (m : Moment n k) (worker : Fin n)
    (history' : List (Moment n k)) (m' : Moment n k) (left : Nat) : Prop where
  run : Runs settings env.epoch first history' m'
  before : history <+: history'
  sound : Sound settings found env.store m' left
  waits : ∀ other i, other ≠ worker → m'.stands (other, i) = m.stands (other, i)

include offers loops

/-- A step of a stressor of a worker. -/
theorem GoesOn.step {history' : List (Moment n k)} {m' : Moment n k}
    (on : GoesOn settings env found first history m worker history' m' left) (i : Fin k)
    {store : Simulated}
    {stand : Stand Simulated.Cursor (State Simulated.Cursor) IterationResult}
    (goes : Goes settings (env.seat i) m'.store (m'.stands (worker, i)) store stand) :
    ∃ fewer, left = fewer + 1 ∧ GoesOn settings env found first history m worker
      (history' ++ [⟨store, Function.update m'.stands (worker, i) stand⟩])
      ⟨store, Function.update m'.stands (worker, i) stand⟩ fewer := by
  have next : Next settings env.epoch m' _ := .step (worker, i) goes
  obtain ⟨fewer, rfl, sound⟩ := on.sound.next offers loops next
  refine ⟨fewer, rfl, on.run.next next, on.before.trans (List.prefix_append _ _), sound,
    fun other j different => ?_⟩
  dsimp only
  rw [Function.update_of_ne fun same => different (Prod.ext_iff.1 same).1]
  exact on.waits other j different

variable {history' : List (Moment n k)} {m₀ m' : Moment n k} {p : Queued} {queue : List Queued}
  (on : GoesOn settings env found first history m worker history' m' left)

include on

omit loops in
theorem GoesOn.mannered (shows : Shows c m₀ worker) (same : m'.store = m₀.store) :
    c.store.manners = {} := by
  rw [shows.store, ← same, on.sound.1, offers.mannered]

/-- A crew answers the call of a stressor, and puts it back into the queue. -/
theorem settle_shows (shows : Shows c m₀ worker) (taken : c.queue = p :: queue) {i : Fin k}
    (unit : p.unit = i) (same : m'.store = m₀.store)
    {ask : Ask Simulated.Cursor (State Simulated.Cursor)}
    (waiting : m'.stands = Function.update m₀.stands (worker, i) (.waiting ask)) :
    ∃ history'' m'' fewer, left = fewer + 1 ∧
      GoesOn settings env found first history m worker history'' m'' fewer ∧
      Shows (Crew.settle { c with queue } p ask) m'' worker ∧
      (Crew.settle { c with queue } p ask).queue.length = c.queue.length := by
  have here : m'.stands (worker, i) = .waiting ask := by rw [waiting, Function.update_self]
  have goes : Goes settings (env.seat i) m'.store (.waiting ask) _ _ := .answer p.time
  rw [← here] at goes
  obtain ⟨fewer, rfl, on'⟩ := on.step offers loops i goes
  have units := Crew.units_requeue p ask.kind queue
  have others : ∀ j ∈ Crew.units c.queue, j ≠ i.1 →
      j ∈ Crew.units (Crew.requeue p ask.kind queue) := by
    intro j there _
    rw [taken] at there
    exact units.mem_iff.2 there
  have set := shows.set i (ask.answer c.store p.time).2 (.ready (ask.answer c.store p.time).1)
    others (.inr (units.mem_iff.2 (unit ▸ .head _)))
  have mannered : c.store.manners = {} := on.mannered offers shows same
  rw [Crew.settle_of_mannered (c := { c with queue }) mannered]
  refine ⟨_, _, fewer, rfl, on', ?_, ?_⟩
  · rw [waiting, Function.update_idem, same, ← shows.store, unit]
    exact set
  · have := units.length_eq
    rw [taken]
    simpa [Crew.units] using this

/-- A turn of a crew makes a step or two, or drops a stressor that has ended from the queue. -/
theorem turn_shows (shows : Shows c m' worker) (taken : c.queue = p :: queue) :
    ∃ history'' m'' fewer,
      GoesOn settings env found first history m worker history'' m'' fewer ∧
      Shows (Crew.turn (step settings env) none { c with queue } p) m'' worker ∧
      fewer + (Crew.turn (step settings env) none { c with queue } p).queue.length <
        left + c.queue.length := by
  have shorter : queue.length < c.queue.length := by rw [taken]; exact Nat.lt_succ_self _
  rw [Crew.turn]
  dsimp only
  cases stand : c.stands[p.unit]? with
  | none =>
    refine ⟨history', m', left, on, shows.drop taken fun i unit => ?_, by dsimp only; omega⟩
    cases stand.symm.trans (unit ▸ shows.stands i)
  | some stand' =>
    obtain ⟨inside, -⟩ := Array.getElem?_eq_some_iff.1 stand
    let i : Fin k := ⟨p.unit, shows.size ▸ inside⟩
    have here : m'.stands (worker, i) = stand' :=
      Option.some.inj ((shows.stands i).symm.trans stand)
    -- a stressor on track is never stuck
    obtain ⟨-, each, track, -⟩ := on.sound
    have track := track (worker, i)
    rw [here] at track
    cases stand' with
    | stuck => cases track
    | ended time ending =>
      refine ⟨history', m', left, on, shows.drop taken fun j unit => ?_, by dsimp only; omega⟩
      have same : j = i := Fin.ext unit.symm
      exact same ▸ ⟨time, ending, here⟩
    | waiting ask =>
      obtain ⟨_, _, fewer, rfl, on', shows', length⟩ := settle_shows offers loops on shows taken
        (i := i) rfl rfl (by rw [← here, Function.update_eq_self])
      refine ⟨_, _, fewer, on', shows', ?_⟩
      dsimp only
      omega
    | ready s =>
      rcases turn : s.turn settings (env.seat p.unit) p.time false with result | ask
      · have goes : Goes settings (env.seat i) m'.store (.ready s) _ _ := .finish turn
        rw [← here] at goes
        obtain ⟨fewer, rfl, on'⟩ := on.step offers loops i goes
        have others : ∀ j ∈ Crew.units c.queue, j ≠ i.1 → j ∈ Crew.units queue := by
          intro j there different
          rw [taken] at there
          exact (List.mem_cons.1 there).resolve_left different
        have set := shows.set i m'.store (.ended p.time (.finished result)) others
          (.inl ⟨_, _, rfl⟩)
        rw [← shows.store] at set on'
        simp only [step, Option.any_none, turn]
        exact ⟨_, _, fewer, on', set, by omega⟩
      -- the store answers a call at once, so the turn makes two steps
      · have goes : Goes settings (env.seat i) m'.store (.ready s) _ _ := .call turn
        rw [← here] at goes
        obtain ⟨fewer, rfl, on'⟩ := on.step offers loops i goes
        obtain ⟨_, _, fewer', rfl, on'', shows', length⟩ :=
          settle_shows offers loops on' shows taken (i := i) rfl rfl rfl
        have mannered : c.store.manners = {} := on.mannered offers shows rfl
        simp only [step, Option.any_none, turn]
        rw [Crew.call_of_mannered (c := { c with queue }) mannered]
        exact ⟨_, _, fewer', on'', shows', by omega⟩

/-- **A crew that takes enough turns is done**: its queue is empty in the end. -/
theorem run_shows (shows : Shows c m' worker) {turns : Nat}
    (enough : left + c.queue.length ≤ turns) :
    ∃ history'' m'' fewer,
      GoesOn settings env found first history m worker history'' m'' fewer ∧
      Shows (c.run (step settings env) none none turns) m'' worker ∧
      (c.run (step settings env) none none turns).queue = [] := by
  induction turns generalizing c history' m' left with
  | zero =>
    have empty : c.queue = [] := List.eq_nil_of_length_eq_zero (by omega)
    exact ⟨history', m', left, on, shows, empty⟩
  | succ turns ih =>
    rw [Crew.run]
    split
    · next empty => exact ⟨history', m', left, on, shows, empty⟩
    · next p queue taken =>
      obtain ⟨_, _, fewer, on, shows, less⟩ := turn_shows offers loops on shows taken
      exact ih on shows (by omega)

end

/-! ### The crew of a worker -/

section

variable {c : Crew Unit (State Simulated.Cursor) IterationResult} {m : Moment n k} {worker : Fin n}

/-- What a crew comes to is what the stressors that it shows have come to. -/
theorem Shows.squad (shows : Shows c m worker) :
    (⟨c.completions, c.store⟩ : Squad IterationResult Simulated) = m.squad worker := by
  have stands : c.stands.toList = List.ofFn fun i => m.stands (worker, i) := by
    refine List.ext_getElem (by simp [shows.size]) fun i inside inside' => ?_
    rw [List.length_ofFn] at inside'
    have here := shows.stands ⟨i, inside'⟩
    rw [Array.getElem?_eq_some_iff] at here
    obtain ⟨_, here⟩ := here
    simpa using here
  rw [Crew.completions, stands, List.map_ofFn, shows.store, Moment.squad]
  refine congrArg (Squad.mk · _) (congrArg List.ofFn (funext fun i => ?_))
  rw [Function.comp_apply]
  cases m.stands (worker, i) <;> rfl

/-- A crew whose queue is empty shows the results of all stressors. -/
theorem Shows.done {settings : IterateSettings} {found : InMemory.Cursor} {store : Simulated}
    {left : Nat} (shows : Shows c m worker) (empty : c.queue = [])
    (sound : Sound settings found store m left) : m.Done worker := by
  intro i
  obtain ⟨-, each, track, -⟩ := sound
  have track := track (worker, i)
  rcases shows.queued i with ⟨time, ending, ended⟩ | there
  · rw [ended] at track ⊢
    generalize each (worker, i) = here at track
    cases track with
    | ended => exact ⟨time, _, rfl⟩
  · rw [empty] at there
    cases there

end

/-- The crew of a worker shows a moment at which its stressors are at their start. -/
theorem crew_shows {settings : IterateSettings} (env : Surroundings) (now : Instant)
    {m : Moment n settings.test.threads.toNat} {worker : Fin n} (store : m.store = env.store)
    (start : ∀ i, m.stands (worker, i) = .ready (start settings (env.seat i) now)) :
    Shows (crew settings env now) m worker where
  store := store.symm
  size := by simp [crew, Crew.start]
  stands i := by
    rw [start]
    simp [crew, Crew.start]
  queued i := by
    right
    rw [crew, Crew.start, List.length_map, List.length_range]
    exact Crew.mem_units_firstTurns now i.2

/-- **What the crew of a worker does** is what a run goes on with, up to a moment at which the
worker is done. -/
theorem crew_passes {settings : IterateSettings} {env : Surroundings} {found : InMemory.Cursor}
    {first m : Moment n settings.test.threads.toNat}
    {history : List (Moment n settings.test.threads.toNat)} {left : Nat}
    (offers : env.store.Offers settings found) (loops : 0 < settings.numLoops.toNat)
    (run : Runs settings env.epoch first history m) (sound : Sound settings found env.store m left)
    (enough : left + settings.test.threads.toNat ≤ Crew.manyTurns) (worker : Fin n) (now : Instant)
    (start : ∀ i, m.stands (worker, i) = .ready (start settings (env.seat i) now))
    {limits : PoolLimits} (unlimited : limits.deadline = none) :
    ∃ history' m' fewer, GoesOn settings env found first history m worker history' m' fewer ∧
      m'.Done worker ∧
      (crew settings env now).pooled (step settings env) limits now none = m'.squad worker := by
  have shows := crew_shows env now sound.1 start
  have length : (crew settings env now).queue.length = settings.test.threads.toNat := by
    rw [crew, Crew.start, Crew.length_firstTurns, List.length_map, List.length_range]
  have here : GoesOn settings env found first history m worker history m left :=
    ⟨run, List.prefix_rfl, sound, fun _ _ _ => rfl⟩
  obtain ⟨history', m', fewer, on, shows', empty⟩ :=
    run_shows offers loops here shows (length ▸ enough)
  have forever : Pool.deadline env.clock limits now = none := by rw [Pool.deadline, unlimited]; rfl
  refine ⟨history', m', fewer, on, shows'.done empty on.sound, ?_⟩
  rw [← shows'.squad, Crew.pooled, crew, Crew.start, forever]
  rfl

end Iterate

end LoadFleet
