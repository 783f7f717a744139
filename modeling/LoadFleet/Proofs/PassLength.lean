import LoadFleet.Proofs.SharedIteration
import LoadFleet.Proofs.StoreHistory
/-!
# How long a pass is

A stressor passes over the entries of a store in memory that others call meanwhile. A step that
fails leaves the cursor where it is, so that the entries do not bound a pass: the faults do that are
pending for steps, which others may take but do not add to, and the failures that are allowed.

* `Iterate.Scene.advance`: the stressor takes a turn, after others have called the store.
* `Iterate.Accounted`: what a pass has asked for and may still ask for.
* `Iterate.Accounted.denied`: a step that fails takes a fault, and is one fewer that may fail.
* `Iterate.Accounted.advance`: by cases on the phase, a turn keeps to this.
* `Iterate.Accounted.ends`: by induction on the turns that are left, a pass ends.
* `Iterate.Scene.finishes_of_between`: by induction on the passes that are left, a stressor
  finishes.
* `Iterate.pass_ends`: the main statement.
-/

namespace LoadFleet.Iterate

open InMemory (Call Asks Converts)

/-! ### Turns among others -/

/-- What surrounds a turn of a stressor: the calls of others since its last one, its time, whether
the stressor is asked to stop, and the time of the answer. -/
structure Spell where
  others : List Call
  asked : Instant
  stopping : Bool
  answered : Instant

/-- Others arm no faults for steps. -/
def Spell.Quiet (spell : Spell) : Prop := ∀ count, .arm .next count ∉ spell.others

/-- A stressor and the store that it shares with others, with what the stressor was answered so far,
the newest answer first. -/
structure Scene where
  store : InMemory
  state : State InMemory.Cursor
  events : List InMemory.Event := []
  result : Option IterationResult := none

/-- The pass that is going on. -/
def Phase.pass? {C : Type} : Phase C → Option (Pass C)
  | .asking pass | .stepping pass | .closing pass _ => some pass
  | .between | .done => none

namespace Scene

/-- A stressor takes a turn, unless it has finished. -/
def advance (settings : IterateSettings) (seat : Seat) (c : Scene) (spell : Spell) : Scene :=
  if c.result.isSome then c
  else
    let store := c.store.after spell.others
    match c.state.turn settings seat spell.asked spell.stopping with
    | .finish result => { c with store, result := some result }
    | .call ask =>
      { c with
          store := (ask.answer store spell.answered).2
          state := (ask.answer store spell.answered).1
          events := ⟨ask.call, (store.serve ask.call).1⟩ :: c.events }

/-- A stressor after so many turns. -/
def run (settings : IterateSettings) (seat : Seat) (spells : Nat → Spell) (c : Scene) : Nat → Scene
  | 0 => c
  | n + 1 => run settings seat (fun k => spells (k + 1)) (c.advance settings seat (spells 0)) n

/-- A stressor is in a pass. -/
def InPass (c : Scene) : Prop := c.state.phase.pass?.isSome

end Scene

/-- A cursor is asked whether it has more. -/
def isQuery : InMemory.Event → Bool
  | ⟨.hasNext _, _⟩ => true
  | _ => false

/-- A cursor is asked for the next entry. -/
def isStep : InMemory.Event → Bool
  | ⟨.next _, _⟩ => true
  | _ => false

/-- A cursor is asked for the next entry, and fails to give it. -/
def isFailedStep : InMemory.Event → Bool
  | ⟨.next _, .entry (.error _)⟩ => true
  | _ => false

/-! ### What a pass may still ask for -/

/-- How many more steps may fail: no more than there are faults, and no more than are allowed, save
for the one that ends the pass. -/
def failuresLeft (limit faults : Nat) (pass : Pass InMemory.Cursor) : Nat :=
  min faults (limit + 1 - pass.nextFailures.toNat)

/-- How many steps a pass may still take. -/
def stepsLeft (limit faults : Nat) : Phase InMemory.Cursor → Nat
  | .asking pass | .stepping pass => pass.cursor.length + failuresLeft limit faults pass
  | _ => 0

/-- How often a pass may still ask whether there is more. -/
def queriesLeft (limit faults : Nat) : Phase InMemory.Cursor → Nat
  | .asking pass => pass.cursor.length + failuresLeft limit faults pass + 1
  | .stepping pass => pass.cursor.length + failuresLeft limit faults pass
  | _ => 0

/-- How many more turns a pass may take. -/
def turnsLeft (limit faults : Nat) : Phase InMemory.Cursor → Nat
  | .asking pass => 2 * (pass.cursor.length + failuresLeft limit faults pass) + 3
  | .stepping pass => 2 * (pass.cursor.length + failuresLeft limit faults pass) + 2
  | .closing _ _ => 1
  | _ => 0

/-- The phases of a pass in which so many steps have failed. -/
inductive InPhase (limit failed : Nat) : Phase InMemory.Cursor → Prop where
  | asking {pass : Pass InMemory.Cursor} (counted : pass.nextFailures.toNat = failed)
    (allowed : failed ≤ limit) : InPhase limit failed (.asking pass)
  | stepping {pass : Pass InMemory.Cursor} (counted : pass.nextFailures.toNat = failed)
    (allowed : failed ≤ limit) (there : pass.cursor ≠ []) : InPhase limit failed (.stepping pass)
  | closing {pass : Pass InMemory.Cursor} {outcome : PassEnd}
    (counted : pass.nextFailures.toNat = failed) : InPhase limit failed (.closing pass outcome)

/-- The faults that are pending for steps. -/
def Scene.pending (c : Scene) : Nat := c.store.faults.next.toNat

/-- The steps that failed. -/
def Scene.failed (c : Scene) : Nat := c.events.countP isFailedStep

/-- What a pass has asked for, and may still ask for, is within bounds. -/
structure Accounted (limit queries steps faults iteration : Nat) (c : Scene) : Prop where
  phase : InPhase limit c.failed c.state.phase
  queries : c.events.countP isQuery + queriesLeft limit c.pending c.state.phase ≤ queries
  steps : c.events.countP isStep + stepsLeft limit c.pending c.state.phase ≤ steps
  failures : c.failed + c.pending ≤ faults
  iteration : c.state.iteration = iteration
  going : c.result = none

/-- A stressor has left a pass, and what the pass has asked for was within bounds. -/
structure Left (queries steps faults iteration : Nat) (c : Scene) : Prop where
  place : c.state.phase = .done ∨ c.state.phase = .between ∧ c.state.iteration = iteration + 1
  queries : c.events.countP isQuery ≤ queries
  steps : c.events.countP isStep ≤ steps
  failures : c.failed ≤ faults
  going : c.result = none

/-! ### The answers of the store -/

section

variable (s : InMemory)

theorem hasNext_cases (cursor : InMemory.Cursor) :
    ((∃ error, (s.hasNext cursor).1 = .error error) ∨ (s.hasNext cursor).1 = .ok !cursor.isEmpty) ∧
      (s.hasNext cursor).2.faults.next = s.faults.next := by
  by_cases unarmed : s.faults.hasNext = 0
  · rw [InMemory.hasNext, InMemory.unlessFault_of_unarmed .hasNext unarmed]
    exact ⟨.inr rfl, rfl⟩
  · rw [InMemory.hasNext, InMemory.unlessFault_of_armed .hasNext unarmed]
    exact ⟨.inl ⟨_, rfl⟩, rfl⟩

theorem next_cases (e : Entry) (rest : InMemory.Cursor) :
    s.next (e :: rest) = (.ok (e, rest), s) ∨
      ∃ error, s.next (e :: rest) = (.error error, s.arm .next (s.faults.next - 1)) ∧
        (s.faults.next - 1).toNat + 1 = s.faults.next.toNat := by
  by_cases unarmed : s.faults.next = 0
  · rw [InMemory.next, InMemory.unlessFault_of_unarmed .next unarmed]
    exact .inl rfl
  · rw [InMemory.next, InMemory.unlessFault_of_armed .next unarmed]
    exact .inr ⟨_, rfl, InMemory.toNat_faults_sub_one .next unarmed⟩

end

/-! ### One turn -/

section

variable {settings : IterateSettings} {seat : Seat} {limit queries steps faults iteration : Nat}
  {c : Scene} {spell : Spell}

/-- The store as a stressor finds it. -/
abbrev Scene.found (c : Scene) (spell : Spell) : InMemory := c.store.after spell.others

theorem advance_of_call {ask : Ask InMemory.Cursor (State InMemory.Cursor)}
    (going : c.result = none)
    (turn : c.state.turn settings seat spell.asked spell.stopping = .call ask) :
    c.advance settings seat spell =
      { store := ((c.found spell).serve ask.call).2
        state := (ask.answer (c.found spell) spell.answered).1
        events := ⟨ask.call, ((c.found spell).serve ask.call).1⟩ :: c.events } := by
  rw [← ask.answer_snd _ spell.answered, Scene.advance, going, turn]
  rfl

/-- Closing the cursor ends a pass. -/
theorem place_onClosed (s : State InMemory.Cursor) (pass : Pass InMemory.Cursor)
    (outcome : PassEnd) (r : Except StoreError Unit) (now : Instant) :
    (s.onClosed seat pass outcome r now).phase = .done ∨
      (s.onClosed seat pass outcome r now).phase = .between ∧
        (s.onClosed seat pass outcome r now).iteration = s.iteration + 1 := by
  have ended (outcome : PassEnd) : (s.endPass seat pass now outcome).phase = .done ∨
      (s.endPass seat pass now outcome).phase = .between ∧
        (s.endPass seat pass now outcome).iteration = s.iteration + 1 := by
    cases outcome with
    | completed | failed => exact .inr ⟨rfl, rfl⟩
    | stopped => exact .inl rfl
  cases r <;> exact ended _

theorem Accounted.close (accounted : Accounted limit queries steps faults iteration c)
    {pass : Pass InMemory.Cursor} {outcome : PassEnd}
    (turn : c.state.turn settings seat spell.asked spell.stopping =
      c.state.close seat pass outcome) :
    Left queries steps faults iteration (c.advance settings seat spell) := by
  rw [advance_of_call accounted.going turn]
  exact {
    place := accounted.iteration ▸ place_onClosed ..
    queries := (Nat.le_add_right ..).trans accounted.queries
    steps := (Nat.le_add_right ..).trans accounted.steps
    failures := (Nat.le_add_right ..).trans accounted.failures
    going := rfl }

theorem failuresLeft_mono {faults' : Nat} (limit : Nat) (fewer : faults' ≤ faults)
    (pass : Pass InMemory.Cursor) :
    failuresLeft limit faults' pass ≤ failuresLeft limit faults pass :=
  min_le_min_right _ fewer

/-- A pass goes on, with fewer turns left. -/
structure Accounted.GoesOn (limit queries steps faults iteration : Nat) (c c' : Scene) : Prop where
  accounted : Accounted limit queries steps faults iteration c'
  fewer : turnsLeft limit c'.pending c'.state.phase < turnsLeft limit c.pending c.state.phase

/-- A pass goes on when a cursor was asked whether it has more. -/
theorem Accounted.queried (accounted : Accounted limit queries steps faults iteration c)
    {cursor : InMemory.Cursor} {answer : InMemory.Answer} {store : InMemory}
    {state : State InMemory.Cursor} (fewer : store.faults.next.toNat ≤ c.pending)
    (same : state.iteration = c.state.iteration) (phase : Phase InMemory.Cursor)
    (now : state.phase = phase) (inPhase : InPhase limit c.failed phase)
    (fewQueries : queriesLeft limit store.faults.next.toNat phase <
      queriesLeft limit c.pending c.state.phase)
    (fewSteps : stepsLeft limit store.faults.next.toNat phase ≤
      stepsLeft limit c.pending c.state.phase)
    (fewTurns : turnsLeft limit store.faults.next.toNat phase <
      turnsLeft limit c.pending c.state.phase) :
    Accounted.GoesOn limit queries steps faults iteration c
      ⟨store, state, ⟨.hasNext cursor, answer⟩ :: c.events, none⟩ := by
  subst now
  have failed : List.countP isFailedStep (⟨.hasNext cursor, answer⟩ :: c.events) = c.failed :=
    List.countP_cons_of_neg Bool.false_ne_true
  refine ⟨⟨failed.symm ▸ inPhase, ?_, ?_, ?_, same.trans accounted.iteration, rfl⟩, fewTurns⟩
  · rw [List.countP_cons_of_pos rfl]
    have within := accounted.queries
    simp only [Scene.pending]
    omega
  · rw [List.countP_cons_of_neg Bool.false_ne_true]
    exact (Nat.add_le_add_left fewSteps _).trans accounted.steps
  · rw [Scene.failed, failed]
    exact (Nat.add_le_add_left fewer _).trans accounted.failures

/-- A cursor is asked whether it has more. -/
theorem Accounted.query (accounted : Accounted limit queries steps faults iteration c)
    (quiet : spell.Quiet) {pass : Pass InMemory.Cursor} (phase : c.state.phase = .asking pass)
    (turn : c.state.turn settings seat spell.asked spell.stopping =
      .call (.hasNext pass.cursor (c.state.onMore pass spell.asked))) :
    Accounted.GoesOn limit queries steps faults iteration c (c.advance settings seat spell) := by
  rw [advance_of_call accounted.going turn]
  obtain ⟨answered, same⟩ := hasNext_cases (c.found spell) pass.cursor
  have fewer : ((c.found spell).hasNext pass.cursor).2.faults.next.toNat ≤ c.pending := by
    rw [same]
    exact c.store.faults_after_le .next quiet
  have inPhase := phase ▸ accounted.phase
  cases inPhase with
  | asking counted allowed =>
    simp only [Ask.answer, Store.hasNext, Ask.call, InMemory.serve, Prod.map_snd, id]
    generalize (c.found spell).hasNext pass.cursor = reply at answered fewer
    obtain ⟨r, store⟩ := reply
    dsimp only at answered fewer
    have left := failuresLeft_mono limit fewer pass
    rcases answered with ⟨error, rfl⟩ | rfl
    · refine accounted.queried fewer rfl (.closing pass _) rfl (.closing counted) ?_ ?_ ?_ <;>
        simp only [phase, queriesLeft, stepsLeft, turnsLeft] <;> omega
    · cases rest : pass.cursor with
      | nil =>
        refine accounted.queried fewer rfl (.closing pass _) rfl (.closing counted) ?_ ?_ ?_ <;>
          simp only [phase, queriesLeft, stepsLeft, turnsLeft] <;> omega
      | cons e rest' =>
        have there : pass.cursor ≠ [] := rest ▸ List.cons_ne_nil e rest'
        refine accounted.queried fewer rfl (.stepping pass) rfl (.stepping counted allowed there)
          ?_ ?_ ?_ <;>
          simp only [phase, queriesLeft, stepsLeft, turnsLeft] <;> omega

/-- A pass goes on when a cursor was asked for the next entry. -/
theorem Accounted.stepped (accounted : Accounted limit queries steps faults iteration c)
    {event : InMemory.Event} {store : InMemory} {state : State InMemory.Cursor}
    (step : isStep event) (query : ¬ isQuery event)
    (failures : (event :: c.events).countP isFailedStep + store.faults.next.toNat ≤
      c.failed + c.pending)
    (same : state.iteration = c.state.iteration) (phase : Phase InMemory.Cursor)
    (now : state.phase = phase)
    (inPhase : InPhase limit ((event :: c.events).countP isFailedStep) phase)
    (fewQueries : queriesLeft limit store.faults.next.toNat phase ≤
      queriesLeft limit c.pending c.state.phase)
    (fewSteps : stepsLeft limit store.faults.next.toNat phase <
      stepsLeft limit c.pending c.state.phase)
    (fewTurns : turnsLeft limit store.faults.next.toNat phase <
      turnsLeft limit c.pending c.state.phase) :
    Accounted.GoesOn limit queries steps faults iteration c
      ⟨store, state, event :: c.events, none⟩ := by
  subst now
  refine ⟨⟨inPhase, ?_, ?_, ?_, same.trans accounted.iteration, rfl⟩, fewTurns⟩
  · rw [List.countP_cons_of_neg query]
    exact (Nat.add_le_add_left fewQueries _).trans accounted.queries
  · rw [List.countP_cons_of_pos step]
    have within := accounted.steps
    simp only [Scene.pending]
    omega
  · exact failures.trans accounted.failures

section

variable (accounted : Accounted settings.maxNextFailures.toNat queries steps faults iteration c)
  {pass : Pass InMemory.Cursor} (phase : c.state.phase = .stepping pass)
  {e : Entry} {rest : InMemory.Cursor} (cursor : pass.cursor = e :: rest) {store : InMemory}
  (asked now : Instant)

include accounted phase cursor

/-- A cursor gives the next entry. -/
theorem Accounted.given (fewer : store.faults.next.toNat ≤ c.pending) :
    Accounted.GoesOn settings.maxNextFailures.toNat queries steps faults iteration c
      ⟨store, c.state.onStep settings pass asked (.ok (e, rest)) now,
        ⟨.next (e :: rest), .entry (.ok (e, rest))⟩ :: c.events, none⟩ := by
  have kept : List.countP isFailedStep
      (⟨.next (e :: rest), .entry (.ok (e, rest))⟩ :: c.events) = c.failed :=
    List.countP_cons_of_neg Bool.false_ne_true
  have inPhase := phase ▸ accounted.phase
  cases inPhase with
  | stepping counted allowed =>
    refine accounted.stepped rfl Bool.false_ne_true (kept.symm ▸ Nat.add_le_add_left fewer _) rfl
      (.asking { pass with cursor := rest, elements := pass.elements + 1 }) rfl
      (.asking (kept.symm ▸ counted) (kept.symm ▸ allowed)) ?_ ?_ ?_ <;>
      simp only [phase, cursor, List.length_cons, queriesLeft, stepsLeft, turnsLeft,
        failuresLeft] <;>
      omega

/-- A cursor fails to give the next entry, which takes one of the faults that are pending. -/
theorem Accounted.denied (small : faults < 2 ^ 32) (taken : store.faults.next.toNat + 1 ≤ c.pending)
    (error : StoreError) :
    Accounted.GoesOn settings.maxNextFailures.toNat queries steps faults iteration c
      ⟨store, c.state.onStep settings pass asked (.error error) now,
        ⟨.next (e :: rest), .entry (.error error)⟩ :: c.events, none⟩ := by
  have bounded := accounted.failures
  have more : List.countP isFailedStep
      (⟨.next (e :: rest), .entry (.error error)⟩ :: c.events) = c.failed + 1 :=
    List.countP_cons_of_pos rfl
  have room : c.failed + 1 + store.faults.next.toNat ≤ c.failed + c.pending := by omega
  have inPhase := phase ▸ accounted.phase
  cases inPhase with
  | stepping counted =>
    have one : (pass.nextFailures + 1).toNat = c.failed + 1 := by
      rw [UInt32.toNat_add, counted, UInt32.toNat_one, Nat.mod_eq_of_lt (by omega)]
    rw [State.onStep]
    dsimp only
    by_cases many : settings.maxNextFailures < pass.nextFailures + 1
    · rw [if_pos many]
      refine accounted.stepped rfl Bool.false_ne_true (more.symm ▸ room) rfl (.closing _ _) rfl
        (.closing (one.trans more.symm)) ?_ ?_ ?_ <;>
        simp only [phase, cursor, List.length_cons, queriesLeft, stepsLeft, turnsLeft] <;> omega
    · have allowed : c.failed + 1 ≤ settings.maxNextFailures.toNat := one ▸ UInt32.not_lt.1 many
      rw [if_neg many]
      refine accounted.stepped rfl Bool.false_ne_true (more.symm ▸ room) rfl (.asking _) rfl
        (.asking (one.trans more.symm) (more.symm ▸ allowed)) ?_ ?_ ?_ <;>
        simp only [phase, cursor, List.length_cons, queriesLeft, stepsLeft, turnsLeft,
          failuresLeft, one, counted] <;>
        omega

end

/-- A cursor is asked for the next entry. -/
theorem Accounted.step
    (accounted : Accounted settings.maxNextFailures.toNat queries steps faults iteration c)
    (small : faults < 2 ^ 32) (quiet : spell.Quiet) {pass : Pass InMemory.Cursor}
    (phase : c.state.phase = .stepping pass)
    (turn : c.state.turn settings seat spell.asked spell.stopping =
      .call (.next pass.cursor (c.state.onStep settings pass spell.asked))) :
    Accounted.GoesOn settings.maxNextFailures.toNat queries steps faults iteration c
      (c.advance settings seat spell) := by
  rw [advance_of_call accounted.going turn]
  have fewer : (c.found spell).faults.next.toNat ≤ c.pending :=
    c.store.faults_after_le .next quiet
  have inPhase := phase ▸ accounted.phase
  cases inPhase with
  | stepping _ _ there =>
    obtain ⟨e, rest, cursor⟩ := List.exists_cons_of_ne_nil there
    simp only [Ask.answer, Store.next, Ask.call, InMemory.serve, Prod.map_snd, id]
    rcases next_cases (c.found spell) e rest with given | ⟨error, failed, taken⟩
    · rw [cursor, given]
      exact accounted.given phase cursor _ _ fewer
    · rw [cursor, failed]
      exact accounted.denied phase cursor _ _ small (taken.trans_le fewer) error

/-- **A turn in a pass** keeps to what the pass may ask for. It goes on, or the pass ends. -/
theorem Accounted.advance (seat : Seat)
    (accounted : Accounted settings.maxNextFailures.toNat queries steps faults iteration c)
    (small : faults < 2 ^ 32) (quiet : spell.Quiet) :
    Accounted.GoesOn settings.maxNextFailures.toNat queries steps faults iteration c
        (c.advance settings seat spell) ∨
      Left queries steps faults iteration (c.advance settings seat spell) := by
  cases phase : c.state.phase with
  | asking pass =>
    cases stopping : spell.stopping with
    | true => exact .inr (accounted.close (by rw [State.turn, phase, stopping]; rfl))
    | false => exact .inl (accounted.query quiet phase (by rw [State.turn, phase, stopping]; rfl))
  | stepping pass => exact .inl (accounted.step small quiet phase (by rw [State.turn, phase]))
  | closing pass outcome => exact .inr (accounted.close (by rw [State.turn, phase]))
  | between | done =>
    have inPhase := phase ▸ accounted.phase
    cases inPhase

/-! ### A whole pass -/

/-- **A pass ends**, and all the way it keeps to what it may ask for. -/
theorem Accounted.ends (seat : Seat) {spells : Nat → Spell} (quiet : ∀ n, (spells n).Quiet)
    (small : faults < 2 ^ 32)
    (accounted : Accounted settings.maxNextFailures.toNat queries steps faults iteration c) :
    ∃ n, (∀ k < n, Accounted settings.maxNextFailures.toNat queries steps faults iteration
        (c.run settings seat spells k)) ∧
      Left queries steps faults iteration (c.run settings seat spells n) := by
  -- by induction on the turns that the pass may still take
  induction left : turnsLeft settings.maxNextFailures.toNat c.pending c.state.phase
    using Nat.strong_induction_on generalizing c spells with
  | h turns ih =>
    subst left
    rcases accounted.advance seat small (quiet 0) with goesOn | ended
    · obtain ⟨n, within, ended⟩ := ih _ goesOn.fewer (fun k => quiet (k + 1)) goesOn.accounted rfl
      refine ⟨n + 1, fun k below => ?_, ended⟩
      cases k with
      | zero => exact accounted
      | succ k => exact within k (Nat.lt_of_succ_lt_succ below)
    · refine ⟨1, fun k below => ?_, ended⟩
      rw [Nat.lt_one_iff.1 below]
      exact accounted

theorem InPhase.isSome {failed : Nat} {phase : Phase InMemory.Cursor}
    (inPhase : InPhase limit failed phase) : phase.pass?.isSome := by
  cases inPhase <;> rfl

/-- The counter of a pass is the number of steps that failed. -/
theorem InPhase.nextFailures {failed : Nat} {phase : Phase InMemory.Cursor}
    {pass : Pass InMemory.Cursor} (inPhase : InPhase limit failed phase)
    (here : phase.pass? = some pass) : pass.nextFailures.toNat = failed := by
  cases inPhase <;> cases here <;> assumption

theorem Left.not_inPass (ended : Left queries steps faults iteration c) : ¬ c.InPass := by
  rw [Scene.InPass]
  rcases ended.place with phase | ⟨phase, -⟩
  · rw [phase]
    exact Bool.false_ne_true
  · rw [phase]
    exact Bool.false_ne_true

/-- How a pass over so many entries begins. -/
theorem accounted_opened (s : InMemory) (state : State InMemory.Cursor) (seat : Seat)
    (asked now : Instant) (found : InMemory.Cursor) :
    Accounted limit (found.length + min s.faults.next.toNat (limit + 1) + 1)
      (found.length + min s.faults.next.toNat (limit + 1)) s.faults.next.toNat state.iteration
      { store := s, state := state.onOpened seat asked (.ok found) now } where
  phase := .asking rfl (Nat.zero_le limit)
  queries := Nat.le_of_eq (Nat.zero_add _)
  steps := Nat.le_of_eq (Nat.zero_add _)
  failures := Nat.le_of_eq (Nat.zero_add _)
  iteration := rfl
  going := rfl

end

/-! ### All passes -/

/-- A stressor finishes after some turns. -/
def Scene.Finishes (settings : IterateSettings) (seat : Seat) (spells : Nat → Spell) (c : Scene) :
    Prop :=
  ∃ n, (c.run settings seat spells n).result.isSome

namespace Scene

variable {settings : IterateSettings} {seat : Seat} {spells : Nat → Spell} {c : Scene}

theorem run_add (settings : IterateSettings) (seat : Seat) (spells : Nat → Spell) (c : Scene)
    (n m : Nat) :
    c.run settings seat spells (n + m) =
      (c.run settings seat spells n).run settings seat (fun k => spells (n + k)) m := by
  induction n generalizing c spells with
  | zero => simp only [Nat.zero_add, run]
  | succ n ih => simp only [Nat.succ_add, run, ih]

/-- What a stressor was answered before makes no difference to a run. -/
theorem run_forget (settings : IterateSettings) (seat : Seat) (spells : Nat → Spell) (c : Scene)
    (events : List InMemory.Event) (n : Nat) :
    ∃ events', ({ c with events } : Scene).run settings seat spells n =
      { c.run settings seat spells n with events := events' } := by
  induction n generalizing c events spells with
  | zero => exact ⟨events, rfl⟩
  | succ n ih =>
    have one : ∃ events', ({ c with events } : Scene).advance settings seat (spells 0) =
        { c.advance settings seat (spells 0) with events := events' } := by
      rw [advance, advance]
      by_cases spent : c.result.isSome
      · exact ⟨events, by rw [if_pos spent, if_pos spent]⟩
      · rw [if_neg spent, if_neg spent]
        dsimp only
        cases c.state.turn settings seat (spells 0).asked (spells 0).stopping <;> exact ⟨_, rfl⟩
    obtain ⟨events', same⟩ := one
    rw [run, same]
    exact ih _ _ events'

theorem Finishes.of_run {n : Nat}
    (finishes : (c.run settings seat spells n).Finishes settings seat fun k => spells (n + k)) :
    c.Finishes settings seat spells := by
  obtain ⟨m, finished⟩ := finishes
  exact ⟨n + m, (c.run_add settings seat spells n m).symm ▸ finished⟩

theorem Finishes.of_advance
    (finishes : (c.advance settings seat (spells 0)).Finishes settings seat
      fun k => spells (k + 1)) : c.Finishes settings seat spells := by
  obtain ⟨m, finished⟩ := finishes
  exact ⟨m + 1, finished⟩

theorem Finishes.of_forget (events : List InMemory.Event)
    (finishes : ({ c with events } : Scene).Finishes settings seat spells) :
    c.Finishes settings seat spells := by
  obtain ⟨n, finished⟩ := finishes
  obtain ⟨_, same⟩ := c.run_forget settings seat spells events n
  rw [same] at finished
  exact ⟨n, finished⟩

theorem finishes_of_done (going : c.result = none) (phase : c.state.phase = .done) :
    c.Finishes settings seat spells := by
  refine ⟨1, ?_⟩
  simp only [run, advance, going, State.turn, phase]
  rfl

/-- **A stressor between two passes finishes.** -/
theorem finishes_of_between (quiet : ∀ n, (spells n).Quiet) (going : c.result = none)
    (phase : c.state.phase = .between) : c.Finishes settings seat spells := by
  -- by induction on the passes that are left
  induction left : settings.numLoops.toNat - c.state.iteration
    using Nat.strong_induction_on generalizing c spells with
  | h passes ih =>
    subst left
    by_cases spent : (spells 0).stopping || settings.numLoops.toNat ≤ c.state.iteration
    · refine ⟨1, ?_⟩
      simp only [run, advance, going, State.turn, phase, if_pos spent]
      rfl
    have few : c.state.iteration < settings.numLoops.toNat := by
      simp only [Bool.or_eq_true, decide_eq_true_eq, not_or, not_le] at spent
      exact spent.2
    have turn : c.state.turn settings seat (spells 0).asked (spells 0).stopping =
        .call (.iterate settings.container settings.filter settings.converter
          (c.state.onOpened seat (spells 0).asked)) := by
      rw [State.turn, phase]
      exact if_neg spent
    -- the events of earlier passes do not count for the next one
    refine .of_advance (.of_forget [] ?_)
    rw [advance_of_call going turn]
    simp only [Ask.answer, Store.iterate]
    cases ((c.found (spells 0)).iterate settings.container settings.filter
      settings.converter).1 with
    | error e => exact finishes_of_done rfl rfl
    | ok found =>
      obtain ⟨n, -, ended⟩ := (accounted_opened _ c.state seat (spells 0).asked
        (spells 0).answered found).ends seat (fun k => quiet (k + 1)) (UInt32.toNat_lt _)
      refine .of_run (n := n) ?_
      rcases ended.place with phase | ⟨phase, next⟩
      · exact finishes_of_done ended.going phase
      · refine ih _ ?_ (fun k => quiet (n + k + 1)) ended.going phase rfl
        rw [next]
        omega

end Scene

/-- The pass of a stressor ends after so many queries and steps at most, and its counter of failures
does not go round. -/
structure Scene.EndsWithin (settings : IterateSettings) (seat : Seat) (spells : Nat → Spell)
    (c : Scene) (queries steps n : Nat) : Prop where
  inPass : ∀ k < n, (c.run settings seat spells k).InPass
  ended : ¬ (c.run settings seat spells n).InPass
  queries : (c.run settings seat spells n).events.countP isQuery ≤ queries
  steps : (c.run settings seat spells n).events.countP isStep ≤ steps
  counted : ∀ k < n, ∀ pass, (c.run settings seat spells k).state.phase.pass? = some pass →
    pass.nextFailures.toNat = (c.run settings seat spells k).failed
  fewFailures : (c.run settings seat spells n).failed < 2 ^ 32

theorem length_snapshot (m : Container) (start : String) (keys : Bool) :
    (InMemory.snapshot m start.toList keys).length = m.countStarting start := by
  rw [InMemory.snapshot, List.length_map, Container.countStarting, List.countP_eq_length_filter]

/-- **A pass ends**, whatever others do in between as long as they arm no faults for steps. Beyond
the entries it takes no more steps than there are faults, and no more than may fail. So a stressor
finishes, however many passes it is to make. -/
theorem pass_ends {settings : IterateSettings} (seat : Seat) {spells : Nat → Spell}
    (quiet : ∀ n, (spells n).Quiet) {s : InMemory} {m : Container} {start : String} {keys : Bool}
    (asks : Asks settings.filter start) (converts : Converts settings.converter keys)
    (known : s.containers.find? (containerName settings.container) = some m)
    (unarmed : s.faults.iterate = 0) (state : State InMemory.Cursor) (asked now : Instant) :
    (∃ found, s.iterate settings.container settings.filter settings.converter = (.ok found, s) ∧
      let failures := min s.faults.next.toNat (settings.maxNextFailures.toNat + 1)
      let entries := m.countStarting start
      ∃ n, ({ store := s, state := state.onOpened seat asked (.ok found) now } : Scene).EndsWithin
        settings seat spells (entries + failures + 1) (entries + failures) n) ∧
    ∀ (store : InMemory) (begun : Instant),
      ({ store, state := Iterate.start settings seat begun } : Scene).Finishes settings seat
        spells := by
  constructor
  · refine ⟨InMemory.snapshot m start.toList keys, ?_, ?_⟩
    · rw [InMemory.iterate, InMemory.unlessFault_of_unarmed .iterate unarmed,
        InMemory.cursor?_of_known asks converts known]
    · obtain ⟨n, within, ended⟩ := (accounted_opened s state seat asked now
        (InMemory.snapshot m start.toList keys)).ends seat quiet (UInt32.toNat_lt _)
      rw [length_snapshot] at within ended
      exact ⟨n, {
        inPass := fun k below => (within k below).phase.isSome
        ended := ended.not_inPass
        queries := ended.queries
        steps := ended.steps
        counted := fun k below pass here => (within k below).phase.nextFailures here
        fewFailures := ended.failures.trans_lt (UInt32.toNat_lt _) }⟩
  · intro store begun
    exact Scene.finishes_of_between quiet rfl rfl

/-- Three faults are pending for steps, of which a pass survives one, while others read and take
faults. -/
theorem pass_ends_among_readers :
    let settings : IterateSettings := { filter := some "prefix:key", maxNextFailures := 1 }
    let seat : Seat := ⟨0, WallTime.ofNanos 0⟩
    let spells (n : Nat) : Spell :=
      ⟨[.invoke none (.get "key7"), .next []], 2 * n, false, 2 * n + 1⟩
    let m : Container := (OrderedMap.empty.insert "key7" #[7]).insert "other" #[1, 2]
    let s : InMemory := ⟨OrderedMap.empty.insert "default" m, { next := 3 }, true⟩
    (∀ n, (spells n).Quiet) ∧
    (∃ found, s.iterate none (some "prefix:key") none = (.ok found, s) ∧
      ∃ n, ({ store := s, state := (start settings seat 0).onOpened seat 0 (.ok found) 1 } :
        Scene).EndsWithin settings seat spells 4 3 n) ∧
    ({ store := s, state := start settings seat 0 } : Scene).Finishes settings seat spells := by
  intro settings seat spells m s
  have quiet (n : Nat) : (spells n).Quiet := by simp [spells, Spell.Quiet]
  have known : s.containers.find? (containerName settings.container) = some m :=
    OrderedMap.find?_insert_self ..
  have asks : Asks settings.filter "key" := .inr rfl
  have entries : m.countStarting "key" = 1 := by decide
  obtain ⟨pass, finishes⟩ := pass_ends seat quiet asks (.inl ⟨.inl rfl, rfl⟩) known rfl
    (start settings seat 0) 0 1
  rw [entries] at pass
  exact ⟨quiet, pass, finishes s 0⟩

end LoadFleet.Iterate
