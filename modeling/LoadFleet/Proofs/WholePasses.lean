import LoadFleet.Proofs.MergeOrder
import LoadFleet.Proofs.Rounds
import LoadFleet.Store.Simulated
import LoadFleet.Stressor.Iterate
/-!
# Passing over a store without faults

A stressor of an iteration that is not asked to stop passes over the entries of a store without
faults as often as it is told to. Every call is answered and leaves the store as it is, so it can be
told ahead what each call of the stressor is, and how many are still to come.

* `Statistics.Tally`: statistics hold a list of requests that all succeeded.
* `Simulated.Offers`: a store without faults, and the entries that its cursors pass over.
* `Iterate.OnTrack`: where a stressor is in its passes, and the number of calls before it ends.
* `Iterate.OnTrack.turn`: a turn of such a stressor is the next call, or its result after the last
  one.
-/

namespace LoadFleet

/-! ### Requests that all succeeded -/

namespace Statistics

/-- Statistics hold a list of requests, each by the name of its operation. All of them
succeeded. -/
structure Tally (kind : StatsKind) (log : List String) (s : RunStatistics) : Prop where
  uniform : s.Uniform
  like : s.kind = kind
  known : ∀ name, (s.operation? name).isSome ↔ name ∈ log
  requests : ∀ name, s.requestsOf name = (log.count name).toUInt64
  errors : ∀ name, s.errorsOf name = 0

namespace Tally

variable {kind : StatsKind} {log : List String} {s : RunStatistics}

theorem begin (seat : Seat) (now : Instant) : Tally kind [] (seat.begin kind now) where
  uniform := uniform_empty kind
  like := rfl
  known name := by simp [Seat.begin, Statistics.empty, operation?, OrderedMap.find?_empty]
  requests name := rfl
  errors name := rfl

theorem finish (h : Tally kind log s) (seat : Seat) (now : Instant) :
    Tally kind log (seat.finish s now) :=
  ⟨h.uniform, h.like, h.known, h.requests, h.errors⟩

theorem record (h : Tally kind log s) (operation : String) (latency : Span) :
    Tally kind (log ++ [operation]) (s.record operation latency true) where
  uniform := uniform_record h.uniform operation latency true
  like := h.like
  known name := by
    rw [operation?_record, List.mem_append, ← h.known, List.mem_singleton]
    by_cases here : name = operation <;> simp [here]
  requests name := by
    rw [requestsOf_record, h.requests, List.count_append, List.count_singleton]
    by_cases here : name = operation
    · simp [here]
    · simp [here, Ne.symm here]
  errors name := by
    rw [errorsOf_record, h.errors]
    simp

end Tally

end Statistics

/-! ### Stores without faults -/

/-- A store with good manners and without faults, whose cursors pass over these entries when an
iteration opens them. -/
structure Simulated.Offers (store : Simulated) (settings : IterateSettings)
    (found : InMemory.Cursor) : Prop where
  mannered : store.manners = {}
  faultless : store.memory.faults = {}
  cursor : store.memory.cursor? settings.container settings.filter settings.converter = .ok found

namespace InMemory

/-- A call succeeds while no faults are armed. -/
theorem unlessFault_of_faultless {α : Type} {s : InMemory} (faultless : s.faults = {})
    (kind : FaultKind) (reason : String) (go : Except StoreError α × InMemory) :
    s.unlessFault kind reason go = go := by
  have none : s.faults.take? kind = none := by
    rw [faultless]
    cases kind <;> rfl
  rw [unlessFault, none]

end InMemory

namespace Simulated.Offers

variable {store : Simulated} {settings : IterateSettings} {found : InMemory.Cursor}
  (offers : store.Offers settings found)

include offers

theorem iterate : store.iterate settings.container settings.filter settings.converter =
    (.ok (.stored found), store) := by
  have script : store.manners.script = none := by
    rw [offers.mannered]
  rw [Simulated.iterate, InMemory.iterate, InMemory.unlessFault_of_faultless offers.faultless,
    offers.cursor]
  simp only [withMemory, script]

theorem hasNext (rest : InMemory.Cursor) :
    store.hasNext (.stored rest) = (.ok !rest.isEmpty, store) := by
  rw [Simulated.hasNext, InMemory.hasNext, InMemory.unlessFault_of_faultless offers.faultless,
    withMemory]

theorem next (e : Entry) (rest : InMemory.Cursor) :
    store.next (.stored (e :: rest)) = (.ok (e, .stored rest), store) := by
  rw [Simulated.next, InMemory.next, InMemory.unlessFault_of_faultless offers.faultless, withMemory]
  rfl

theorem close (rest : InMemory.Cursor) : store.close (.stored rest) = (.ok (), store) := by
  rw [Simulated.close, InMemory.close, InMemory.unlessFault_of_faultless offers.faultless,
    withMemory]

end Simulated.Offers

theorem ElementRange.join_self (r : ElementRange) : r.join r = r := by
  obtain ⟨least, greatest⟩ := r
  exact congrArg₂ mk (ite_self _) (ite_self _)

/-! ### What a stressor requests -/

namespace Iterate

/-- The requests for the first entries of a pass. -/
def stepLog (entries : Nat) : List String := (List.replicate entries [hasNext, next]).flatten

theorem stepLog_succ (entries : Nat) :
    stepLog (entries + 1) = stepLog entries ++ [hasNext, next] := by
  rw [stepLog, List.replicate_succ', List.flatten_append, List.flatten_singleton, stepLog]

/-- The requests of a pass over some entries. -/
def passLog (entries : Nat) : List String :=
  getIterator :: stepLog entries ++ [hasNext, fullLoop]

/-- The requests of a number of passes. -/
def wholeLog (entries passes : Nat) : List String :=
  (List.replicate passes (passLog entries)).flatten

theorem wholeLog_succ (entries passes : Nat) :
    wholeLog entries (passes + 1) = wholeLog entries passes ++ passLog entries := by
  rw [wholeLog, List.replicate_succ', List.flatten_append, List.flatten_singleton, wholeLog]

/-! ### Where a stressor is -/

/-- The phase of a stressor in a pass over entries, with the requests of that pass so far and the
number of calls that it still takes. -/
inductive InPass (found : InMemory.Cursor) : Phase Simulated.Cursor → List String → Nat → Prop where
  | asking {pass : Pass Simulated.Cursor} (gone rest : InMemory.Cursor)
    (split : found = gone ++ rest) (cursor : pass.cursor = .stored rest)
    (elements : pass.elements = gone.length.toUInt64) :
    InPass found (.asking pass) (getIterator :: stepLog gone.length) (2 * rest.length + 2)
  | stepping {pass : Pass Simulated.Cursor} (gone : InMemory.Cursor) (e : Entry)
    (rest : InMemory.Cursor) (split : found = gone ++ e :: rest)
    (cursor : pass.cursor = .stored (e :: rest))
    (elements : pass.elements = gone.length.toUInt64) :
    InPass found (.stepping pass) (getIterator :: stepLog gone.length ++ [hasNext])
      (2 * rest.length + 3)
  | closing {pass : Pass Simulated.Cursor} (cursor : pass.cursor = .stored []) :
    InPass found (.closing pass (.completed found.length.toUInt64))
      (getIterator :: stepLog found.length ++ [hasNext]) 1

/-- The range of a stressor after a number of passes that found the same number of entries. -/
def rangeAfter (entries passes : Nat) : Option ElementRange :=
  if passes = 0 then none else some ⟨entries.toUInt64, entries.toUInt64⟩

/-- The number of calls of a pass over some entries. -/
def passCalls (entries : Nat) : Nat := 2 * entries + 3

/-- A stressor is in its passes over entries, of which none failed, and a number of calls is left
before it ends. -/
inductive OnTrack (settings : IterateSettings) (found : InMemory.Cursor) :
    State Simulated.Cursor → Nat → Prop where
  | between {s : State Simulated.Cursor} {more : Nat} (phase : s.phase = .between)
    (passes : s.iteration + more = settings.numLoops.toNat)
    (unfailed : s.failure = none) (range : s.range = rangeAfter found.length s.iteration)
    (tally : s.stats.Tally settings.test.stats (wholeLog found.length s.iteration)) :
    OnTrack settings found s (more * passCalls found.length)
  | within {s : State Simulated.Cursor} {more calls : Nat} {log : List String}
    (pass : InPass found s.phase log calls)
    (passes : s.iteration + 1 + more = settings.numLoops.toNat)
    (unfailed : s.failure = none) (range : s.range = rangeAfter found.length s.iteration)
    (tally : s.stats.Tally settings.test.stats (wholeLog found.length s.iteration ++ log)) :
    OnTrack settings found s (calls + more * passCalls found.length)

/-- The result of a stressor that made all of its passes over some entries. -/
structure Finds (settings : IterateSettings) (entries : Nat) (r : IterationResult) : Prop where
  unfailed : r.failure = none
  least : r.minElements = some entries.toUInt64
  greatest : r.maxElements = some entries.toUInt64
  tally : r.stats.Tally settings.test.stats (wholeLog entries settings.numLoops.toNat)

/-- Whenever a call is answered by a store, the store stays as it is, and the stressor goes on with
a number of calls left. -/
def Awaits (settings : IterateSettings) (found : InMemory.Cursor) (store : Simulated)
    (ask : Ask Simulated.Cursor (State Simulated.Cursor)) (left : Nat) : Prop :=
  ∀ now, ∃ s, ask.answer store now = (s, store) ∧ OnTrack settings found s left

section

variable {settings : IterateSettings} {found : InMemory.Cursor} {store : Simulated}
  {s : State Simulated.Cursor} {left : Nat}

theorem onTrack_start (settings : IterateSettings) (found : InMemory.Cursor) (seat : Seat)
    (now : Instant) :
    OnTrack settings found (start settings seat now)
      (settings.numLoops.toNat * passCalls found.length) :=
  .between rfl (Nat.zero_add _) rfl rfl (.begin seat now)

theorem range_note (range : s.range = rangeAfter found.length s.iteration) :
    (s.note found.length.toUInt64).range = rangeAfter found.length (s.iteration + 1) := by
  rw [State.note, range, rangeAfter, rangeAfter, if_neg (Nat.succ_ne_zero _)]
  by_cases first : s.iteration = 0
  · rw [if_pos first]
    rfl
  · rw [if_neg first]
    exact congrArg some (ElementRange.join_self _)

section

variable {more : Nat} (passes : s.iteration + 1 + more = settings.numLoops.toNat)
  (unfailed : s.failure = none) (range : s.range = rangeAfter found.length s.iteration)
  (offers : store.Offers settings found) (seat : Seat) (asked : Instant)

include passes unfailed range offers

/-- A stressor opens a cursor. -/
theorem awaits_opened
    (tally : s.stats.Tally settings.test.stats (wholeLog found.length s.iteration)) :
    Awaits settings found store
      (.iterate settings.container settings.filter settings.converter (s.onOpened seat asked))
      (2 * found.length + 2 + more * passCalls found.length) := by
  intro now
  refine ⟨s.onOpened seat asked (.ok (.stored found)) now, ?_, ?_⟩
  · exact congrArg (fun e => (s.onOpened seat asked e.1 now, e.2)) offers.iterate
  · exact .within (.asking [] found rfl rfl rfl) passes unfailed range (tally.record _ _)

variable {pass : Pass Simulated.Cursor} {gone rest : InMemory.Cursor}

/-- A stressor asks for more. -/
theorem awaits_asked (split : found = gone ++ rest) (cursor : pass.cursor = .stored rest)
    (elements : pass.elements = gone.length.toUInt64)
    (tally : s.stats.Tally settings.test.stats
      (wholeLog found.length s.iteration ++ getIterator :: stepLog gone.length)) :
    Awaits settings found store (.hasNext pass.cursor (s.onMore pass asked))
      (2 * rest.length + 1 + more * passCalls found.length) := by
  intro now
  have tally := tally.record hasNext (asked.spanTo now)
  rw [List.append_assoc] at tally
  refine ⟨s.onMore pass asked (.ok !rest.isEmpty) now, ?_, ?_⟩
  · rw [cursor]
    exact congrArg (fun e => (s.onMore pass asked e.1 now, e.2)) (offers.hasNext rest)
  · cases rest with
    | nil =>
      rw [List.append_nil] at split
      subst split
      have closing : InPass found (.closing pass (.completed pass.elements))
          (getIterator :: stepLog found.length ++ [hasNext]) 1 := by
        rw [elements]
        exact .closing cursor
      exact .within closing passes unfailed range tally
    | cons e rest =>
      exact .within (.stepping gone e rest split cursor elements) passes unfailed range tally

/-- A stressor steps to an entry. -/
theorem awaits_stepped {e : Entry} (split : found = gone ++ e :: rest)
    (cursor : pass.cursor = .stored (e :: rest))
    (elements : pass.elements = gone.length.toUInt64)
    (tally : s.stats.Tally settings.test.stats
      (wholeLog found.length s.iteration ++ (getIterator :: stepLog gone.length ++ [hasNext]))) :
    Awaits settings found store (.next pass.cursor (s.onStep settings pass asked))
      (2 * rest.length + 2 + more * passCalls found.length) := by
  intro now
  have tally := tally.record next (asked.spanTo now)
  refine ⟨s.onStep settings pass asked (.ok (e, .stored rest)) now, ?_, ?_⟩
  · rw [cursor]
    exact congrArg (fun r => (s.onStep settings pass asked r.1 now, r.2)) (offers.next e rest)
  · have further : pass.elements + 1 = (gone ++ [e]).length.toUInt64 := by
      simp [elements]
    have same : wholeLog found.length s.iteration ++ (getIterator :: stepLog gone.length ++
        [hasNext]) ++ [next] =
          wholeLog found.length s.iteration ++ getIterator :: stepLog (gone ++ [e]).length := by
      simp [stepLog_succ]
    exact .within (.asking (gone ++ [e]) rest (by simp [split]) rfl further) passes unfailed range
      (same ▸ tally)

/-- A stressor closes its cursor. -/
theorem awaits_closed (cursor : pass.cursor = .stored [])
    (tally : s.stats.Tally settings.test.stats
      (wholeLog found.length s.iteration ++ (getIterator :: stepLog found.length ++ [hasNext]))) :
    Awaits settings found store
      (.close pass.cursor (s.onClosed seat pass (.completed found.length.toUInt64)))
      (more * passCalls found.length) := by
  intro now
  have tally := tally.record fullLoop (pass.started.spanTo now)
  refine ⟨s.onClosed seat pass (.completed found.length.toUInt64) (.ok ()) now, ?_, ?_⟩
  · rw [cursor]
    exact congrArg
      (fun r => (s.onClosed seat pass (.completed found.length.toUInt64) r.1 now, r.2))
      (offers.close [])
  · have same : wholeLog found.length s.iteration ++ (getIterator :: stepLog found.length ++
        [hasNext]) ++ [fullLoop] = wholeLog found.length (s.iteration + 1) := by
      simp [wholeLog_succ, passLog]
    exact .between rfl passes unfailed (range_note range) (same ▸ tally)

end

/-- **A turn on track.** A stressor with calls left makes the next one, and any other one ends with
its result. -/
theorem OnTrack.turn (track : OnTrack settings found s left) (offers : store.Offers settings found)
    (loops : 0 < settings.numLoops.toNat) (seat : Seat) (now : Instant) :
    (left = 0 ∧ ∃ r, s.turn settings seat now false = .finish r ∧ Finds settings found.length r) ∨
    ∃ ask fewer, left = fewer + 1 ∧ s.turn settings seat now false = .call ask ∧
      Awaits settings found store ask fewer := by
  cases track with
  | @between more phase passes unfailed range tally =>
    cases more with
    | zero =>
      rw [Nat.add_zero] at passes
      have all : rangeAfter found.length s.iteration =
          some ⟨found.length.toUInt64, found.length.toUInt64⟩ := by
        rw [rangeAfter, if_neg (by omega)]
      refine .inl ⟨Nat.zero_mul _, s.result seat now, ?_, ?_⟩
      · simp [State.turn, phase, passes]
      · rw [passes] at tally
        refine ⟨unfailed, ?_, ?_, tally.finish seat now⟩ <;> simp [State.result, range, all]
    | succ more =>
      refine .inr ⟨_, 2 * found.length + 2 + more * passCalls found.length, ?_, ?_,
        awaits_opened (by omega) unfailed range offers seat now tally⟩
      · rw [Nat.succ_mul, passCalls]
        omega
      · have few : ¬ settings.numLoops.toNat ≤ s.iteration := by omega
        simp [State.turn, phase, few]
  | @within more calls log pass passes unfailed range tally =>
    rw [State.turn]
    generalize s.phase = phase at pass
    cases pass with
    | asking gone rest split cursor elements =>
      exact .inr ⟨_, 2 * rest.length + 1 + more * passCalls found.length, by omega, rfl,
        awaits_asked passes unfailed range offers now split cursor elements tally⟩
    | stepping gone e rest split cursor elements =>
      exact .inr ⟨_, 2 * rest.length + 2 + more * passCalls found.length, by omega, rfl,
        awaits_stepped passes unfailed range offers now split cursor elements tally⟩
    | closing cursor =>
      exact .inr ⟨_, more * passCalls found.length, by omega, rfl,
        awaits_closed passes unfailed range offers seat cursor tally⟩

end

end Iterate

end LoadFleet
