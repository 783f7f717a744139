import LoadFleet.Proofs.GivingUp
import LoadFleet.Proofs.Polling
/-!
# What valid stages provide

A stage is looked at once, before it is sent to a worker, and the bodies of the five kinds do not
look again. `StageKind.Sound` is what they rely on, kind by kind.

* `Iterate.Sound`: there is a stressor, and each makes a pass unless it is told not to.
* `Stress.Sound`: there is a stressor, a request for it to claim, an operation to draw and a key.
* `WaitLimits.Advances`: time passes between two looks.
* `WaitLimits.poll_ends`: a wait with a time limit ends, on every clock.
* `weights?_isOk_iff`: an operation can be drawn with exactly the ratios that the check accepts.
* `Stage.sound_of_valid`: the main statement.
-/

namespace LoadFleet

/-! ### What the checks say -/

section Checks

variable {condition : Bool} {parameter reason : String} {span : Span}

@[simp] theorem requireThat_eq_ok :
    requireThat condition parameter reason = .ok () ↔ condition := by
  cases condition <;> simp [requireThat]

@[simp] theorem requireSpan_eq_ok : requireSpan span parameter = .ok () ↔ 0 < span.nanos := by
  rw [requireSpan, requireThat_eq_ok, Bool.not_eq_true', Span.not_isZero_iff]

/-- Of two checks in a row both succeed, or none does. -/
theorem bind_check_eq_ok {first : Except Flaw Unit} {second : Unit → Except Flaw Unit} :
    (first >>= second) = .ok () ↔ first = .ok () ∧ second () = .ok () := by
  cases first <;> simp [bind, Except.bind]

end Checks

theorem TestSettings.validate_eq_ok {t : TestSettings} : t.validate = .ok () ↔ 0 < t.threads := by
  simp [validate]

theorem IterateSettings.of_validate {s : IterateSettings} (valid : s.validate = .ok ()) :
    0 < s.test.threads ∧ 0 < s.numLoops := by
  obtain ⟨threads, valid⟩ := bind_check_eq_ok.1 valid
  obtain ⟨loops, -⟩ := bind_check_eq_ok.1 valid
  exact ⟨TestSettings.validate_eq_ok.1 threads, by simpa using loops⟩

theorem StressSettings.validate_eq_ok {s : StressSettings} :
    s.validate = .ok () ↔
      0 < s.test.threads ∧
        (match s.duration with
          | some duration => 0 < duration.nanos
          | none => 0 < s.numRequests) ∧
        0 < s.numEntries ∧ (0 < s.ratioSum ∧ s.ratioSum < 0x100000000) ∧
        ∀ limit, s.maxConsecutiveFailures = some limit → 0 < limit := by
  rw [validate, bind_check_eq_ok, TestSettings.validate_eq_ok]
  cases s.duration <;> cases s.maxConsecutiveFailures <;>
    simp [bind_check_eq_ok, and_assoc, pure, Except.pure]

theorem EventSettings.validate_eq_ok {s : EventSettings} :
    s.validate = .ok () ↔ s.minMembers ≤ s.memberLimit ∧ 0 < s.pollInterval.nanos := by
  simp [validate, bind_check_eq_ok]

theorem SettleSettings.validate_eq_ok {s : SettleSettings} :
    s.validate = .ok () ↔
      (s.histories.isEmpty = false ∨ s.checkMembership = true) ∧ 0 < s.timeout.nanos ∧
        0 < s.pollInterval.nanos := by
  simp [validate, bind_check_eq_ok]

theorem CheckSettings.validate_eq_ok {s : CheckSettings} :
    s.validate = .ok () ↔ s.histories.isEmpty = false := by
  simp [validate]

/-- A stage is valid only if the settings of its kind are. -/
theorem Stage.kind_valid {stage : Stage} (valid : stage.validate = .ok ()) :
    stage.kind.validate = .ok () := by
  have valid : stage.check = .ok () := by
    rw [Stage.validate] at valid
    cases h : stage.check with
    | ok => rfl
    | error => simp [h, Except.mapError] at valid
  obtain ⟨_, workers, timeout, _⟩ := stage
  cases workers <;> cases timeout <;> simp [check, bind_check_eq_ok] at valid <;> simp [valid]

/-! ### Passing over all entries -/

namespace Iterate

variable {C : Type} {settings : IterateSettings} {seat : Seat} {begun : Instant}

/-- The states that a stressor comes to, asked to stop or not at each of its turns, whatever the
store answers. -/
inductive Reached (settings : IterateSettings) (seat : Seat) (begun : Instant) :
    State C → Prop where
  | start : Reached settings seat begun (start settings seat begun)
  | answered {s s' : State C} {time : Instant} {stopping : Bool} {ask : Ask C (State C)}
    (reached : Reached settings seat begun s)
    (turn : s.turn settings seat time stopping = .call ask) (leads : ask.Leads s') :
    Reached settings seat begun s'

/-- A stressor has tried to open a cursor. -/
def State.Tried (s : State C) : Prop := getIterator ∈ s.stats.operations.keys

namespace State

variable {s : State C}

theorem tried_onOpened {asked now : Instant} {r : Except StoreError C} :
    (s.onOpened seat asked r now).Tried := by
  cases r <;> exact (Statistics.mem_keys_record ..).2 (.inl rfl)

theorem Tried.record {α : Type} (tried : s.Tried) (operation : String) (asked now : Instant)
    (r : Except StoreError α) : (s.record operation asked now r).Tried :=
  (Statistics.mem_keys_record ..).2 (.inr tried)

theorem Tried.recordPass (tried : s.Tried) (pass : Pass C) (now : Instant) (success : Bool) :
    (s.recordPass pass now success).Tried :=
  (Statistics.mem_keys_record ..).2 (.inr tried)

theorem Tried.onMore (tried : s.Tried) {pass : Pass C} {asked now : Instant}
    {r : Except StoreError Bool} : (s.onMore pass asked r now).Tried := by
  have recorded := tried.record hasNext asked now r
  rcases r with e | _ | _ <;> exact recorded

theorem Tried.onStep (tried : s.Tried) {pass : Pass C} {asked now : Instant}
    {r : Except StoreError (Entry × C)} : (s.onStep settings pass asked r now).Tried := by
  have recorded := tried.record next asked now r
  cases r with
  | ok => exact recorded
  | error =>
    rw [State.onStep]
    dsimp only
    split <;> exact recorded

theorem Tried.endPass (tried : s.Tried) {pass : Pass C} {now : Instant} (outcome : PassEnd) :
    (s.endPass seat pass now outcome).Tried := by
  cases outcome with
  | completed elements => exact Tried.recordPass (s := s.note elements) tried pass now true
  | failed reason => exact Tried.recordPass tried pass now false
  | stopped => exact tried

theorem Tried.onClosed (tried : s.Tried) {pass : Pass C} {outcome : PassEnd} {now : Instant}
    {r : Except StoreError Unit} : (s.onClosed seat pass outcome r now).Tried := by
  cases r <;> exact tried.endPass _

/-- A stressor ends with what it found. -/
theorem result_of_finish {time : Instant} {stopping : Bool} {result : IterationResult}
    (turn : s.turn settings seat time stopping = .finish result) : result = s.result seat time := by
  rw [State.turn] at turn
  split at turn
  · cases turn
    rfl
  · split at turn <;> cases turn
    rfl
  · split at turn <;> cases turn
  · cases turn
  · cases turn

end State

/-- A stressor that has not tried to open a cursor has made no turn. -/
theorem Reached.tried {s : State C} (reached : Reached settings seat begun s) :
    s.Tried ∨ s.phase = .between ∧ s.iteration = 0 := by
  induction reached with
  | start => exact .inr ⟨rfl, rfl⟩
  | @answered s s' time stopping ask _ turn leads ih =>
    refine .inl ?_
    rw [State.turn] at turn
    rcases h : s.phase with _ | pass | pass | ⟨pass, outcome⟩ | _ <;> rw [h] at turn ih
    · -- a stressor between two passes asks for a cursor
      dsimp only at turn
      split at turn <;> cases turn
      obtain ⟨r, now⟩ := leads
      exact State.tried_onOpened
    all_goals have tried : s.Tried := ih.resolve_right (by simp)
    · dsimp only at turn
      split at turn <;> cases turn <;> obtain ⟨r, now⟩ := leads
      · exact tried.onClosed
      · exact tried.onMore
    · cases turn
      obtain ⟨r, now⟩ := leads
      exact tried.onStep
    · cases turn
      obtain ⟨r, now⟩ := leads
      exact tried.onClosed
    · cases turn

/-- What the body of an iteration relies on: there is a stressor, and each tries to make a pass
before it ends, unless it is asked to stop. -/
structure Sound (settings : IterateSettings) : Prop where
  stressors : ∀ (env : Surroundings) (now : Instant),
    0 < (Iterate.crew settings env now).stands.size
  passes : ∀ (seat : Seat) (begun : Instant) (s : State Simulated.Cursor),
    Reached settings seat begun s → ∀ time result,
      s.turn settings seat time false = .finish result →
        getIterator ∈ result.stats.operations.keys

theorem Sound.of_valid (valid : settings.validate = .ok ()) : Sound settings where
  stressors env now := by
    have := UInt64.lt_iff_toNat_lt.1 (IterateSettings.of_validate valid).1
    simpa [Iterate.crew, Crew.start] using this
  passes seat begun s reached time result turn := by
    have loops : settings.numLoops.toNat ≠ 0 :=
      Nat.ne_of_gt (UInt32.lt_iff_toNat_lt.1 (IterateSettings.of_validate valid).2)
    rcases reached.tried with tried | ⟨between, first⟩
    · obtain rfl := State.result_of_finish turn
      exact tried
    · simp [State.turn, between, first, loops] at turn

end Iterate

/-! ### Random requests -/

namespace Stress

variable {settings : StressSettings}

/-- An operation can be drawn exactly if the ratios sum up to a positive number of 32 bits. -/
theorem weights?_isOk_iff :
    (∃ w, weights? settings = .ok w) ↔ 0 < settings.ratioSum ∧ settings.ratioSum < 0x100000000 := by
  rw [weights?]
  split
  · next large => exact iff_of_false (by simp) fun h => Nat.not_le.2 h.2 large
  · next small =>
    split
    · next zero => exact iff_of_false (by simp) fun h => Nat.ne_of_gt h.1 zero
    · next positive => exact iff_of_true ⟨_, rfl⟩ ⟨Nat.pos_of_ne_zero positive, Nat.not_le.1 small⟩

/-- The same settings with other ratios. -/
def withRatios (settings : StressSettings) (get put remove : UInt32) : StressSettings :=
  { settings with getRatio := get, putRatio := put, removeRatio := remove }

/-- What the weights say does not change the key that is drawn. -/
theorem Weights.key_pick (w : Weights) (roll : Nat) (key : String) (value : Bytes) :
    (w.pick roll key value).key = key := by
  simp only [pick]
  split
  · rfl
  · split <;> rfl

/-- What the body of a stress test relies on: there is a stressor, the first claim is granted if it
is decided before a window closes, an operation can be drawn, and the key that is drawn is one of
those that the settings ask for. -/
structure Sound (settings : StressSettings) : Prop where
  stressors : ∀ (env : Surroundings) (now : Instant), 0 < (Stress.crew settings env now).stands.size
  granted : ∀ now lag, (∀ d ∈ settings.duration, lag < d.nanos) →
    ((Completion.ofSettings settings).claim now lag).1 = true
  drawable : ∃ w, weights? settings = .ok w ∧ 0 < w.get + w.put + w.remove
  keys : ∀ setup : Setup, setup.settings = settings → ∀ i,
    ∃ k < settings.numEntries.toNat, (setup.draw i).key = InMemory.keyOf k
  failures : ∀ t : Trial, t.settings = settings → ∀ now trace m,
    Moment.Runs t (Moment.opening t now) trace m → ∀ i result, m.phases i = .returned result →
      ∀ reason : String, result.failure ≠ some s!"invalid operation ratios: {reason}"

theorem GaveUp.ne_invalidRatios {text : String} (gaveUp : GaveUp text) (reason : String) :
    text ≠ s!"invalid operation ratios: {reason}" := by
  obtain ⟨i, failures, e, shape⟩ := gaveUp
  rw [shape]
  intro same
  have same := congrArg String.toList same
  simp [toString] at same

theorem granted_of_valid (valid : settings.validate = .ok ()) (now : Instant) (lag : Nat)
    (early : ∀ d ∈ settings.duration, lag < d.nanos) :
    ((Completion.ofSettings settings).claim now lag).1 = true := by
  obtain ⟨-, budget, -⟩ := StressSettings.validate_eq_ok.1 valid
  rw [Completion.ofSettings]
  cases h : settings.duration with
  | none =>
    rw [h] at budget
    have some : settings.numRequests ≠ 0 := fun zero => by simp [zero] at budget
    simp [Completion.claim, some]
  | some duration =>
    have later : now + lag < now + duration.nanos := Nat.add_lt_add_left (early duration h) now
    simp only [Completion.claim, Completion.decided, Option.getD_none, Instant.after?]
    split
    · simpa using later
    · rfl

theorem Sound.of_valid (valid : settings.validate = .ok ()) : Sound settings := by
  obtain ⟨threads, -, entries, ratios, -⟩ := StressSettings.validate_eq_ok.1 valid
  obtain ⟨w, weighed⟩ := weights?_isOk_iff.2 ratios
  refine ⟨fun env now => ?_, granted_of_valid valid, ⟨w, weighed, ?_⟩, ?_, ?_⟩
  · have := UInt64.lt_iff_toNat_lt.1 threads
    simpa [Stress.crew, Crew.start] using this
  · have sum : w = ⟨settings.getRatio.toNat, settings.putRatio.toNat,
        settings.removeRatio.toNat⟩ := by
      rw [weights?, if_neg (Nat.not_le.2 ratios.2), if_neg (Nat.ne_of_gt ratios.1)] at weighed
      exact (Except.ok.inj weighed).symm
    rw [sum]
    exact ratios.1
  · rintro setup rfl i
    exact ⟨_, Nat.mod_lt _ (UInt64.lt_iff_toNat_lt.1 entries), Weights.key_pick ..⟩
  · rintro t rfl now trace m run i result returned reason failed
    have reasoned := run.reasoned ⟨w, weighed⟩ i
    rw [returned] at reasoned
    exact (reasoned _ failed).ne_invalidRatios reason rfl

/-- Valid settings stay valid with exactly the ratios with which an operation can be drawn. -/
theorem ratios_of_valid (valid : settings.validate = .ok ()) (get put remove : UInt32) :
    (withRatios settings get put remove).validate = .ok () ↔
      ∃ w, weights? (withRatios settings get put remove) = .ok w := by
  obtain ⟨threads, budget, entries, -, limit⟩ := StressSettings.validate_eq_ok.1 valid
  rw [weights?_isOk_iff, StressSettings.validate_eq_ok]
  exact ⟨fun h => h.2.2.2.1, fun h => ⟨threads, budget, entries, h, limit⟩⟩

end Stress

/-! ### Waits -/

/-- A sleep takes its time, unless the clock cannot represent when it is to end. -/
theorem Clock.le_wake (c : Clock) (now : Instant) (span : Span) :
    now + min span.nanos Instant.farAway ≤ c.wake now span := by
  rw [wake]
  cases alarm : c.alarm? now span with
  | none => exact Nat.add_le_add_left (Nat.min_le_right _ _) _
  | some t =>
    exact Nat.le_trans (Nat.add_le_add_left (Nat.min_le_left _ _) _) (alarm?_bounds alarm).1

namespace WaitLimits

variable {α : Type} {w : WaitLimits} {look : Instant → Option α} {start last : Instant}

/-- Time passes between two looks of a wait, as long as its time limit is not reached. -/
def Advances (w : WaitLimits) : Prop :=
  ∀ (clock : Clock) (now : Instant) (waited : Nat),
    w.timeout.isZero = true ∨ waited < w.timeout.nanos → now < clock.wake now (w.pause waited)

theorem nanos_pause (limited : w.timeout.isZero = false) (waited : Nat) :
    (w.pause waited).nanos = min w.interval.nanos (w.timeout.nanos - waited) := by
  rw [pause, limited, if_neg Bool.false_ne_true, Span.nanos_ofNanos (Nat.min_le_left _ _)]

theorem advances (interval : 0 < w.interval.nanos) : w.Advances := by
  intro clock now waited more
  have pauses : 0 < (w.pause waited).nanos := by
    cases limited : w.timeout.isZero with
    | true => rwa [pause, limited, if_pos rfl]
    | false =>
      have before : waited < w.timeout.nanos := more.resolve_left (by simp [limited])
      rw [nanos_pause limited]
      exact Nat.lt_min.2 ⟨interval, Nat.sub_pos_of_lt before⟩
  have passes : 0 < min (w.pause waited).nanos Instant.farAway :=
    Nat.lt_min.2 ⟨pauses, by decide⟩
  exact Nat.lt_of_lt_of_le (Nat.lt_add_of_pos_right passes) (clock.le_wake _ _)

/-- Looks that are as many as fit into the time that is left, and one more, are enough. -/
theorem pollFrom_ends (clock : Clock) (limited : w.timeout.isZero = false) (looks : Nat)
    (now : Instant) (begun : start ≤ now) (enough : w.timeout.nanos ≤
      now - start + looks * min w.interval.nanos Instant.farAway) :
    w.pollFrom clock.wake look start (looks + 1) now ≠ .never := by
  induction looks generalizing now with
  | zero =>
    have late : w.timeout.nanos ≤ now - start := by simpa using enough
    rw [pollFrom]
    cases look now with
    | some a => simp
    | none => simp [limited, late]
  | succ looks ih =>
    rw [pollFrom]
    cases look now with
    | some a => simp
    | none =>
      by_cases late : w.timeout.nanos ≤ now - start
      · simp [limited, late]
      · rw [if_neg (by simp [limited, Nat.not_le.1 late])]
        have slept := clock.le_wake now (w.pause (now - start))
        rw [nanos_pause limited] at slept
        rw [Nat.succ_mul] at enough
        generalize clock.wake now (w.pause (now - start)) = later at *
        generalize looks * min w.interval.nanos Instant.farAway = rest at *
        delta Instant at *
        exact ih _ (by omega) (by omega)

/-- **A wait with a time limit ends**, if time passes between its looks. -/
theorem poll_ends (clock : Clock) (limited : 0 < w.timeout.nanos)
    (interval : 0 < w.interval.nanos) : w.poll clock.wake look start last ≠ .never := by
  have limited : w.timeout.isZero = false := Span.not_isZero_iff.2 limited
  have step : 0 < min w.interval.nanos Instant.farAway := Nat.lt_min.2 ⟨interval, by decide⟩
  rw [poll, looks, Span.not_isZero_iff.2 interval, limited, if_neg Bool.false_ne_true,
    if_neg Bool.false_ne_true]
  refine pollFrom_ends clock limited _ start (Nat.le_refl _) ?_
  rw [Nat.sub_self, Nat.zero_add]
  exact Nat.le_of_lt (Nat.lt_mul_of_div_lt (Nat.lt_succ_self _) step)

end WaitLimits

/-- What the body of a wait for an event relies on: time passes between its looks, and there is a
number of members that an event may have. -/
structure EventSettings.Sound (s : EventSettings) : Prop where
  advances : WaitLimits.Advances ⟨s.timeout, s.pollInterval⟩
  satisfiable : ∃ members, ∀ (e : TopologyEvent) (marker : Option EventId),
    e.satisfies s.condition = true → e.members = members → (s.query marker).accepts e = true

theorem EventSettings.Sound.of_valid {s : EventSettings} (valid : s.validate = .ok ()) :
    s.Sound := by
  obtain ⟨range, interval⟩ := EventSettings.validate_eq_ok.1 valid
  refine ⟨WaitLimits.advances interval, s.minMembers, fun e marker satisfies members => ?_⟩
  simp [TopologyHistory.EventQuery.accepts, query, satisfies, members, range]

/-- What the body of a wait for quiet histories relies on: time passes between its looks, and the
wait ends, whatever happens. -/
structure SettleSettings.Sound (s : SettleSettings) : Prop where
  advances : WaitLimits.Advances ⟨s.timeout, s.pollInterval⟩
  limited : 0 < s.timeout.nanos
  ends : ∀ (t : Timeline) (clock : Clock) (cache : String) (start : Instant),
    t.waitUntilSettled clock.wake cache s.histories s.checkMembership s.period
      ⟨s.timeout, s.pollInterval⟩ start ≠ .never

theorem SettleSettings.Sound.of_valid {s : SettleSettings} (valid : s.validate = .ok ()) :
    s.Sound := by
  obtain ⟨-, limited, interval⟩ := SettleSettings.validate_eq_ok.1 valid
  exact ⟨WaitLimits.advances interval, limited, fun t clock cache start =>
    WaitLimits.poll_ends clock limited interval⟩

/-! ### Stages -/

/-- What the body of a stage relies on. A check for recent changes relies on nothing. -/
def StageKind.Sound : StageKind → Prop
  | iterate s => Iterate.Sound s
  | stress s => Stress.Sound s
  | waitForEvent s => s.Sound
  | waitForSettle s => s.Sound
  | checkTopology _ => True

theorem StageKind.Sound.of_valid {kind : StageKind} (valid : kind.validate = .ok ()) :
    kind.Sound := by
  cases kind with
  | iterate s => exact Iterate.Sound.of_valid valid
  | stress s => exact Stress.Sound.of_valid valid
  | waitForEvent s => exact EventSettings.Sound.of_valid valid
  | waitForSettle s => exact SettleSettings.Sound.of_valid valid
  | checkTopology s => trivial

/-- No worker answers a valid stress test with the error that no operation can be drawn. -/
theorem Worker.message_of_valid_stress {stage : Stage} (valid : stage.validate = .ok ())
    {s : StressSettings} (kind : stage.kind = .stress s) {w : Worker} {env : Surroundings}
    {now : Instant} {x : Execution} (h : (w.execute env stage now).execution = some x)
    {e : AckError} (failed : x.ack.error = some e) (reason : String) :
    e.message ≠ s!"worker {w.index}: invalid operation ratios: {reason}" := by
  have checked := Stage.kind_valid valid
  rw [kind] at checked
  obtain ⟨-, -, -, ratios, -⟩ := StressSettings.validate_eq_ok.1 checked
  simp only [execute, valid] at h
  split at h
  · cases h
    cases failed
  · rw [runStage, kind] at h
    obtain ⟨⟨answered, r, store⟩, ran, rfl⟩ := Option.map_eq_some_iff.1 h
    exact (stress_message (Stress.weights?_isOk_iff.2 ratios) ran failed).ne_invalidRatios reason

/-- **Validation establishes what the bodies of stages rely on.** A valid stage provides what its
body relies on. Ratios are accepted exactly if an operation can be drawn with them, so that no
worker ever answers that they are invalid. -/
theorem Stage.sound_of_valid (stage : Stage) (valid : stage.validate = .ok ()) :
    stage.kind.Sound ∧
    ∀ s, stage.kind = .stress s →
      (∀ get put remove,
        (Stress.withRatios s get put remove).validate = .ok () ↔
          ∃ w, Stress.weights? (Stress.withRatios s get put remove) = .ok w) ∧
      ∀ (w : Worker) (env : Surroundings) (now : Instant) (x : Execution),
        (w.execute env stage now).execution = some x → ∀ e, x.ack.error = some e →
          ∀ reason : String,
            e.message ≠ s!"worker {w.index}: invalid operation ratios: {reason}" := by
  have checked := kind_valid valid
  refine ⟨StageKind.Sound.of_valid checked, fun s kind => ⟨?_, ?_⟩⟩
  · rw [kind] at checked
    exact Stress.ratios_of_valid checked
  · intro w env now x h e failed reason
    exact Worker.message_of_valid_stress valid kind h failed reason

/-- A stress test that writes only, for a tenth of a second, is sound. -/
theorem Stage.sound_of_valid_writes :
    let s : StressSettings :=
      { numRequests := 0, duration := some (.ofNanos 100000000), getRatio := 0 }
    let stage : Stage := { name := "writes", kind := .stress s }
    stage.validate = .ok () ∧ Stress.Sound s ∧
      ∀ get put remove,
        (Stress.withRatios s get put remove).validate = .ok () ↔
          ∃ w, Stress.weights? (Stress.withRatios s get put remove) = .ok w := by
  intro s stage
  have valid : stage.validate = .ok () := by decide
  obtain ⟨sound, stress⟩ := stage.sound_of_valid valid
  exact ⟨valid, sound, (stress s rfl).1⟩

end LoadFleet
