import LoadFleet.Proofs.GivingUp
import LoadFleet.Proofs.Rounding
/-!
# What recording leaves in statistics

Statistics that requests are recorded in hold an accumulator for an operation only if at least one
request of it was recorded. So no accumulator is empty, and the moments of latencies stay finite,
however floating point numbers are rounded on the way.

A stressor records at most one request in a turn. Its counters have room for that, so that no
recording of a stressor is an overflow.

* `Moments.Bounded.record`: recording keeps the moments in their bounds.
* `Statistics.Arises`: statistics that come about by recording.
* `Statistics.Arises.proper`: what they hold, by induction over the requests.
* `Statistics.Filled.record?_eq_ok`: as long as there are few requests there is room for one more.
* `Crew.Fill.run`: by induction over the turns of a crew, what its stressors hold.
* `Worker.execute_filled`: what a worker answers with.
-/

namespace LoadFleet

open Rounding

/-- The moments of a summary are finite: the mean is between zero and twice the largest latency, and
the sum of squared deviations is no larger than a number that further squares do not change. -/
structure Moments.Bounded (m : Moments Float) : Prop where
  mean_finite : m.mean.isFinite
  mean_nonneg : 0 ≤ valueOf m.mean
  mean_le : valueOf m.mean ≤ 2 ^ 65
  deviation_finite : m.deviation.isFinite
  deviation_le : |valueOf m.deviation| ≤ 2 ^ 190

namespace Moments

theorem floatOfCount_word (n : UInt64) : (Scalar.ofNat n.toNat : Float) = n.toFloat := by
  have : n.toNat ≤ wordMax := Nat.le_of_lt_succ n.toNat_lt
  change floatOfCount n.toNat = _
  rw [floatOfCount, if_pos this, Nat.toUInt64_eq, UInt64.ofNat_toNat]

theorem bounded_empty : Bounded .empty := by
  obtain ⟨finite, nearest, -⟩ := (toFloat_rounds 0).of_le isBound_zero (by simp)
  have zero : |valueOf (0 : UInt64).toFloat| ≤ 0 := nearest.le isBound_zero (by simp)
  rw [abs_nonpos_iff] at zero
  rw [Moments.empty, show (Scalar.ofNat 0 : Float) = (0 : UInt64).toFloat from floatOfCount_word 0]
  exact ⟨finite, zero.ge, zero ▸ by positivity, finite, by rw [zero]; positivity⟩

section

variable {m : Moments Float} (h : m.Bounded) (nanos : UInt64) {n : UInt64} (some : n ≠ 0)

include h some

/-- How far a latency is from the mean, and the mean after it. -/
theorem Bounded.mean_step :
    let delta := nanos.toFloat - m.mean
    let mean := m.mean + delta / n.toFloat
    (delta.isFinite ∧ |valueOf delta| ≤ 2 ^ 65) ∧
      mean.isFinite ∧ 0 ≤ valueOf mean ∧ valueOf mean ≤ 2 ^ 65 := by
  obtain ⟨value_finite, value_nonneg, value_le⟩ := valueOf_toFloat nanos
  obtain ⟨count_finite, -, -⟩ := valueOf_toFloat n
  have count := one_le_valueOf_toFloat some
  have nonzero : valueOf n.toFloat ≠ 0 := by linarith
  have mean_nonneg := h.mean_nonneg
  have mean_le := h.mean_le
  intro delta mean
  have far := sub_rounds value_finite h.mean_finite
  rcases le_or_gt (valueOf m.mean) (valueOf nanos.toFloat) with above | below
  · -- the mean grows, and is at most the latency before
    obtain ⟨delta_finite, delta_nonneg, delta_le⟩ :=
      far.of_nonneg (isBound_two_pow (by decide : 64 ≤ 1023)) (by linarith) (by linarith)
    obtain ⟨part_finite, part_nonneg, part_le⟩ :=
      (div_rounds delta_finite count_finite nonzero).of_nonneg
        (isBound_two_pow (by decide : 64 ≤ 1023)) (by positivity)
        ((div_le_self delta_nonneg count).trans delta_le)
    have sum := (add_rounds h.mean_finite part_finite).of_nonneg
      (isBound_two_pow (by decide : 65 ≤ 1023)) (by linarith) (by linarith)
    exact ⟨⟨delta_finite, by rw [abs_of_nonneg delta_nonneg]; linarith⟩, sum⟩
  · -- the mean falls, by no more than itself
    have bound := isBound_valueOf h.mean_finite
    rw [abs_of_nonneg mean_nonneg] at bound
    obtain ⟨delta_finite, delta_ge, delta_nonpos⟩ := far.of_nonpos bound (by linarith) (by linarith)
    obtain ⟨part_finite, part_ge, part_nonpos⟩ :=
      (div_rounds delta_finite count_finite nonzero).of_nonpos bound
        (div_nonpos_of_nonpos_of_nonneg delta_nonpos (by linarith))
        (delta_ge.trans (by
          rw [le_div_iff₀ (by linarith)]
          nlinarith))
    obtain ⟨sum_finite, sum_nonneg, sum_le⟩ := (add_rounds h.mean_finite part_finite).of_nonneg
      bound (by linarith) (by linarith)
    exact ⟨⟨delta_finite, by rw [abs_of_nonpos delta_nonpos]; linarith⟩, sum_finite, sum_nonneg,
      sum_le.trans mean_le⟩

end

/-- Squares do not push a sum of squares over its bound, for each is less than half a unit in the
last place of the bound. -/
theorem deviation_step {deviation square : Float} (deviation_finite : deviation.isFinite)
    (deviation_le : |valueOf deviation| ≤ 2 ^ 190) (square_finite : square.isFinite)
    (square_le : |valueOf square| ≤ 2 ^ 130) :
    (deviation + square).isFinite ∧ |valueOf (deviation + square)| ≤ 2 ^ 190 := by
  have canonical : Canonical (2 ^ 52) 138 := ⟨by decide, by decide, .inl le_rfl⟩
  have whole : ((2 ^ 52 : Nat) : ℚ) * 2 ^ (138 : Int) = 2 ^ 190 := by norm_num
  have sum_le := (abs_add_le (valueOf deviation) (valueOf square)).trans
    (add_le_add deviation_le square_le)
  have near : |valueOf deviation + valueOf square| <
      ((2 ^ 52 : Nat) + 1 / 2) * 2 ^ (138 : Int) :=
    sum_le.trans_lt (by norm_num)
  obtain ⟨sum_finite, sum_nearest, -⟩ :=
    add_rounds deviation_finite square_finite _ _ canonical (by decide) near
  exact ⟨sum_finite, whole ▸ sum_nearest.upper _ _ canonical near⟩

/-- **Moments stay finite.** Recording a latency keeps them in their bounds, as long as the counter
of requests has room for it. -/
theorem Bounded.record {m : Moments Float} (h : m.Bounded) (nanos : UInt64) (success : Bool)
    (some : m.requests + 1 ≠ 0) : (m.record nanos success).Bounded := by
  obtain ⟨⟨delta_finite, delta_le⟩, mean_finite, mean_nonneg, mean_le⟩ := h.mean_step nanos some
  obtain ⟨value_finite, value_nonneg, value_le⟩ := valueOf_toFloat nanos
  simp only [Moments.record, floatOfCount_word]
  generalize m.mean + (nanos.toFloat - m.mean) / (m.requests + 1).toFloat = mean at *
  generalize nanos.toFloat - m.mean = delta at *
  have rest_le : |valueOf nanos.toFloat - valueOf mean| ≤ 2 ^ 65 :=
    abs_le.2 ⟨by linarith, by linarith⟩
  have bound (n : Nat) (h : n ≤ 1023) : IsBound (2 ^ n) := isBound_two_pow h
  obtain ⟨rest_finite, rest_nearest, -⟩ :=
    (sub_rounds value_finite mean_finite).of_le (bound 65 (by decide)) rest_le
  have rest_le := rest_nearest.le (bound 65 (by decide)) rest_le
  have square_le : |valueOf delta * valueOf (nanos.toFloat - mean)| ≤ 2 ^ 130 := by
    rw [abs_mul]
    calc _ ≤ (2 ^ 65 * 2 ^ 65 : ℚ) := mul_le_mul delta_le rest_le (abs_nonneg _) (by positivity)
      _ = 2 ^ 130 := by norm_num
  obtain ⟨square_finite, square_nearest, -⟩ :=
    (mul_rounds delta_finite rest_finite).of_le (bound 130 (by decide)) square_le
  have square_le := square_nearest.le (bound 130 (by decide)) square_le
  obtain ⟨sum_finite, sum_le⟩ :=
    deviation_step h.deviation_finite h.deviation_le square_finite square_le
  exact ⟨mean_finite, mean_nonneg, mean_le, sum_finite, sum_le⟩

end Moments

/-! ### Accumulators and statistics -/

/-- An accumulator of no more errors than requests, with moments in their bounds. -/
structure Accumulator.Regular (a : OperationStats) : Prop where
  failed : a.errors.toNat ≤ a.requests.toNat
  bounded : ∀ m, a = .basic m → m.Bounded

/-- And of at least one request. -/
structure Accumulator.Proper (a : OperationStats) : Prop extends a.Regular where
  some : 0 < a.requests.toNat

namespace Accumulator

theorem regular_empty (kind : StatsKind) : Regular (.empty kind) := by
  refine ⟨?_, fun m basic => ?_⟩
  · rw [errors_empty]
    exact Nat.zero_le _
  · cases kind <;> cases basic
    exact Moments.bounded_empty

/-- One more request is recorded where there is room for it. -/
theorem Regular.record {a : OperationStats} (h : a.Regular) {latency : Span} {success : Bool}
    (room : a.HasRoom 1 (if success then 0 else 1)) : (a.record latency success).Proper := by
  have requests : (a.requests + 1).toNat = a.requests.toNat + 1 := toNat_add_of_le room.1
  refine ⟨⟨?_, fun m basic => ?_⟩, ?_⟩
  · rw [requests_record, errors_record, requests]
    split
    · exact h.failed.trans (Nat.le_succ _)
    · next failed =>
      rw [if_neg failed] at room
      rw [toNat_add_of_le room.2]
      exact Nat.succ_le_succ h.failed
  · cases a with
    | basic s =>
      cases basic
      refine (h.bounded s rfl).record _ success fun zero => ?_
      have zero : (s.requests + 1).toNat = 0 := congrArg UInt64.toNat zero
      exact Nat.succ_ne_zero _ (requests.symm.trans zero)
    | recording | sketch => cases basic
  · rw [requests_record, requests]
    exact Nat.succ_pos _

end Accumulator

namespace Statistics

variable {j k : Nat} {s t : RunStatistics}

/-- Something was recorded for each operation. -/
def Proper (s : RunStatistics) : Prop := ∀ name a, s.operation? name = some a → a.Proper

theorem Proper.regular_target (h : s.Proper) (operation : String) :
    (s.target operation).Regular := by
  rw [target]
  cases known : s.operations.find? operation with
  | none => exact Accumulator.regular_empty s.kind
  | some a => exact (h operation a known).toRegular

/-- Statistics that come about by recording. None of the requests is an overflow; there may be any
number of them, and any interval may be set at any time. -/
inductive Arises : RunStatistics → Prop
  | empty (kind : StatsKind) : Arises (.empty kind)
  | record {s t : RunStatistics} {operation : String} {latency : Span} {success : Bool}
    (h : Arises s) (recorded : s.record? operation latency success = .ok t) : Arises t
  | interval {s : RunStatistics} (h : Arises s) (begun ended : Option WallTime) :
    Arises { s with begun, ended }

/-- **What comes about by recording.** No accumulator is empty, and all moments are finite. -/
theorem Arises.proper (h : s.Arises) : s.Proper := by
  induction h with
  | empty kind => exact fun name _ found => nomatch (OrderedMap.find?_empty name).symm.trans found
  | @record s _ operation latency success _ recorded ih =>
    obtain ⟨room, rfl⟩ := record?_eq_ok_iff.1 recorded
    intro name a found
    rw [operation?_record] at found
    split at found
    · cases found
      exact (ih.regular_target operation).record room
    · exact ih name a found
  | interval _ _ _ ih => exact ih

theorem Proper.errors_le (h : s.Proper) (name : String) :
    (s.errorsOf name).toNat ≤ (s.requestsOf name).toNat := by
  rw [toNat_errorsOf, toNat_requestsOf]
  cases found : s.operation? name with
  | none => exact le_rfl
  | some a => exact (h name a found).failed

/-- Statistics that come about by recording at most `k` requests of each operation. -/
structure Filled (k : Nat) (s : RunStatistics) : Prop where
  arises : s.Arises
  few : ∀ name, (s.requestsOf name).toNat ≤ k

theorem Filled.mono (h : s.Filled j) (le : j ≤ k) : s.Filled k :=
  ⟨h.arises, fun name => (h.few name).trans le⟩

theorem filled_empty (kind : StatsKind) : (empty kind : RunStatistics).Filled k :=
  ⟨.empty kind, fun _ => Nat.zero_le k⟩

theorem Filled.interval (h : s.Filled k) (begun ended : Option WallTime) :
    ({ s with begun, ended } : RunStatistics).Filled k :=
  ⟨h.arises.interval begun ended, h.few⟩

/-- Statistics of few requests have room for one more. -/
theorem Filled.record?_eq_ok (h : s.Filled k) (small : k + 1 < 2 ^ 64) (operation : String)
    (latency : Span) (success : Bool) :
    s.record? operation latency success = .ok (s.record operation latency success) := by
  have requests := h.few operation
  have errors := h.arises.proper.errors_le operation
  refine record?_of_few s operation latency success ?_ ?_ <;> (rw [wordMax]; omega)

theorem Filled.record (h : s.Filled k) (small : k + 1 < 2 ^ 64) (operation : String)
    (latency : Span) (success : Bool) : (s.record operation latency success).Filled (k + 1) := by
  have recorded := h.record?_eq_ok small operation latency success
  refine ⟨h.arises.record recorded, fun name => ?_⟩
  obtain ⟨requests, -⟩ := counts_of_record? recorded name
  have := h.few name
  split at requests <;> omega

end Statistics

/-! ### Stressors -/

/-- What a turn leads to: a result, or a call and whatever state follows its answer. -/
def Turn.Holds {S R : Type} (state : S → Prop) (result : R → Prop) :
    Turn Simulated.Cursor S R → Prop
  | .finish r => result r
  | .call ask => ∀ s, ask.Leads s → state s

/-- How much the states and the results of stressors hold after so many turns: a turn adds at most
one request. -/
structure Crew.Fill {K S R : Type} (step : Step K S R) (state : Nat → S → Prop)
    (result : Nat → R → Prop) : Prop where
  mono : ∀ {j k s}, state j s → j ≤ k → state k s
  mono_result : ∀ {j k r}, result j r → j ≤ k → result k r
  turn : ∀ {k i s now stopping shared}, state k s → k + 1 < 2 ^ 64 →
    (step i s now stopping shared).1.Holds (state (k + 1)) (result (k + 1))

namespace Crew

variable {K S R : Type} {step : Step K S R} {state : Nat → S → Prop} {result : Nat → R → Prop}

/-- What a stand holds after so many turns of the crew. -/
def Holds (state : Nat → S → Prop) (result : Nat → R → Prop) (k : Nat) :
    Stand Simulated.Cursor S R → Prop
  | .ready s => state k s
  | .waiting ask => ∀ s, ask.Leads s → state k s
  | .ended _ (.finished r) => result k r
  | .ended _ (.panicked _) | .stuck => True

theorem leads_answer (ask : Ask Simulated.Cursor S) (store : Simulated) (now : Instant) :
    ask.Leads (ask.answer store now).1 := by
  cases ask with
  | invoke container operation goOn => exact .invoke _ now
  | iterate container filter converter goOn => exact .iterate _ now
  | hasNext cursor goOn => exact .hasNext _ now
  | next cursor goOn => exact .next _ now
  | close cursor goOn => exact .close _ now

theorem leads_fail (ask : Ask Simulated.Cursor S) (e : StoreError) (now : Instant) :
    ask.Leads (ask.fail e now) := by
  cases ask with
  | invoke container operation goOn => exact .invoke _ now
  | iterate container filter converter goOn => exact .iterate _ now
  | hasNext cursor goOn => exact .hasNext _ now
  | next cursor goOn => exact .next _ now
  | close cursor goOn => exact .close _ now

/-- All stressors of a crew hold what they may hold after so many turns. -/
def AllHold (state : Nat → S → Prop) (result : Nat → R → Prop) (k : Nat) (c : Crew K S R) : Prop :=
  ∀ stand ∈ c.stands, Holds state result k stand

theorem AllHold.set {k : Nat} {c c' : Crew K S R} (h : AllHold state result k c) {i : Nat}
    (stand : Stand Simulated.Cursor S R) (here : Holds state result k stand)
    (stands : c'.stands = c.stands.setIfInBounds i stand) : AllHold state result k c' := by
  intro other hm
  rw [stands] at hm
  rcases Array.mem_or_eq_of_mem_setIfInBounds hm with hm | rfl
  · exact h other hm
  · exact here

theorem AllHold.settle {k : Nat} {c : Crew K S R} (h : AllHold state result k c) (p : Queued)
    {ask : Ask Simulated.Cursor S} (later : ∀ s, ask.Leads s → state k s) :
    AllHold state result k (c.settle p ask) := by
  rw [Crew.settle]
  dsimp only
  split
  · exact h.set (.ready _) (later _ (leads_answer ask c.store p.time)) rfl
  · next e _ => exact h.set (.ready _) (later _ (leads_fail ask e p.time)) rfl
  · exact h.set (.ended _ (.panicked _)) trivial rfl
  · exact h.set .stuck trivial rfl

variable (fill : Fill step state result)

include fill

theorem Fill.mono_stand {j k : Nat} (le : j ≤ k) {stand : Stand Simulated.Cursor S R}
    (h : Holds state result j stand) : Holds state result k stand := by
  rcases stand with s | ask | ⟨_, r | _⟩ | _
  · exact fill.mono h le
  · exact fun s leads => fill.mono (h s leads) le
  · exact fill.mono_result h le
  · trivial
  · trivial

/-- A turn of a crew records at most one request. -/
theorem Fill.turn_crew {k : Nat} (small : k + 1 < 2 ^ 64) {c : Crew K S R}
    (h : AllHold state result k c) (stop : Option Instant) (p : Queued) :
    AllHold state result (k + 1) (c.turn step stop p) := by
  have later : AllHold state result (k + 1) c := fun stand hm =>
    fill.mono_stand (Nat.le_succ k) (h stand hm)
  rw [Crew.turn]
  cases stand : c.stands[p.unit]? with
  | none => exact later
  | some stand' =>
    have holds := h stand' (Array.mem_of_getElem? stand)
    cases stand' with
    | ended | stuck => exact later
    | waiting ask => exact later.settle p fun s leads => fill.mono (holds s leads) (Nat.le_succ k)
    | ready s =>
      dsimp only
      have turn : (step p.unit s p.time (stop.any fun t => t ≤ p.time) c.shared).1.Holds
          (state (k + 1)) (result (k + 1)) := fill.turn holds small
      rcases taken : step p.unit s p.time (stop.any fun t => t ≤ p.time) c.shared with
        ⟨r | ask, shared⟩ <;> rw [taken] at turn
      · exact later.set (.ended _ (.finished r)) turn rfl
      · dsimp only
        rw [Crew.call]
        split
        · exact AllHold.settle (c := { c with shared }) later p turn
        · exact later.set (.waiting ask) turn rfl

/-- **Turns of a crew.** After so many turns the stressors hold at most that many requests. -/
theorem Fill.run (stop limit : Option Instant) (turns : Nat) {k : Nat}
    (small : k + turns < 2 ^ 64) {c : Crew K S R} (h : AllHold state result k c) :
    AllHold state result (k + turns) (c.run step stop limit turns) := by
  induction turns generalizing c k with
  | zero => exact h
  | succ turns ih =>
    have stays : AllHold state result (k + (turns + 1)) c := fun stand hm =>
      fill.mono_stand (Nat.le_add_right k _) (h stand hm)
    rw [Crew.run]
    split
    · exact stays
    · next p queue _ =>
      split
      · exact stays
      · have := ih (k := k + 1) (by omega)
          (fill.turn_crew (c := { c with queue }) (by omega) h stop p)
        rwa [show k + 1 + turns = k + (turns + 1) by omega] at this

end Crew

/-- What the results of a squad hold. -/
theorem Crew.Fill.squad {K S R : Type} {step : Step K S R} {state : Nat → S → Prop}
    {result : Nat → R → Prop} (fill : Crew.Fill step state result) {c : Crew K S R}
    (start : Crew.AllHold state result 0 c) (stop limit : Option Instant) {time : Instant} {r : R}
    (ended : some (time, .finished r) ∈ (c.squad step stop limit).completions) :
    result Crew.manyTurns r := by
  have holds := fill.run stop limit Crew.manyTurns (by decide : 0 + Crew.manyTurns < 2 ^ 64) start
  rw [Nat.zero_add] at holds
  obtain ⟨stand, hm, same⟩ := List.mem_map.1 ended
  have := holds stand (Array.mem_toList_iff.1 hm)
  rcases stand with _ | _ | ⟨_, _ | _⟩ | _ <;> cases same
  exact this

namespace Statistics

theorem Filled.begin {k : Nat} (seat : Seat) (kind : StatsKind) (now : Instant) :
    (seat.begin kind now).Filled k :=
  (filled_empty kind).interval _ _

theorem Filled.finish {k : Nat} {s : RunStatistics} (h : s.Filled k) (seat : Seat)
    (now : Instant) : (seat.finish s now).Filled k :=
  h.interval _ _

end Statistics

namespace Iterate

variable {C : Type}

theorem State.filled_onClosed {k : Nat} {s : State C} (h : s.stats.Filled k)
    (small : k + 1 < 2 ^ 64) (seat : Seat) (pass : Pass C) (outcome : PassEnd)
    (r : Except StoreError Unit) (now : Instant) :
    (s.onClosed seat pass outcome r now).stats.Filled (k + 1) := by
  have ends (outcome : PassEnd) : (s.endPass seat pass now outcome).stats.Filled (k + 1) := by
    cases outcome with
    | completed | failed => exact h.record small _ _ _
    | stopped => exact h.mono (Nat.le_succ k)
  cases r with
  | ok => exact ends outcome
  | error e => exact ends _

/-- A turn of a stressor of an iteration records at most one request. -/
theorem fill (settings : IterateSettings) (env : Surroundings) :
    Crew.Fill (Iterate.step settings env) (fun k s => s.stats.Filled k)
      (fun k r => r.stats.Filled k) where
  mono h le := h.mono le
  mono_result h le := h.mono le
  turn := by
    intro k i s now stopping _ h small
    have later : s.stats.Filled (k + 1) := h.mono (Nat.le_succ k)
    have closes (pass : Pass Simulated.Cursor) (outcome : PassEnd) (s' : State Simulated.Cursor)
        (leads : (Ask.close pass.cursor (s.onClosed (env.seat i) pass outcome)).Leads s') :
        s'.stats.Filled (k + 1) := by
      cases leads with
      | close r now => exact State.filled_onClosed h small _ pass outcome r now
    change (s.turn settings (env.seat i) now stopping).Holds _ _
    unfold State.turn
    cases s.phase with
    | done => exact later.finish _ _
    | between =>
      dsimp only
      split
      · exact later.finish _ _
      · intro s' leads
        cases leads with
        | iterate r now => cases r <;> exact h.record small _ _ _
    | asking pass =>
      cases stopping with
      | true => exact closes pass .stopped
      | false =>
        intro s' leads
        cases leads with
        | hasNext r now => rcases r with _ | _ | _ <;> exact h.record small _ _ _
    | stepping pass =>
      intro s' leads
      cases leads with
      | next r now =>
        cases r with
        | ok => exact h.record small _ _ _
        | error e =>
          simp only [State.onStep]
          split <;> exact h.record small _ _ _
    | closing pass outcome => exact closes pass outcome

/-- Stressors start with nothing recorded. -/
theorem crew_holds (settings : IterateSettings) (env : Surroundings) (now : Instant) :
    Crew.AllHold (fun k s => s.stats.Filled k) (fun k r => r.stats.Filled k) 0
      (Iterate.crew settings env now) := by
  intro stand hm
  simp only [Iterate.crew, Crew.start, List.mem_toArray, List.mem_map] at hm
  obtain ⟨_, ⟨i, -, rfl⟩, rfl⟩ := hm
  exact Statistics.Filled.begin _ _ _

end Iterate

namespace Stress

/-- A turn of a stressor of a stress test records at most one request. -/
theorem fill (settings : StressSettings) (value : Bytes) (env : Surroundings) :
    Crew.Fill (Stress.step settings value env) (fun k s => s.stats.Filled k)
      (fun k r => r.stats.Filled k) where
  mono h le := h.mono le
  mono_result h le := h.mono le
  turn := by
    intro k i s now stopping completion h small
    have later : s.stats.Filled (k + 1) := h.mono (Nat.le_succ k)
    simp only [Stress.step]
    split
    · rw [State.turn]
      split
      · exact later.finish _ _
      · dsimp only
        split
        · rintro _ ⟨r, now⟩
          cases r <;> exact h.record small _ _ _
        · exact later.finish _ _
    · exact Statistics.filled_empty _

/-- Stressors start with nothing recorded. -/
theorem crew_holds (settings : StressSettings) (env : Surroundings) (now : Instant) :
    Crew.AllHold (fun k s => s.stats.Filled k) (fun k r => r.stats.Filled k) 0
      (Stress.crew settings env now) := by
  intro stand hm
  simp only [Stress.crew, Crew.start, List.mem_toArray, List.mem_map] at hm
  obtain ⟨_, ⟨i, -, rfl⟩, rfl⟩ := hm
  exact Statistics.Filled.begin _ _ _

end Stress

/-! ### Acknowledgements -/

/-- The statistics in a payload, one for each stressor that finished. -/
def Payload.threads : Payload → List RunStatistics
  | none => []
  | statistics threads => threads
  | iteration results _ => results.map (·.stats)

theorem Crew.Fill.pooled {K S R : Type} {step : Step K S R} {state : Nat → S → Prop}
    {result : Nat → R → Prop} (fill : Crew.Fill step state result) {c : Crew K S R}
    (start : Crew.AllHold state result 0 c) {limits : PoolLimits} {started : Instant}
    {clock : Clock} {o : PoolOutcome R Simulated}
    (ran : Pool.run clock limits started (c.pooled step limits started) = some o) {r : R}
    (hm : r ∈ o.results) : result Crew.manyTurns r := by
  obtain ⟨stop, time, ended⟩ := Pool.finished_of_mem_results _ _ _ _ ran hm
  cases stop <;> exact fill.squad start _ _ ended

/-- **What a worker answers with** comes about by recording. -/
theorem Worker.execute_filled {w : Worker} {env : Surroundings} {stage : Stage} {now : Instant}
    {x : Execution} (h : (w.execute env stage now).execution = some x) :
    ∀ s ∈ x.ack.payload.threads, s.Filled Crew.manyTurns := by
  simp only [execute] at h
  split at h
  · cases h
    nofun
  · split at h
    · cases h
      nofun
    · rw [runStage] at h
      split at h
      · obtain ⟨⟨answered, r, store⟩, ran, rfl⟩ := Option.map_eq_some_iff.1 h
        obtain ⟨o, pool, ran⟩ := Option.bind_eq_some_iff.1 ran
        obtain ⟨_, -, ran⟩ := Option.bind_eq_some_iff.1 ran
        cases ran
        intro s hs
        obtain ⟨result, hm, rfl⟩ := List.mem_map.1 hs
        exact (Iterate.fill _ env).pooled (Iterate.crew_holds _ env now) pool hm
      · obtain ⟨⟨answered, r, store⟩, ran, rfl⟩ := Option.map_eq_some_iff.1 h
        obtain ⟨o, pool, ran⟩ := Option.bind_eq_some_iff.1 ran
        cases ran
        intro s hs
        obtain ⟨result, hm, rfl⟩ := List.mem_map.1 hs
        exact (Stress.fill _ _ env).pooled (Stress.crew_holds _ env now) pool hm
      · obtain ⟨r, -, rfl⟩ := Option.map_eq_some_iff.1 h
        nofun

end LoadFleet
