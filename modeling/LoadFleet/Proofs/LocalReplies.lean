import LoadFleet.Proofs.FleetReplies
import LoadFleet.Proofs.LocalWorkers
/-!
# Replies of workers beside the coordinator

A worker gives its stressors the time limit of a stage and a grace period, and the coordinator waits
for the time limit and a slack.  Each of them waits without end if its clock cannot represent the
end.  As long as the grace period is shorter than the slack, the two never cross: a worker that runs
beside the coordinator acknowledges a stage before the coordinator stops waiting, whatever its
stressors do.

* `Clock.alarm?_before`: the grace period is over before the coordinator stops waiting.
* `Worker.Comes.soon`: every worker comes to an acknowledgement by then.
* `Coordinator.PatientWith`: the fleets that this is about.
* `Coordinator.dispatch?_own`: the main statement.
-/

namespace LoadFleet

/-! ### Two deadlines -/

namespace Clock

/-- A span is shorter than another one by this clock: it is over before the other one, however the
alarms that are set for their ends are rounded up. -/
def Shorter (c : Clock) (a b : Span) : Prop := c.roundUp a.nanos + c.step ≤ b.nanos

instance (c : Clock) (a b : Span) : Decidable (c.Shorter a b) :=
  inferInstanceAs (Decidable (_ ≤ _))

/-- By the exact clock that is all there is to it. -/
theorem exact_shorter_iff {a b : Span} : exact.Shorter a b ↔ a.nanos < b.nanos := by
  rw [Shorter, roundUp_exact]
  exact Iff.rfl

theorem roundUp_add {c : Clock} {n : Nat} (whole : c.step ∣ n) (t : Instant) :
    c.roundUp (t + n) = c.roundUp t + n := by
  obtain ⟨k, rfl⟩ := whole
  have regroup : t + c.step * k + (c.step - 1) = t + (c.step - 1) + c.step * k :=
    Nat.add_right_comm ..
  rw [roundUp, roundUp, regroup, Nat.add_mul_div_left _ _ c.positive, Nat.add_mul,
    Nat.mul_comm k]

variable {c : Clock} {timeout grace slack : Span}

/-- An alarm is set for a time and, when it goes off, another one for the shorter span. That one goes
off before the longer span, counted from that time, is over. -/
theorem Shorter.roundUp_lt (shorter : c.Shorter grace slack) (t : Instant) :
    c.roundUp (c.roundUp t + grace.nanos) < t + slack.nanos := by
  have whole : c.step ∣ c.roundUp t := Nat.dvd_mul_left ..
  calc c.roundUp (c.roundUp t + grace.nanos)
      = c.roundUp grace.nanos + c.roundUp t := by rw [Nat.add_comm, roundUp_add whole]
    _ < c.roundUp grace.nanos + (t + c.step) := Nat.add_lt_add_left (c.roundUp_lt _) _
    _ = t + (c.roundUp grace.nanos + c.step) := Nat.add_left_comm ..
    _ ≤ t + slack.nanos := Nat.add_le_add_left shorter _

/-- A sum of spans that is cut off lies beyond what a clock can represent. -/
theorem nanos_add_of_near {a b : Span} {now : Instant} (near : now + (a + b).nanos < Instant.limit) :
    (a + b).nanos = a.nanos + b.nanos := by
  have longest : Instant.limit ≤ Span.max.nanos := by decide
  have short : (a + b).nanos < Span.max.nanos :=
    Nat.lt_of_le_of_lt (Nat.le_add_left _ now) (Nat.lt_of_lt_of_le near longest)
  rw [Span.nanos_add] at short ⊢
  omega

/-- **The grace period is over before the slack is.** If the clock can represent the end of the
slack, it can represent the time limit and the end of the grace period. -/
theorem alarm?_before {now d : Instant} (shorter : c.Shorter grace slack)
    (h : c.alarm? now (timeout + slack) = some d) :
    ∃ t g, c.alarm? now timeout = some t ∧ c.alarm? t grace = some g ∧ g < d := by
  have near : now + (timeout + slack).nanos < Instant.limit := by
    refine Nat.not_le.1 fun far => ?_
    rw [alarm?_of_le far] at h
    cases h
  obtain ⟨late, -⟩ := alarm?_bounds h
  have sum := nanos_add_of_near near
  rw [sum, ← Nat.add_assoc] at near late
  have limited : now + timeout.nanos < Instant.limit :=
    Nat.lt_of_le_of_lt (Nat.le_add_right _ _) near
  have before := shorter.roundUp_lt (now + timeout.nanos)
  have reach : c.roundUp (now + timeout.nanos) + grace.nanos < Instant.limit :=
    Nat.lt_of_le_of_lt (c.le_roundUp _) (Nat.lt_trans before near)
  exact ⟨_, _, alarm?_of_lt limited, alarm?_of_lt reach, Nat.lt_of_lt_of_le before late⟩

end Clock

/-! ### The end of a pool -/

theorem callEnd?_atOnce (clock : Clock) {store : Simulated}
    (atOnce : store.manners.TellsSizeAtOnce) (now : Instant) :
    ∃ fate, callEnd? clock store .totalSize now = some (now, fate) := by
  obtain ⟨short, answered | ⟨e, fails⟩⟩ := atOnce
  · exact ⟨.ok (), by simp [callEnd?, short, answered]⟩
  · exact ⟨.error e, by simp [callEnd?, short, fails]⟩

namespace Worker

variable {w : Worker} {clock : Clock} {stage : Stage} {now : Instant}

/-- **Every worker comes to an acknowledgement before the slack is over**, if its grace period is
shorter than the slack. -/
theorem Comes.soon {came : Option (Instant × Acknowledgement)}
    (comes : w.Comes clock stage now came) {timeout slack : Span}
    (limited : stage.timeout = some timeout) (shorter : clock.Shorter w.grace slack) {d : Instant}
    (waits : clock.alarm? now (timeout + slack) = some d) :
    ∃ t ack, came = some (t, ack) ∧ t < d := by
  obtain ⟨t, g, limit, grace, before⟩ := Clock.alarm?_before shorter waits
  have start : now < d := by
    have limited := Nat.le_trans (Nat.le_add_right _ _) (Clock.alarm?_bounds limit).1
    have graced := Nat.le_trans (Nat.le_add_right _ _) (Clock.alarm?_bounds grace).1
    exact Nat.lt_of_le_of_lt (Nat.le_trans limited graced) before
  have deadline : Pool.deadline clock (w.limits stage) now = some t := by
    simpa [Pool.deadline, limits, limited] using limit
  cases comes with
  | skipped => exact ⟨now, _, rfl, start⟩
  | refused => exact ⟨now, _, rfl, start⟩
  | @iterated settings kind squad atOnce =>
    rcases Pool.run_within clock (w.limits stage) now squad with ⟨-, endless⟩ |
      ⟨o, ran, ⟨stop, after⟩, -, -, soon⟩
    · cases (endless t deadline).symm.trans grace
    · have after : o.after.manners.TellsSizeAtOnce := after ▸ atOnce stop
      obtain ⟨fate, told⟩ := callEnd?_atOnce clock after o.ended
      obtain ⟨r, left, done⟩ : ∃ r left,
          w.iterateWith clock stage settings now squad = some (o.ended, r, left) := by
        simp [iterateWith, ran, told]
      refine ⟨o.ended, w.acknowledge now o.ended r, by rw [done]; rfl, ?_⟩
      exact Nat.lt_of_le_of_lt (soon t g deadline grace) before
  | stressed kind squad =>
    rcases Pool.run_within clock (w.limits stage) now squad with ⟨-, endless⟩ |
      ⟨o, ran, -, -, -, soon⟩
    · cases (endless t deadline).symm.trans grace
    · obtain ⟨r, left, done⟩ : ∃ r left,
          w.stressWith clock stage now squad = some (o.ended, r, left) := by
        simp [stressWith, ran]
      refine ⟨o.ended, w.acknowledge now o.ended r, by rw [done]; rfl, ?_⟩
      exact Nat.lt_of_le_of_lt (soon t g deadline grace) before

end Worker

/-! ### What the coordinator comes to -/

namespace Coordinator

variable {W : Type}

/-- The coordinator is patient with a fleet: its workers run beside it, by its clock, with grace
periods that are shorter than its slack. -/
def PatientWith (c : Coordinator) (fleet : List (Member W)) (Keeps : W → Prop) (stage : Stage)
    (now : Instant) : Prop :=
  ∀ m ∈ fleet, ∃ w : Worker, m.Beside Keeps w c.clock stage now ∧
    c.clock.Shorter w.grace c.patience.slack

variable {c : Coordinator} {fleet : List (Member W)} {Keeps : W → Prop} {stage : Stage}
  {now : Instant} {world : W} {worker : WorkerIndex} {reply : Option Reply}

/-- A worker that replies gives its own acknowledgement. -/
theorem PatientWith.own (patient : c.PatientWith fleet Keeps stage now) (kept : Keeps world)
    (hm : (worker, reply) ∈ c.replies fleet stage now world) :
    ∃ (w : Worker) (came : Option (Instant × Acknowledgement)) (punctual : Bool),
      w.Comes c.clock stage now came ∧ w.index = worker ∧
      c.clock.Shorter w.grace c.patience.slack ∧
      reply = came.map fun e => ⟨e.1, punctual, .ok e.2⟩ := by
  have keeps (m : Member W) (hm : m ∈ fleet) (world : W) (kept : Keeps world) :
      Keeps (m.serve stage now (c.deadline stage now) world).2 := by
    obtain ⟨w, beside, -⟩ := patient m hm
    exact beside.keeps _ world kept
  obtain ⟨m, member, world', kept', rfl, rfl⟩ := Fleet.mem_send (fun _ => True)
    (fun m member world kept _ => keeps m member world kept) (fun _ _ => trivial) kept hm
  obtain ⟨w, beside, shorter⟩ := patient m member
  obtain ⟨came, punctual, comes, served⟩ := beside.replies (c.deadline stage now) world' kept'
  exact ⟨w, came, punctual, comes, beside.index.symm, shorter, served⟩

/-- **Every worker acknowledges before the coordinator stops waiting.** -/
theorem PatientWith.soon (patient : c.PatientWith fleet Keeps stage now) (kept : Keeps world)
    {timeout : Span} (limited : stage.timeout = some timeout)
    (hm : (worker, reply) ∈ c.replies fleet stage now world) {d : Instant}
    (waits : c.deadline stage now = some d) :
    ∃ r ack, reply = some r ∧ r.answer = .ok ack ∧ ack.worker = worker ∧ r.time < d := by
  obtain ⟨w, came, punctual, comes, rfl, shorter, rfl⟩ := patient.own kept hm
  rw [deadline, Patience.span, limited] at waits
  obtain ⟨t, ack, rfl, before⟩ := comes.soon limited shorter waits
  exact ⟨⟨t, punctual, .ok ack⟩, ack, rfl, rfl, comes.worker_eq, before⟩

/-- **No acknowledgement is made up for a worker.** Let the workers of a fleet run beside the
coordinator, with grace periods shorter than its slack, and let a stage for stressors have a time
limit. Whatever the stressors do, each worker acknowledges the stage before the coordinator stops
waiting. What the coordinator comes to, with or without a deadline, holds the own acknowledgement of
each worker, and with a deadline it always comes to that. -/
theorem dispatch?_own (c : Coordinator) (fleet : List (Member W)) (stage : Stage) (now : Instant)
    (world : W) (Keeps : W → Prop) (kept : Keeps world) (timeout : Span)
    (limited : stage.timeout = some timeout) (distinct : (fleet.map (·.index)).Nodup)
    (patient : c.PatientWith fleet Keeps stage now) :
    (∀ d, c.deadline stage now = some d →
      ∀ worker reply, (worker, reply) ∈ c.replies fleet stage now world →
        ∃ r ack, reply = some r ∧ r.answer = .ok ack ∧ ack.worker = worker ∧ r.time < d) ∧
    (stage.validate = .ok () →
      (∀ d, c.deadline stage now = some d → c.dispatch? fleet stage now world ≠ none) ∧
      ∀ e, c.dispatch? fleet stage now world = some e → ∃ acks, e.result = .ok acks ∧
        acks.keys.Perm (fleet.map (·.index)) ∧
        ∀ worker reply, (worker, reply) ∈ c.replies fleet stage now world →
          ∃ r ack, reply = some r ∧ r.answer = .ok ack ∧ ack.worker = worker ∧
            acks.find? worker = some ack) := by
  refine ⟨fun d waits worker reply hm => patient.soon kept limited hm waits, fun valid => ⟨?_, ?_⟩⟩
  · intro d waits none
    rcases c.dispatch?_of_valid fleet now world valid with ⟨-, forever⟩ | ⟨-, _, _, _, some⟩
    · cases forever.1.symm.trans waits
    · cases none.symm.trans some
  · intro e he
    obtain ⟨received, hd, rfl⟩ := (dispatch?_eq_some_iff valid).1 he
    refine ⟨received.acks, rfl, keys_acks distinct hd, fun worker reply hm => ?_⟩
    have counts : ∃ r ack, reply = some r ∧ r.answer = .ok ack ∧ ack.worker = worker ∧
        ∀ d, c.deadline stage now = some d → r.time < d := by
      cases waits : c.deadline stage now with
      | some d =>
        obtain ⟨r, ack, given, answer, own, before⟩ := patient.soon kept limited hm waits
        refine ⟨r, ack, given, answer, own, fun d' same => ?_⟩
        cases same
        exact before
      | none =>
        -- a worker that never replies would be waited for forever
        obtain ⟨w, came, punctual, comes, rfl, -, rfl⟩ := patient.own kept hm
        cases came with
        | none =>
          have forever := waitsForever_iff.2 ⟨waits, _, hm⟩
          cases (collect?_eq_none_iff.2 forever).symm.trans hd
        | some came => exact ⟨_, came.2, rfl, rfl, comes.worker_eq, nofun⟩
    obtain ⟨r, ack, rfl, answer, own, before⟩ := counts
    refine ⟨r, ack, rfl, answer, own, ?_⟩
    rw [find?_acks distinct hd hm, receive?_of_counted (counted?_of_lt before)]
    simp [receivedOf, answer]

/-- A store whose cursors never tell whether they have more. -/
def silent : Simulated :=
  { Simulated.plain "memory" .empty with manners := { hanging := [.hasNext] } }

/-- A stage that iterates over it, and may take a second. -/
def endless : Stage :=
  { name := "endless", timeout := some (.ofSeconds 1), kind := .iterate {} }

/-- Two workers that share the store. -/
def pair : Site := ⟨⟨.milliseconds, silent, .empty, .ofNanos 0, 0, 0⟩,
  [.start 3 Worker.defaultGrace, .start 8 Worker.defaultGrace]⟩

/-- The members of a fleet that the two workers are. -/
def pairFleet : List (Member Site) :=
  [Site.member id (fun s _ => s) 0 3, Site.member id (fun s _ => s) 1 8]

/-- All stressors hang, and both workers still acknowledge the stage themselves. -/
theorem dispatch?_own_hanging :
    let c : Coordinator := ⟨.milliseconds, {}⟩
    c.deadline endless 0 = some 16000000000 ∧
    ∃ e acks, c.dispatch? pairFleet endless 0 pair = some e ∧ e.result = .ok acks ∧
      acks.keys.Perm [3, 8] ∧
      ∀ worker reply, (worker, reply) ∈ c.replies pairFleet endless 0 pair →
        ∃ r ack, reply = some r ∧ r.answer = .ok ack ∧ ack.worker = worker ∧
          acks.find? worker = some ack ∧ r.time < 16000000000 := by
  intro c
  have waits : c.deadline endless 0 = some 16000000000 := by decide
  have beside (position : Nat) (w : Worker) (here : pair.workers[position]? = some w) :
      (Site.member id (fun s _ => s) position w.index).Beside
        (fun s => Site.Keeps pair.workers .milliseconds silent.manners s) w .milliseconds endless
        0 :=
    Site.member_beside (fun _ _ => rfl) ⟨rfl, .inl (by decide)⟩ here rfl 0
  have patient : c.PatientWith pairFleet
      (fun s => Site.Keeps pair.workers .milliseconds silent.manners s) endless 0 := by
    refine List.forall_mem_cons.2 ⟨?_, List.forall_mem_singleton.2 ?_⟩
    · exact ⟨_, beside 0 (.start 3 Worker.defaultGrace) rfl, by decide⟩
    · exact ⟨_, beside 1 (.start 8 Worker.defaultGrace) rfl, by decide⟩
  obtain ⟨soon, valid⟩ := c.dispatch?_own pairFleet endless 0 pair _ ⟨rfl, rfl, rfl⟩ _ rfl
    (by decide) patient
  obtain ⟨returns, own⟩ := valid rfl
  obtain ⟨e, he⟩ := Option.ne_none_iff_exists'.1 (returns _ waits)
  obtain ⟨acks, hacks, keys, all⟩ := own e he
  refine ⟨waits, e, acks, he, hacks, keys, fun worker reply hm => ?_⟩
  obtain ⟨r, ack, rfl, answer, named, kept⟩ := all worker reply hm
  obtain ⟨_, _, same, -, -, before⟩ := soon _ waits worker (some r) hm
  cases same
  exact ⟨r, ack, rfl, answer, named, kept, before⟩

end Coordinator

end LoadFleet
