import LoadFleet.Proofs.Dispatching
/-!
# What a fleet replies

Whatever the workers do, the coordinator has one acknowledgement for each of them in the end, under
the index that it knows the worker by: the worker's own, or one that tells that the worker could not
be reached or was late.

A reply either counts or does not (`Coordinator.counted?`), and `Coordinator.receive?_of_counted`
and `Coordinator.receive?_of_uncounted` tell what is received of a worker then.  Nothing else about
a worker matters, so neither do the other workers.

* `Coordinator.find?_acks`: what stands under an index is what was received of that worker.
* `Coordinator.collect?_congr`: the order of the fleet does not matter, nor does the order in which
  the workers answer.
* `Coordinator.Answered`: what the acknowledgements are, given the replies.
* `Coordinator.dispatch?_answered`: all of this holds for every fleet, every stage and at any time.
-/

namespace LoadFleet

variable {W W' : Type}

theorem map_eq_of_mapM {A B : Type} {f : A → Option B} {l : List A} {r : List B}
    (h : l.mapM f = some r) : l.map f = r.map some := by
  induction l generalizing r with
  | nil => cases h; rfl
  | cons a l ih =>
    rw [List.mapM_cons] at h
    obtain ⟨b, hb, h⟩ := Option.bind_eq_some_iff.1 h
    obtain ⟨s, hs, h⟩ := Option.bind_eq_some_iff.1 h
    cases h
    simp [hb, ih hs]

/-- The acknowledgement without how long the stage took. -/
def Acknowledgement.untimed (a : Acknowledgement) : Acknowledgement := { a with duration := .zero }

namespace Coordinator

/-- The replies of the workers to a stage. -/
def replies (c : Coordinator) (fleet : List (Member W)) (stage : Stage) (now : Instant)
    (world : W) : List (WorkerIndex × Option Reply) :=
  (Fleet.send stage now (c.deadline stage now) fleet world).1

/-- The replies stand in the order of the fleet, one for each worker. -/
theorem replies_indices (c : Coordinator) (fleet : List (Member W)) (stage : Stage)
    (now : Instant) (world : W) :
    (c.replies fleet stage now world).map (·.1) = fleet.map (·.index) := by
  rw [replies]
  generalize c.deadline stage now = deadline
  induction fleet generalizing world with
  | nil => rfl
  | cons m r ih => simp [Fleet.send, ih]

variable {c : Coordinator} {fleet : List (Member W)} {fleet' : List (Member W')} {stage : Stage}
  {now : Instant} {world : W} {world' : W'} {worker : WorkerIndex} {d : Dispatched W}

theorem waitsForever_iff : c.WaitsForever fleet stage now world ↔
    c.deadline stage now = none ∧ ∃ worker, (worker, none) ∈ c.replies fleet stage now world := by
  refine and_congr_right fun h => ?_
  rw [replies, h]

/-! ### What is received of one worker -/

/-- The reply of a worker, if there is one in time. -/
def counted? (c : Coordinator) (stage : Stage) (now : Instant) (reply : Option Reply) :
    Option Reply :=
  reply.filter (·.inTime (c.deadline stage now))

/-- What is received of a worker whose reply counts. -/
def receivedOf (now : Instant) (worker : WorkerIndex) (reply : Reply) : Received where
  worker
  time := reply.time
  ack := match reply.answer with
    | .ok ack => ack
    | .error e => .failure worker (now.spanTo reply.time) (unreachableError worker e)

theorem receive?_of_counted {reply : Option Reply} {given : Reply}
    (h : c.counted? stage now reply = some given) :
    c.receive? stage now worker reply = some (receivedOf now worker given) := by
  obtain ⟨rfl, inTime⟩ := Option.filter_eq_some_iff.1 h
  simp only [receive?, inTime, ↓reduceIte]
  rfl

theorem receive?_of_uncounted {reply : Option Reply} (h : c.counted? stage now reply = none) :
    c.receive? stage now worker reply = c.late? stage now worker := by
  cases reply with
  | none => rfl
  | some given =>
    have late : given.inTime (c.deadline stage now) = false := by
      simpa [counted?, Option.filter] using h
    simp [receive?, late]

/-- A reply before the deadline counts. -/
theorem counted?_of_lt {given : Reply}
    (h : ∀ d, c.deadline stage now = some d → given.time < d) :
    c.counted? stage now (some given) = some given := by
  refine Option.filter_eq_some_iff.2 ⟨rfl, ?_⟩
  cases hd : c.deadline stage now with
  | none => rfl
  | some d => simp [Reply.inTime, h d hd]

/-- A reply after the deadline does not count, no more than none. -/
theorem counted?_of_gt {reply : Option Reply} {d : Instant}
    (limited : c.deadline stage now = some d) (h : ∀ given, reply = some given → d < given.time) :
    c.counted? stage now reply = none := by
  cases reply with
  | none => rfl
  | some given =>
    have late := h given rfl
    have : given.inTime (some d) = false := by
      simp [Reply.inTime, Nat.lt_asymm late, Nat.ne_of_gt late]
    simp [counted?, Option.filter, limited, this]

/-- What is received comes from the worker, and no later than the deadline. -/
theorem receive?_bounds {reply : Option Reply} {r : Received}
    (h : c.receive? stage now worker reply = some r) :
    r.worker = worker ∧ ∀ d, c.deadline stage now = some d → r.time ≤ d := by
  cases hc : c.counted? stage now reply with
  | some given =>
    rw [receive?_of_counted hc] at h
    cases h
    refine ⟨rfl, fun d limited => ?_⟩
    have inTime := (Option.filter_eq_some_iff.1 hc).2
    simp only [limited, Reply.inTime, Option.all_some, Bool.or_eq_true, decide_eq_true_eq,
      Bool.and_eq_true] at inTime
    rcases inTime with before | ⟨same, -⟩
    · exact Nat.le_of_lt before
    · exact Nat.le_of_eq same
  | none =>
    rw [receive?_of_uncounted hc] at h
    obtain ⟨d, limited, rfl⟩ := Option.map_eq_some_iff.1 h
    refine ⟨rfl, fun d' limited' => ?_⟩
    cases limited.symm.trans limited'
    exact Nat.le_refl _

/-- Of replies with the same answer, of which both count or neither does, the same is received,
apart from how long it took. -/
theorem receive?_congr {reply reply' : Option Reply}
    (same : (c.counted? stage now reply).map (·.answer) =
      (c.counted? stage now reply').map (·.answer)) :
    (c.receive? stage now worker reply).map (·.ack.untimed) =
      (c.receive? stage now worker reply').map (·.ack.untimed) := by
  cases hc : c.counted? stage now reply with
  | none =>
    have hc' : c.counted? stage now reply' = none := by simpa [hc] using same.symm
    rw [receive?_of_uncounted hc, receive?_of_uncounted hc']
  | some given =>
    obtain ⟨given', hc', answer⟩ : ∃ given', c.counted? stage now reply' = some given' ∧
        given'.answer = given.answer := by
      simpa [hc] using same.symm
    rw [receive?_of_counted hc, receive?_of_counted hc']
    simp only [Option.map_some, receivedOf, answer]
    cases given.answer <;> rfl

/-! ### What is received of a fleet -/

theorem map_receive? (h : c.collect? fleet stage now world = some d) :
    (c.replies fleet stage now world).map (fun e => c.receive? stage now e.1 e.2) =
      d.received.map some := by
  obtain ⟨received, hr, h⟩ := Option.bind_eq_some_iff.1 h
  cases h
  exact map_eq_of_mapM hr

theorem exists_received (h : c.collect? fleet stage now world = some d)
    {reply : Option Reply} (hm : (worker, reply) ∈ c.replies fleet stage now world) :
    ∃ r ∈ d.received, c.receive? stage now worker reply = some r := by
  have := List.mem_map_of_mem (f := fun e => c.receive? stage now e.1 e.2) hm
  rw [map_receive? h] at this
  obtain ⟨r, hr, same⟩ := List.mem_map.1 this
  exact ⟨r, hr, same.symm⟩

theorem exists_reply (h : c.collect? fleet stage now world = some d) {r : Received}
    (hr : r ∈ d.received) : ∃ worker reply, (worker, reply) ∈ c.replies fleet stage now world ∧
      c.receive? stage now worker reply = some r := by
  have := List.mem_map_of_mem (f := some) hr
  rw [← map_receive? h] at this
  obtain ⟨⟨worker, reply⟩, hm, same⟩ := List.mem_map.1 this
  exact ⟨worker, reply, hm, same⟩

/-- What is received comes from the workers of the fleet, in order. -/
theorem received_workers (h : c.collect? fleet stage now world = some d) :
    d.received.map (·.worker) = fleet.map (·.index) := by
  have workers := congrArg (List.map fun r => r.map Received.worker) (map_receive? h)
  rw [List.map_map, List.map_map] at workers
  have each : ∀ e ∈ c.replies fleet stage now world,
      ((fun r => r.map Received.worker) ∘ fun e => c.receive? stage now e.1 e.2) e =
        some e.1 := by
    intro e he
    obtain ⟨r, -, hr⟩ := exists_received h he
    simp [hr, (receive?_bounds hr).1]
  rw [List.map_congr_left each] at workers
  rw [← c.replies_indices fleet stage now world,
    ← List.map_inj_right fun _ _ => Option.some.inj, List.map_map, List.map_map]
  exact workers.symm

theorem mem_replies {i : WorkerIndex} :
    i ∈ fleet.map (·.index) ↔ ∃ reply, (i, reply) ∈ c.replies fleet stage now world := by
  simp [← c.replies_indices fleet stage now world]

theorem find?_acks_iff (distinct : (fleet.map (·.index)).Nodup)
    (h : c.collect? fleet stage now world = some d) {ack : Acknowledgement} :
    d.acks.find? worker = some ack ↔ ∃ r ∈ d.received, r.worker = worker ∧ r.ack = ack := by
  have nodup : ((d.received.map fun r => (r.worker, r.ack)).map (·.1)).Nodup := by
    rw [List.map_map]
    exact (received_workers h).symm ▸ distinct
  simp [Dispatched.acks, OrderedMap.find?_ofList_iff nodup]

/-- **What stands under an index.**  It is what was received of that worker. -/
theorem find?_acks (distinct : (fleet.map (·.index)).Nodup)
    (h : c.collect? fleet stage now world = some d) {reply : Option Reply}
    (hm : (worker, reply) ∈ c.replies fleet stage now world) :
    d.acks.find? worker = (c.receive? stage now worker reply).map (·.ack) := by
  obtain ⟨r, hr, received⟩ := exists_received h hm
  rw [received]
  exact (find?_acks_iff distinct h).2 ⟨r, hr, (receive?_bounds received).1, rfl⟩

/-- There is an acknowledgement for each worker of the fleet, and no other one. -/
theorem keys_acks (distinct : (fleet.map (·.index)).Nodup)
    (h : c.collect? fleet stage now world = some d) :
    d.acks.keys.Perm (fleet.map (·.index)) := by
  refine (List.perm_ext_iff_of_nodup d.acks.nodup_keys distinct).2 fun i => ?_
  simp only [OrderedMap.mem_keys_iff, find?_acks_iff distinct h, ← received_workers h,
    List.mem_map]
  grind

/-- Nothing stands under an index that no worker of the fleet has. -/
theorem find?_acks_eq_none (distinct : (fleet.map (·.index)).Nodup)
    (h : c.collect? fleet stage now world = some d) (hn : worker ∉ fleet.map (·.index)) :
    d.acks.find? worker = none := by
  refine Option.eq_none_iff_forall_ne_some.2 fun ack hack => hn ?_
  rw [← (keys_acks distinct h).mem_iff, OrderedMap.mem_keys_iff]
  exact ⟨ack, hack⟩

theorem ended_le (h : c.collect? fleet stage now world = some d) {limit : Instant}
    (limited : c.deadline stage now = some limit) : d.ended now ≤ limit := by
  have before : now ≤ limit := Nat.le_trans (Nat.le_add_right _ _) (Clock.alarm?_bounds limited).1
  have all : ∀ r ∈ d.received, r.time ≤ limit := by
    intro r hr
    obtain ⟨_, _, -, received⟩ := exists_reply h hr
    exact (receive?_bounds received).2 limit limited
  rw [Dispatched.ended]
  clear h limited
  generalize d.received = received at all
  induction received generalizing now with
  | nil => exact before
  | cons r rest ih =>
    exact ih (Nat.max_le.2 ⟨before, all r (.head _)⟩) fun s hs => all s (.tail _ hs)

/-- **Order.**  Let two fleets give the same replies, as far as some part of what is received of a
worker depends on them, in any order.  If there are acknowledgements for one of them, there are for
the other one, with the same of that part under each index. -/
theorem collect?_congr {A B : Type} (look : Option Reply → A) (part : Acknowledgement → B)
    (same : ∀ (worker : WorkerIndex) (reply reply' : Option Reply), look reply = look reply' →
      (c.receive? stage now worker reply).map (fun r => part r.ack) =
        (c.receive? stage now worker reply').map fun r => part r.ack)
    (distinct : (fleet.map (·.index)).Nodup)
    (order : ((c.replies fleet' stage now world').map fun e => (e.1, look e.2)).Perm
      ((c.replies fleet stage now world).map fun e => (e.1, look e.2)))
    (h : c.collect? fleet stage now world = some d) :
    ∃ d', c.collect? fleet' stage now world' = some d' ∧
      ∀ i, (d'.acks.find? i).map part = (d.acks.find? i).map part := by
  have other : ∀ {worker reply'}, (worker, reply') ∈ c.replies fleet' stage now world' →
      ∃ reply, (worker, reply) ∈ c.replies fleet stage now world ∧ look reply = look reply' := by
    intro worker reply' hm
    have := order.mem_iff.1 (List.mem_map_of_mem (f := fun e => (e.1, look e.2)) hm)
    obtain ⟨⟨_, reply⟩, found, he⟩ := List.mem_map.1 this
    obtain ⟨rfl, hl⟩ := Prod.ext_iff.1 he
    exact ⟨reply, found, hl⟩
  have indices : (fleet'.map (·.index)).Perm (fleet.map (·.index)) := by
    rw [← c.replies_indices fleet stage now world, ← c.replies_indices fleet' stage now world']
    simpa [Function.comp_def] using order.map (·.1)
  have distinct' := indices.nodup_iff.2 distinct
  cases h' : c.collect? fleet' stage now world' with
  | none =>
    -- a silent worker would be waited for forever in the first fleet as well
    obtain ⟨unlimited, worker, hm'⟩ := waitsForever_iff.1 (collect?_eq_none_iff.1 h')
    obtain ⟨reply, hm, hl⟩ := other hm'
    obtain ⟨r, -, received⟩ := exists_received h hm
    have silent : c.receive? stage now worker none = none :=
      receive?_eq_none_iff.2 ⟨unlimited, rfl⟩
    have := same worker reply none hl
    rw [received, silent] at this
    cases this
  | some d' =>
    refine ⟨d', rfl, fun i => ?_⟩
    by_cases hi : i ∈ fleet'.map (·.index)
    · obtain ⟨reply', hm'⟩ := mem_replies.1 hi
      obtain ⟨reply, hm, hl⟩ := other hm'
      rw [find?_acks distinct' h' hm', find?_acks distinct h hm, Option.map_map, Option.map_map]
      exact (same i reply reply' hl).symm
    · rw [find?_acks_eq_none distinct' h' hi,
        find?_acks_eq_none distinct h fun hm => hi (indices.mem_iff.2 hm)]

/-! ### What is acknowledged -/

theorem dispatch?_eq_some_iff (valid : stage.validate = .ok ()) {e : Ended W Acknowledgements} :
    c.dispatch? fleet stage now world = some e ↔
      ∃ d, c.collect? fleet stage now world = some d ∧ ⟨.ok d.acks, d.ended now, d.world⟩ = e := by
  simp [dispatch?, valid]

/-- How long the coordinator waits for a stage: for its time limit and the slack, as far as a span
can be that long, or as long as it waits for stages without a limit. -/
def waiting (c : Coordinator) (stage : Stage) : Nat :=
  match stage.timeout with
  | some timeout => min (timeout.nanos + c.patience.slack.nanos) Span.max.nanos
  | none => c.patience.timeout.nanos

theorem nanos_span (c : Coordinator) (stage : Stage) :
    (c.patience.span stage).nanos = c.waiting stage := by
  cases h : stage.timeout with
  | none => simp [Patience.span, waiting, h]
  | some timeout => simp [Patience.span, waiting, h, Span.nanos_add]

/-- What the coordinator has when it is done with a stage: acknowledgements of the workers, which
are all there before the deadline.  A reply that comes in time is what stands under the index of the
worker, whatever number is in it; a call that fails in time stands there as an unreachable worker,
and a worker whose reply is late or missing as one that took too long. -/
structure Answered (c : Coordinator) (fleet : List (Member W)) (stage : Stage) (now : Instant)
    (world : W) (acks : Acknowledgements) (time : Instant) : Prop where
  keys : acks.keys.Perm (fleet.map (·.index))
  soon : ∀ d, c.deadline stage now = some d → time ≤ d
  given : ∀ worker reply ack, (worker, some reply) ∈ c.replies fleet stage now world →
    (∀ d, c.deadline stage now = some d → reply.time < d) → reply.answer = .ok ack →
      acks.find? worker = some ack
  unreachable : ∀ worker reply e, (worker, some reply) ∈ c.replies fleet stage now world →
    (∀ d, c.deadline stage now = some d → reply.time < d) → reply.answer = .error e →
      ∃ error, acks.find? worker = some (.failure worker (now.spanTo reply.time) error) ∧
        error.kind = .unreachable
  late : ∀ worker reply d, (worker, reply) ∈ c.replies fleet stage now world →
    c.deadline stage now = some d → (∀ r, reply = some r → d < r.time) →
      ∃ error, acks.find? worker = some (.failure worker (now.spanTo d) error) ∧
        error.kind = .timeout

theorem Answered.of_collect? (distinct : (fleet.map (·.index)).Nodup)
    (h : c.collect? fleet stage now world = some d) :
    Answered c fleet stage now world d.acks (d.ended now) where
  keys := keys_acks distinct h
  soon _ limited := ended_le h limited
  given worker reply ack hm before answer := by
    rw [find?_acks distinct h hm, receive?_of_counted (counted?_of_lt before)]
    simp [receivedOf, answer]
  unreachable worker reply e hm before answer := by
    rw [find?_acks distinct h hm, receive?_of_counted (counted?_of_lt before)]
    exact ⟨unreachableError worker e, by simp [receivedOf, answer], rfl⟩
  late worker reply d hm limited after := by
    rw [find?_acks distinct h hm, receive?_of_uncounted (counted?_of_gt limited after)]
    exact ⟨lateError worker stage (c.patience.span stage), by simp [late?, limited], rfl⟩

/-- **The replies of a fleet.**  A stage that is not valid is refused, and no worker is sent
anything.  Otherwise the coordinator has an acknowledgement for each worker in the end
(`Answered`), unless it waits for a silent worker without a deadline.  Another fleet of which it
gets the same replies in another order leaves it with the same acknowledgements.  If only the
answers that come in time are the same, so are the acknowledgements, apart from how long it took. -/
theorem dispatch?_answered (c : Coordinator) (fleet : List (Member W)) (stage : Stage)
    (now : Instant) (world : W) (distinct : (fleet.map (·.index)).Nodup) :
    (∀ flaw, stage.validate = .error flaw →
      c.dispatch? fleet stage now world = some ⟨.error (.config flaw), now, world⟩ ∧
      ∀ log, c.dispatch? (fleet.map Member.logged) stage now (world, log) =
        some ⟨.error (.config flaw), now, world, log⟩) ∧
    (now + c.waiting stage < Instant.limit → ∃ d, c.deadline stage now = some d ∧
      now + c.waiting stage ≤ d ∧ d < now + c.waiting stage + c.clock.step) ∧
    (Instant.limit ≤ now + c.waiting stage → c.deadline stage now = none) ∧
    (stage.validate = .ok () →
      (c.dispatch? fleet stage now world = none ↔ c.deadline stage now = none ∧
        ∃ worker, (worker, none) ∈ c.replies fleet stage now world) ∧
      ∀ e, c.dispatch? fleet stage now world = some e → ∃ acks, e.result = .ok acks ∧
        Answered c fleet stage now world acks e.time ∧
        ∀ (W' : Type) (fleet' : List (Member W')) (world' : W'),
          ((c.replies fleet' stage now world').Perm (c.replies fleet stage now world) →
            ∃ e', c.dispatch? fleet' stage now world' = some e' ∧ e'.result = .ok acks) ∧
          (((c.replies fleet' stage now world').map fun r =>
              (r.1, (c.counted? stage now r.2).map (·.answer))).Perm
            ((c.replies fleet stage now world).map fun r =>
              (r.1, (c.counted? stage now r.2).map (·.answer))) →
            ∃ e' acks', c.dispatch? fleet' stage now world' = some e' ∧ e'.result = .ok acks' ∧
              ∀ i, (acks'.find? i).map (·.untimed) = (acks.find? i).map (·.untimed))) := by
  refine ⟨fun flaw invalid => ?_, fun near => ?_, fun far => ?_, fun valid => ⟨?_, ?_⟩⟩
  · refine ⟨by simp [dispatch?, invalid], fun log => ?_⟩
    rw [dispatch?_logged, dispatch?, invalid]
    simp
  · rw [← nanos_span] at near ⊢
    exact ⟨_, Clock.alarm?_of_lt near, c.clock.le_roundUp _, c.clock.roundUp_lt _⟩
  · rw [← nanos_span] at far
    exact Clock.alarm?_of_le far
  · rw [← waitsForever_iff, ← collect?_eq_none_iff]
    simp [dispatch?, valid]
  · intro e he
    obtain ⟨d, hd, rfl⟩ := (dispatch?_eq_some_iff valid).1 he
    refine ⟨d.acks, rfl, .of_collect? distinct hd, fun W' fleet' world' => ⟨?_, ?_⟩⟩
    · intro order
      obtain ⟨d', hd', same⟩ := collect?_congr id id
        (fun _ r r' (hr : r = r') => hr ▸ rfl) distinct (by simpa using order) hd
      refine ⟨_, (dispatch?_eq_some_iff valid).2 ⟨d', hd', rfl⟩, congrArg Except.ok ?_⟩
      exact OrderedMap.ext_find? fun i => by simpa using same i
    · intro order
      obtain ⟨d', hd', same⟩ := collect?_congr _ _ (fun _ _ _ => receive?_congr) distinct order hd
      exact ⟨_, d'.acks, (dispatch?_eq_some_iff valid).2 ⟨d', hd', rfl⟩, rfl, same⟩

/-- A worker that always gives the same reply. -/
def scripted (index : WorkerIndex) (reply : Option Reply) : Member Unit :=
  ⟨index, fun _ _ _ world => (reply, world)⟩

/-- Three workers: one answers in the name of another one, the call of one fails, and one is
silent. -/
def unlike : List (Member Unit) :=
  [scripted 4 (some ⟨3, true, .ok (.success 7 .zero .none)⟩),
    scripted 2 (some ⟨5, true, .error (.transport 2 [])⟩), scripted 9 none]

/-- A coordinator that waits for ten nanoseconds. -/
def hasty : Coordinator := ⟨.exact, { timeout := .ofNanos 10 }⟩

/-- A stage that looks at the topology once. -/
def glance : Stage := { name := "glance", kind := .checkTopology {} }

/-- What a hasty coordinator has of the three workers. -/
theorem dispatch?_answered_unlike :
    (unlike.map (·.index)).Nodup ∧
    ∃ e acks, hasty.dispatch? unlike glance 0 () = some e ∧ e.result = .ok acks ∧ e.time ≤ 10 ∧
      acks.keys.Perm [4, 2, 9] ∧ acks.find? 4 = some (.success 7 .zero .none) ∧
      (∃ error, acks.find? 2 = some (.failure 2 (.ofNanos 5) error) ∧
        error.kind = .unreachable) ∧
      ∃ error, acks.find? 9 = some (.failure 9 (.ofNanos 10) error) ∧ error.kind = .timeout := by
  have distinct : (unlike.map (·.index)).Nodup := by decide
  have limited : hasty.deadline glance 0 = some 10 := by decide
  have replies : hasty.replies unlike glance 0 () =
    [(4, some ⟨3, true, .ok (.success 7 .zero .none)⟩),
      (2, some ⟨5, true, .error (.transport 2 [])⟩), (9, none)] := rfl
  obtain ⟨-, -, -, valid⟩ := dispatch?_answered hasty unlike glance 0 () distinct
  obtain ⟨forever, ends⟩ := valid rfl
  have returns : hasty.dispatch? unlike glance 0 () ≠ none := by simp [forever, limited]
  obtain ⟨e, he⟩ := Option.ne_none_iff_exists'.1 returns
  obtain ⟨acks, hacks, answered, -⟩ := ends e he
  refine ⟨distinct, e, acks, he, hacks, answered.soon 10 limited, answered.keys, ?_, ?_, ?_⟩
  · exact answered.given 4 ⟨3, true, .ok (.success 7 .zero .none)⟩ _ (by simp [replies])
      (by simp [limited]) rfl
  · exact answered.unreachable 2 ⟨5, true, .error (.transport 2 [])⟩ _ (by simp [replies])
      (by simp [limited]) rfl
  · exact answered.late 9 none 10 (by simp [replies]) limited (by simp)

end Coordinator

end LoadFleet
