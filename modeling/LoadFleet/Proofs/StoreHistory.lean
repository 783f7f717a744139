import LoadFleet.Proofs.StoreCalls
/-!
# The past of a store in memory

What a new store in memory does is settled by the calls it served and what they were answered.
Which containers there are, and the value of every key, can be read off these events: a value stays
from the event that wrote it on, until another one writes or removes the key.

* `Ideal.Serves.value?_eq_some_iff`: what one event does to the value of a key.
* `Ideal.Runs.value?_eq_some_iff`: the value of a key is the one that was last written.
* `Ideal.Runs.mem_iff`: containers come from being filled in, apart from the default one.
* `InMemory.faithful_history`: after any calls of a new store, the next one is served as the past
  asks for.
-/

namespace LoadFleet

/-! ### Events -/

namespace InMemory

/-- A call and its answer. -/
structure Event where
  call : Call
  answer : Answer

namespace Event

/-- A key of a container is given a value. -/
inductive Writes : Event → String → String → Bytes → Prop where
  | put {container : Option String} {key : String} {value : Bytes} :
    Writes ⟨.invoke container (.put key value), .response (.ok .stored)⟩
      (containerName container) key value
  | populate {container : String} {count size : UInt64} {i : Nat} (below : i < count.toNat) :
    Writes ⟨.populate container count size, .done⟩ container (keyOf i) (Bytes.zeros size.toNat)

/-- A key of a container is removed, if it is there. -/
inductive Removes : Event → String → String → Prop where
  | remove {container : Option String} {key : String} {present : Bool} :
    Removes ⟨.invoke container (.remove key), .response (.ok (.removed present))⟩
      (containerName container) key

/-- A key of a container is written or removed. -/
def Touches (e : Event) (container key : String) : Prop :=
  (∃ value, e.Writes container key value) ∨ e.Removes container key

variable {call : Call} {container key : String}

/-- A call that failed touches nothing. -/
theorem not_touches_failure {error : StoreError} (asked : call.kind? ≠ none) :
    ¬ Touches ⟨call, call.failure error⟩ container key := by
  cases call with
  | populate | arm => exact absurd rfl asked
  | invoke | iterate | totalSize | hasNext | next | close =>
    rintro (⟨_, writes⟩ | removes)
    · cases writes
    · cases removes

theorem writes_populate_iff {filled : String} {count size : UInt64} {value : Bytes} :
    Writes ⟨.populate filled count size, .done⟩ container key value ↔
      container = filled ∧ (∃ i < count.toNat, key = keyOf i) ∧ value = Bytes.zeros size.toNat := by
  constructor
  · rintro ⟨⟩
    exact ⟨rfl, ⟨_, ‹_›, rfl⟩, rfl⟩
  · rintro ⟨rfl, ⟨i, below, rfl⟩, rfl⟩
    exact .populate below

theorem touches_populate_iff {filled : String} {count size : UInt64} :
    Touches ⟨.populate filled count size, .done⟩ container key ↔
      container = filled ∧ ∃ i < count.toNat, key = keyOf i := by
  constructor
  · rintro (⟨_, writes⟩ | removes)
    · obtain ⟨there, below, -⟩ := writes_populate_iff.1 writes
      exact ⟨there, below⟩
    · cases removes
  · rintro ⟨there, below⟩
    exact .inl ⟨_, writes_populate_iff.2 ⟨there, below, rfl⟩⟩

/-- A request touches its key in its container, if it touches any. -/
theorem touches_invoke {name : Option String} {operation : Operation} {answer : Answer}
    (touches : Touches ⟨.invoke name operation, answer⟩ container key) :
    container = containerName name ∧ key = operation.key ∧ ∀ read, operation ≠ .get read := by
  rcases touches with ⟨_, writes⟩ | removes
  · cases writes
    exact ⟨rfl, rfl, fun _ => Operation.noConfusion⟩
  · cases removes
    exact ⟨rfl, rfl, fun _ => Operation.noConfusion⟩

end Event

/-- The last event that touched a key of a container gave it this value. -/
def LastWritten (past : List Event) (container key : String) (value : Bytes) : Prop :=
  ∃ before e later, past = before ++ e :: later ∧ e.Writes container key value ∧
    ∀ other ∈ later, ¬ other.Touches container key

/-- The last event gives the value, or leaves the one from before. -/
theorem lastWritten_concat {past : List Event} {e : Event} {container key : String}
    {value : Bytes} :
    LastWritten (past ++ [e]) container key value ↔
      e.Writes container key value ∨
        ¬ e.Touches container key ∧ LastWritten past container key value := by
  constructor
  · rintro ⟨before, first, later, whole, writes, kept⟩
    rcases later.eq_nil_or_concat with rfl | ⟨later, last, rfl⟩
    · obtain ⟨-, same⟩ := List.append_inj' whole rfl
      cases same
      exact .inl writes
    · rw [List.concat_eq_append] at whole kept
      obtain ⟨init, same⟩ : past = before ++ first :: later ∧ [e] = [last] :=
        List.append_inj' (by simpa using whole) rfl
      cases same
      refine .inr ⟨kept e (by simp), before, first, later, init, writes, fun other there => ?_⟩
      exact kept other (by simp [there])
  · rintro (writes | ⟨leaves, before, first, later, rfl, writes, kept⟩)
    · exact ⟨past, e, [], rfl, writes, fun _ there => absurd there List.not_mem_nil⟩
    · refine ⟨before, first, later ++ [e], by simp, writes, fun other there => ?_⟩
      rcases List.mem_append.1 there with there | there
      · exact kept other there
      · rw [List.mem_singleton.1 there]
        exact leaves

end InMemory

/-! ### What an event does to an ideal store -/

namespace Ideal

open InMemory (Asks Converts Call Answer Event LastWritten lastWritten_concat keyOf)

/-- The value of a key of a container. -/
def value? (i : Ideal) (container key : String) : Option Bytes :=
  (i.tables.lookup container).bind (Finmap.lookup key)

/-- Goes through events one after the other. -/
inductive Runs (i : Ideal) : List Event → Ideal → Prop where
  | start : Runs i [] i
  | call {past : List Event} {j k : Ideal} {call : Call} {answer : Answer}
    (runs : Runs i past j) (serves : j.Serves call answer k) :
    Runs i (past ++ [⟨call, answer⟩]) k

variable {i j : Ideal} {call : Call} {answer : Answer}

theorem value?_hold (i : Ideal) (container other key : String) (t : Table) :
    (i.hold container t).value? other key =
      if other = container then t.lookup key else i.value? other key := by
  rw [value?, hold]
  by_cases same : other = container
  · rw [same, Finmap.lookup_insert, if_pos rfl]
    rfl
  · rw [Finmap.lookup_insert_of_ne _ same, if_neg same, value?]

/-- Filling in a container and arming faults are never refused. -/
theorem Refuses.kind?_ne_none {error : StoreError} (refuses : i.Refuses call error) :
    call.kind? ≠ none := by
  cases refuses <;> exact Option.some_ne_none _

/-- An event that touches no key of a container leaves its values as they are. -/
theorem value?_iff_of_not_touches {e : Event} {container key : String} {value : Bytes}
    (leaves : ¬ e.Touches container key) :
    i.value? container key = some value ↔ e.Writes container key value ∨
      ¬ e.Touches container key ∧ i.value? container key = some value := by
  have other : ¬ e.Writes container key value := fun writes => leaves (.inl ⟨value, writes⟩)
  simp only [other, leaves, not_false_eq_true, true_and, false_or]

theorem mem_of_known {container : String} {t : Table}
    (known : i.tables.lookup container = some t) : container ∈ i.tables :=
  Finmap.mem_iff.2 ⟨t, known⟩

theorem value?_of_known {container : String} {t : Table} (key : String)
    (known : i.tables.lookup container = some t) : i.value? container key = t.lookup key := by
  rw [value?, known, Option.bind_some]

/-- Filling in the first entries writes their keys, and leaves the other ones as they are. -/
theorem value?_populate_iff {container : String} {count size : UInt64} {t : Table}
    (fills : Table.Fills count size ((i.tables.lookup container).getD ∅) t) (other key : String)
    (value : Bytes) :
    (i.hold container t).value? other key = some value ↔
      Event.Writes ⟨.populate container count size, .done⟩ other key value ∨
        ¬ Event.Touches ⟨.populate container count size, .done⟩ other key ∧
          i.value? other key = some value := by
  rw [Event.writes_populate_iff, Event.touches_populate_iff, value?_hold]
  by_cases same : other = container
  swap
  · simp only [same, if_false, false_and, not_false_eq_true, true_and, false_or]
  by_cases filled : ∃ k < count.toNat, key = keyOf k
  · obtain ⟨k, below, rfl⟩ := filled
    have some : ∃ l < count.toNat, keyOf k = keyOf l := ⟨k, below, rfl⟩
    simp only [same, if_true, some, true_and, not_true, false_and, or_false, fills.filled k below,
      Option.some.injEq, eq_comm]
  · have kept : t.lookup key = i.value? other key := by
      rw [fills.kept key fun k below same => filled ⟨k, below, same⟩, value?, same]
      cases i.tables.lookup container <;> rfl
    simp only [same ▸ kept, same, if_true, filled, false_and, and_false, false_or,
      not_false_eq_true, true_and]

/-- A request leaves all values but the one that it is for. -/
theorem value?_invoke_of_apart {container : Option String} {operation : Operation} {t : Table}
    (known : i.tables.lookup (containerName container) = some t) {other key : String}
    (apart : ¬ (other = containerName container ∧ key = operation.key)) :
    (i.hold (containerName container) (t.after operation)).value? other key =
      i.value? other key := by
  rw [value?_hold]
  split
  · next same =>
    rw [same, value?_of_known key known, t.lookup_after_of_ne fun here => apart ⟨same, here⟩]
  · rfl

/-- A request that is served writes or removes its key, unless it gets the value. -/
theorem value?_invoke_iff {container : Option String} {operation : Operation} {t : Table}
    (known : i.tables.lookup (containerName container) = some t) (other key : String)
    (value : Bytes) :
    (i.hold (containerName container) (t.after operation)).value? other key = some value ↔
      Event.Writes ⟨.invoke container operation, .response (.ok (t.answer operation))⟩
          other key value ∨
        ¬ Event.Touches ⟨.invoke container operation, .response (.ok (t.answer operation))⟩
            other key ∧ i.value? other key = some value := by
  by_cases here : other = containerName container ∧ key = operation.key
  swap
  · rw [value?_invoke_of_apart known here]
    refine value?_iff_of_not_touches fun touches => here ?_
    obtain ⟨there, same, -⟩ := Event.touches_invoke touches
    exact ⟨there, same⟩
  obtain ⟨rfl, rfl⟩ := here
  rw [value?_hold, if_pos rfl]
  cases operation with
  | get read =>
    have kept : t.lookup read = i.value? (containerName container) read :=
      (value?_of_known read known).symm
    rw [Table.after, Operation.key, kept]
    exact value?_iff_of_not_touches fun touches => (Event.touches_invoke touches).2.2 read rfl
  | put written stored =>
    rw [Table.after, Operation.key, Finmap.lookup_insert]
    constructor
    · rintro ⟨⟩
      exact .inl .put
    · rintro (writes | ⟨leaves, -⟩)
      · cases writes
        rfl
      · exact absurd (.inl ⟨stored, .put⟩) leaves
  | remove removed =>
    rw [Table.after, Operation.key, Finmap.lookup_erase]
    constructor
    · rintro ⟨⟩
    · rintro (writes | ⟨leaves, -⟩)
      · cases writes
      · exact absurd (.inr .remove) leaves

/-- **What an event does to the value of a key**: the event may give it, and keeps it unless it
touches the key. -/
theorem Serves.value?_eq_some_iff (serves : i.Serves call answer j) (container key : String)
    (value : Bytes) :
    j.value? container key = some value ↔ Event.Writes ⟨call, answer⟩ container key value ∨
      ¬ Event.Touches ⟨call, answer⟩ container key ∧ i.value? container key = some value := by
  cases serves with
  | fault fault armed =>
    refine value?_iff_of_not_touches (Event.not_touches_failure fun none => ?_)
    rw [Call.fault?, none] at fault
    cases fault
  | refuse unarmed refuses =>
    exact value?_iff_of_not_touches (Event.not_touches_failure refuses.kind?_ne_none)
  | populate fills => exact value?_populate_iff fills container key value
  | invoke unarmed known => exact value?_invoke_iff known container key value
  | arm | iterate | totalSize | hasNext | next | close =>
    refine value?_iff_of_not_touches ?_
    rintro (⟨_, writes⟩ | removes)
    · cases writes
    · cases removes

theorem Serves.value?_of_not_touches (serves : i.Serves call answer j) {container key : String}
    (leaves : ¬ Event.Touches ⟨call, answer⟩ container key) :
    j.value? container key = i.value? container key :=
  Option.ext fun value =>
    (serves.value?_eq_some_iff container key value).trans (value?_iff_of_not_touches leaves).symm

theorem Serves.value?_of_writes (serves : i.Serves call answer j) {container key : String}
    {value : Bytes} (writes : Event.Writes ⟨call, answer⟩ container key value) :
    j.value? container key = some value :=
  (serves.value?_eq_some_iff container key value).2 (.inl writes)

theorem Serves.value?_of_removes (serves : i.Serves call answer j) {container key : String}
    (removes : Event.Removes ⟨call, answer⟩ container key) : j.value? container key = none := by
  refine Option.eq_none_iff_forall_ne_some.2 fun value there => ?_
  rcases (serves.value?_eq_some_iff container key value).1 there with writes | ⟨leaves, -⟩
  · cases removes
    cases writes
  · exact leaves (.inr removes)

/-- A request leaves the other containers as they are. -/
theorem Serves.lookup_of_ne {container : Option String} {operation : Operation}
    (serves : i.Serves (.invoke container operation) answer j) {other : String}
    (apart : other ≠ containerName container) : j.tables.lookup other = i.tables.lookup other := by
  cases serves with
  | fault | refuse => rfl
  | invoke => exact Finmap.lookup_insert_of_ne _ apart

/-- A new store has no values. -/
theorem value?_new (container key : String) : new.value? container key = none := by
  rw [value?, new]
  by_cases same : container = defaultContainer
  · rw [same, Finmap.lookup_singleton_eq]
    rfl
  · rw [Finmap.lookup_eq_none.2 (mt (Finmap.mem_singleton ..).1 same)]
    rfl

/-- **The value of a key is the one that was last written.** -/
theorem Runs.value?_eq_some_iff {past : List Event} (runs : Runs new past i)
    (container key : String) (value : Bytes) :
    i.value? container key = some value ↔ LastWritten past container key value := by
  induction runs with
  | start =>
    rw [value?_new]
    constructor
    · rintro ⟨⟩
    · rintro ⟨before, e, later, none, -⟩
      exact absurd none.symm (by simp)
  | call runs serves ih =>
    rw [serves.value?_eq_some_iff, lastWritten_concat, ih]

theorem mem_hold {container other : String} {t : Table} :
    other ∈ (i.hold container t).tables ↔ other = container ∨ other ∈ i.tables :=
  Finmap.mem_insert

/-- Only filling in a container makes it be there. -/
theorem Serves.mem_iff (serves : i.Serves call answer j) (container : String) :
    container ∈ j.tables ↔ container ∈ i.tables ∨
      ∃ count size, call = .populate container count size := by
  cases serves with
  | @fault call kind _ fault =>
    cases call with
    | populate | arm => cases fault
    | invoke | iterate | totalSize | hasNext | next | close => simp [Ideal.arm]
  | refuse unarmed refuses => cases refuses <;> simp
  | populate fills => simp [mem_hold, eq_comm, or_comm]
  | @invoke name operation t unarmed known =>
    have there (same : container = containerName name) : container ∈ i.tables :=
      same ▸ mem_of_known known
    simp only [mem_hold, or_iff_right_of_imp there, reduceCtorEq, exists_false, or_false]
  | arm | iterate | totalSize | hasNext | next | close => simp [Ideal.arm]

/-- **Containers come from being filled in**, apart from the default one. -/
theorem Runs.mem_iff {past : List Event} (runs : Runs new past i) (container : String) :
    container ∈ i.tables ↔ container = defaultContainer ∨
      ∃ e ∈ past, ∃ count size, e.call = .populate container count size := by
  induction runs with
  | start => simp [new, Finmap.mem_singleton]
  | call runs serves ih =>
    rw [serves.mem_iff, ih, or_assoc]
    simp [or_and_right, exists_or]

/-- A call asks for a container that is not there, or for what is not supported. -/
inductive Lacks (i : Ideal) : Call → Prop where
  | request {container : Option String} {operation : Operation}
    (missing : containerName container ∉ i.tables) : Lacks i (.invoke container operation)
  | cursor {container filter converter : Option String}
    (missing : containerName container ∉ i.tables) : Lacks i (.iterate container filter converter)
  | filter {container filter converter : Option String} (other : ∀ start, ¬ Asks filter start) :
    Lacks i (.iterate container filter converter)
  | converter {container filter converter : Option String}
    (other : ∀ keys, ¬ Converts converter keys) : Lacks i (.iterate container filter converter)
  | size {container : Option String} (missing : containerName container ∉ i.tables) :
    Lacks i (.totalSize container)

theorem Lacks.kind?_ne_none (lacks : i.Lacks call) : call.kind? ≠ none := by
  cases lacks <;> exact Option.some_ne_none _

/-- Such a call fails. -/
theorem Serves.failure_of_lacks (serves : i.Serves call answer j) (lacks : i.Lacks call) :
    ∃ error, answer = call.failure error := by
  cases serves with
  | fault => exact ⟨_, rfl⟩
  | refuse => exact ⟨_, rfl⟩
  | populate | arm | hasNext | next | close => cases lacks
  | invoke unarmed known =>
    cases lacks with
    | request missing => exact absurd (mem_of_known known) missing
  | iterate unarmed asks converts known lists =>
    cases lacks with
    | cursor missing => exact absurd (mem_of_known known) missing
    | filter other => exact absurd asks (other _)
    | converter other => exact absurd converts (other _)
  | totalSize known =>
    cases lacks with
    | size missing => exact absurd (mem_of_known known) missing

/-- A request without a fault is answered from the table of its container. -/
theorem Serves.answer_invoke {container : Option String} {operation : Operation} {t : Table}
    (serves : i.Serves (.invoke container operation) answer j) (unarmed : i.armed .invoke = 0)
    (known : i.tables.lookup (containerName container) = some t) :
    answer = .response (.ok (t.answer operation)) := by
  cases serves with
  | fault fault armed =>
    cases fault
    exact absurd unarmed armed
  | refuse _ refuses =>
    cases refuses with
    | request missing => exact absurd (mem_of_known known) missing
  | invoke _ there =>
    rw [known] at there
    cases there
    rfl

/-- The size of a container is the number of its keys. -/
theorem Serves.answer_totalSize {container : Option String} {t : Table}
    (serves : i.Serves (.totalSize container) answer j)
    (known : i.tables.lookup (containerName container) = some t) :
    answer = .size (.ok (some t.keys.card.toUInt64)) := by
  cases serves with
  | fault fault => cases fault
  | refuse _ refuses =>
    cases refuses with
    | size missing => exact absurd (mem_of_known known) missing
  | totalSize there =>
    rw [known] at there
    cases there
    rfl

/-- A call counts down the faults of its kind, and only those. -/
theorem Serves.armed_eq (serves : i.Serves call answer j) (kind : FaultKind)
    (other : ∀ count, call ≠ .arm kind count) :
    j.armed kind = i.armed kind - if call.fault? = some kind then 1 else 0 := by
  cases serves with
  | @fault call hit _ fault =>
    by_cases same : kind = hit
    · simp [Ideal.arm, fault, same]
    · simp [Ideal.arm, fault, Function.update_of_ne, same, Ne.symm same]
  | refuse unarmed refuses =>
    split
    · next fault => rw [unarmed kind fault]
    · rfl
  | populate | totalSize => rfl
  | @arm hit count =>
    have apart : kind ≠ hit := fun same => other count (same ▸ rfl)
    exact Function.update_of_ne apart ..
  | invoke unarmed | iterate unarmed | hasNext unarmed | next unarmed | close unarmed =>
    split
    · next fault =>
      cases fault
      exact unarmed.trans (by rw [unarmed])
    · rfl

end Ideal

/-! ### The store -/

namespace InMemory

/-- The store after calls. -/
def after (s : InMemory) (calls : List Call) : InMemory :=
  calls.foldl (fun s call => (s.serve call).2) s

/-- The events of calls. -/
def history (s : InMemory) : List Call → List Event
  | [] => []
  | call :: r => ⟨call, (s.serve call).1⟩ :: (s.serve call).2.history r

theorem after_concat (s : InMemory) (calls : List Call) (call : Call) :
    s.after (calls ++ [call]) = ((s.after calls).serve call).2 := by
  rw [after, List.foldl_concat, after]

theorem history_concat (s : InMemory) (calls : List Call) (call : Call) :
    s.history (calls ++ [call]) =
      s.history calls ++ [⟨call, ((s.after calls).serve call).1⟩] := by
  induction calls generalizing s with
  | nil => rfl
  | cons first r ih => exact congrArg _ (ih (s.serve first).2)

/-- **The calls of a store in memory refine those of its ideal.** -/
theorem runs_history (s : InMemory) (calls : List Call) :
    s.ideal.Runs (s.history calls) (s.after calls).ideal := by
  induction calls using List.reverseRecOn with
  | nil => exact .start
  | append_singleton calls call ih =>
    rw [history_concat, after_concat]
    exact .call ih ((s.after calls).serve_refines call)

/-- A call that fails leaves the containers as they are. -/
theorem containers_serve_of_failure {s : InMemory} {call : Call} {error : StoreError}
    (asked : call.kind? ≠ none) (failed : (s.serve call).1 = call.failure error) :
    (s.serve call).2.containers = s.containers := by
  rcases s.armed_or_unarmed call with ⟨kind, fault, armed⟩ | unarmed
  · obtain ⟨reason, served⟩ := serve_of_armed fault armed
    rw [served]
    rfl
  cases call with
  | populate | arm => exact absurd rfl asked
  | invoke container operation =>
    rw [serve, invoke, unlessFault_of_unarmed .invoke (unarmed .invoke rfl)] at failed ⊢
    dsimp only at failed ⊢
    cases known : s.containers.find? (containerName container) with
    | none => rfl
    | some m =>
      rw [known] at failed
      cases failed
  | iterate => rw [serve, iterate, unlessFault_of_unarmed .iterate (unarmed .iterate rfl)]; rfl
  | totalSize => rfl
  | hasNext => rw [serve, hasNext, unlessFault_of_unarmed .hasNext (unarmed .hasNext rfl)]; rfl
  | next c =>
    cases c <;> rw [serve, next, unlessFault_of_unarmed .next (unarmed .next rfl)] <;> rfl
  | close => rw [serve, close, unlessFault_of_unarmed .close (unarmed .close rfl)]; rfl

/-- Faults are not armed without a call for it. -/
theorem faults_serve (s : InMemory) {call : Call} {kind : FaultKind}
    (other : ∀ count, call ≠ .arm kind count) :
    ((s.serve call).2.faults.get kind).toNat =
      (s.faults.get kind).toNat - if call.fault? = some kind then 1 else 0 :=
  (s.serve_refines call).armed_eq kind other

theorem faults_after_le (s : InMemory) {calls : List Call} (kind : FaultKind)
    (quiet : ∀ count, .arm kind count ∉ calls) :
    ((s.after calls).faults.get kind).toNat ≤ (s.faults.get kind).toNat := by
  induction calls generalizing s with
  | nil => exact Nat.le_refl _
  | cons call calls ih =>
    have other (count : UInt32) : call ≠ .arm kind count := fun same =>
      quiet count (same ▸ List.mem_cons_self)
    refine (ih (s.serve call).2 fun count there => quiet count (.tail _ there)).trans ?_
    rw [s.faults_serve other]
    exact Nat.sub_le _ _

/-- A store serves a call as the events before it ask for. -/
structure Faithful (s : InMemory) (past : List Event) (call : Call) : Prop where
  serves : s.ideal.Serves call (s.serve call).1 (s.serve call).2.ideal
  known : ∀ container, container ∈ s.ideal.tables ↔ container = defaultContainer ∨
    ∃ e ∈ past, ∃ count size, e.call = .populate container count size
  /-- A fault is counted down, and nothing else happens. -/
  faulted : ∀ kind, call.fault? = some kind → s.faults.get kind ≠ 0 →
    ∃ reason, s.serve call =
      (call.failure (.unavailable reason), s.arm kind (s.faults.get kind - 1))
  counted : ∀ kind, (∀ count, call ≠ .arm kind count) →
    ((s.serve call).2.faults.get kind).toNat =
      (s.faults.get kind).toNat - if call.fault? = some kind then 1 else 0
  refused : s.ideal.Lacks call → ∃ error, (s.serve call).1 = call.failure error ∧
    (s.serve call).2.containers = s.containers
  gotten : ∀ container key, call = .invoke container (.get key) →
    s.faults.invoke = 0 → containerName container ∈ s.ideal.tables →
    ∃ found, (s.serve call).1 = .response (.ok (.value found)) ∧
      ∀ value, found = some value ↔ LastWritten past (containerName container) key value
  removed : ∀ container key, call = .invoke container (.remove key) →
    s.faults.invoke = 0 → containerName container ∈ s.ideal.tables →
    ∃ present, (s.serve call).1 = .response (.ok (.removed present)) ∧
      (present = true ↔ ∃ value, LastWritten past (containerName container) key value)
  sized : ∀ container, call = .totalSize container → containerName container ∈ s.ideal.tables →
    ∃ keys : Finset String, (s.serve call).1 = .size (.ok (some keys.card.toUInt64)) ∧
      ∀ key, key ∈ keys ↔ ∃ value, LastWritten past (containerName container) key value

/-- **What a new store does is settled by its past.** After any calls, the store is what the ideal
store is after them, and it serves one more call as its past asks for. -/
theorem faithful_history (calls : List Call) (call : Call) :
    Ideal.new.Runs (empty.history calls) (empty.after calls).ideal ∧
      (empty.after calls).Faithful (empty.history calls) call := by
  have runs := ideal_empty ▸ empty.runs_history calls
  generalize empty.after calls = s at runs ⊢
  generalize empty.history calls = past at runs ⊢
  have serves := s.serve_refines call
  have written (container key : String) (value : Bytes) {t : Table}
      (known : s.ideal.tables.lookup container = some t) :
      t.lookup key = some value ↔ LastWritten past container key value := by
    rw [← Ideal.value?_of_known key known]
    exact runs.value?_eq_some_iff container key value
  refine ⟨runs, serves, runs.mem_iff, fun _ => serve_of_armed, fun _ => s.faults_serve,
    fun lacks => ?_, ?_, ?_, ?_⟩
  · obtain ⟨error, failed⟩ := serves.failure_of_lacks lacks
    exact ⟨error, failed, containers_serve_of_failure lacks.kind?_ne_none failed⟩
  · rintro container key rfl unarmed there
    obtain ⟨t, known⟩ := Finmap.mem_iff.1 there
    exact ⟨t.lookup key, serves.answer_invoke ((armed_ideal s .invoke).2 unarmed) known,
      fun value => written _ key value known⟩
  · rintro container key rfl unarmed there
    obtain ⟨t, known⟩ := Finmap.mem_iff.1 there
    refine ⟨key ∈ t, serves.answer_invoke ((armed_ideal s .invoke).2 unarmed) known, ?_⟩
    simp only [← written _ key _ known, decide_eq_true_eq, Finmap.mem_iff]
  · rintro container rfl there
    obtain ⟨t, known⟩ := Finmap.mem_iff.1 there
    refine ⟨t.keys, serves.answer_totalSize known, fun key => ?_⟩
    simp only [← written _ key _ known, Finmap.mem_keys, Finmap.mem_iff]

end InMemory

end LoadFleet
