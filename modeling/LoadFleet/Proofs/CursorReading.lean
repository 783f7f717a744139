import LoadFleet.Proofs.StoreCalls
/-!
# Reading from a cursor

A `Reader` has a cursor of a store in memory, which others call in between. It asks whether there
is more, or for the next entry. What the cursor was opened over is what it gives, whatever the
others do and whichever calls fail.

* `InMemory.Reader.act_cases`: an act goes as without faults, or a fault is injected.
* `InMemory.Reader.given_run_append_rest`: by induction over acts, what was given and what is left
  make up what the cursor was opened over.
* `InMemory.Reader.run_eq_plain`: what a cursor tells as long as no fault is injected.
* `InMemory.Reader.more_iff_exhausted`: whether there is more tells what becomes of the next step.
* `InMemory.Reader.gives_listing`: the main statement.
-/

namespace LoadFleet.InMemory

/-- What happens while a cursor is in use: others call the store, or the cursor is asked whether it
has more, or for the next entry. -/
inductive Act where
  | call (call : Call)
  | more
  | next

/-- The reader does something, and not the others. -/
def Act.own : Act → Bool
  | call _ => false
  | more | next => true

/-- What a cursor tells. -/
inductive Told where
  | more (answer : Except StoreError Bool)
  | next (answer : Except StoreError Entry)

namespace Told

/-- The entry that is given, if one is. -/
def given? : Told → Option Entry
  | next (.ok e) => some e
  | _ => none

/-- A fault was injected. -/
inductive Injected : Told → Prop where
  | more {error : StoreError} : Injected (.more (.error error))
  | next : Injected (.next (.error (.unavailable "injected next failure")))

/-- There was nothing to give. -/
def exhausted : Told := .next (.error (.unavailable "cursor is exhausted"))

end Told

/-- A cursor in use: the store as it is, and the entries that are left. -/
structure Reader where
  store : InMemory
  rest : Cursor

namespace Reader

/-- What an act makes the cursor tell, and the reader after it. -/
def act (r : Reader) : Act → List Told × Reader
  | .call call => ([], { r with store := (r.store.serve call).2 })
  | .more =>
    let (answer, store) := r.store.hasNext r.rest
    ([.more answer], { r with store })
  | .next =>
    match r.store.next r.rest with
    | (.ok (e, rest), store) => ([.next (.ok e)], ⟨store, rest⟩)
    | (.error error, store) => ([.next (.error error)], { r with store })

/-- What the cursor tells in the course of acts, and the reader after them. -/
def run (r : Reader) : List Act → List Told × Reader
  | [] => ([], r)
  | a :: acts => ((r.act a).1 ++ ((r.act a).2.run acts).1, ((r.act a).2.run acts).2)

/-- The entries that are given. -/
def given (told : List Told) : List Entry := told.filterMap Told.given?

/-- Asks for so many entries, each after asking whether there is more, and whether there is more in
the end. -/
def draining (count : Nat) : List Act :=
  (List.replicate count [Act.more, Act.next]).flatten ++ [.more]

/-- What a cursor tells without faults, if these entries are left. -/
def tells : Cursor → Act → List Told
  | _, .call _ => []
  | c, .more => [.more (.ok !c.isEmpty)]
  | [], .next => [.exhausted]
  | e :: _, .next => [.next (.ok e)]

/-- The entries that are left after an act without faults. -/
def leaves (c : Cursor) : Act → Cursor
  | .call _ | .more => c
  | .next => c.tail

/-- What a cursor tells in the course of acts without faults. -/
def plain (c : Cursor) : List Act → List Told
  | [] => []
  | a :: acts => tells c a ++ plain (leaves c a) acts

/-- Tells of every entry that there is more and what it is, and of the end that there is not. -/
def drained (c : Cursor) : List Told :=
  c.flatMap (fun e => [.more (.ok true), .next (.ok e)]) ++ [.more (.ok false)]

variable {r : Reader}

/-! ### One act -/

theorem act_more_of_unarmed (unarmed : r.store.faults.hasNext = 0) :
    r.act .more = (tells r.rest .more, r) := by
  rw [act, hasNext, unlessFault_of_unarmed .hasNext unarmed]
  rfl

theorem act_next_of_unarmed (unarmed : r.store.faults.next = 0) :
    r.act .next = (tells r.rest .next, { r with rest := r.rest.tail }) := by
  obtain ⟨store, rest⟩ := r
  cases rest <;> rw [act, InMemory.next, unlessFault_of_unarmed .next unarmed] <;> rfl

/-- **What an act does.** It goes as without faults, or a fault is injected and nothing else
happens to the cursor. -/
theorem act_cases (r : Reader) (a : Act) :
    (r.act a).1 = tells r.rest a ∧ (r.act a).2.rest = leaves r.rest a ∨
      (∃ t : Told, t.Injected ∧ (r.act a).1 = [t]) ∧ (r.act a).2.rest = r.rest := by
  cases a with
  | call call => exact .inl ⟨rfl, rfl⟩
  | more =>
    by_cases unarmed : r.store.faults.hasNext = 0
    · rw [act_more_of_unarmed unarmed]
      exact .inl ⟨rfl, rfl⟩
    · rw [act, hasNext, unlessFault_of_armed .hasNext unarmed]
      exact .inr ⟨⟨_, .more, rfl⟩, rfl⟩
  | next =>
    by_cases unarmed : r.store.faults.next = 0
    · rw [act_next_of_unarmed unarmed]
      exact .inl ⟨rfl, rfl⟩
    · rw [act, InMemory.next.eq_def, unlessFault_of_armed .next unarmed]
      exact .inr ⟨⟨_, .next, rfl⟩, rfl⟩

theorem given_append (told later : List Told) : given (told ++ later) = given told ++ given later :=
  List.filterMap_append

theorem given_tells_append_leaves (c : Cursor) (a : Act) :
    given (tells c a) ++ leaves c a = c := by
  cases a with
  | call | more => rfl
  | next => cases c <;> rfl

/-- An act gives the entry that it takes away from those that are left. -/
theorem given_act_append_rest (r : Reader) (a : Act) :
    given (r.act a).1 ++ (r.act a).2.rest = r.rest := by
  rcases r.act_cases a with ⟨told, rest⟩ | ⟨⟨t, injected, told⟩, rest⟩
  · rw [told, rest, given_tells_append_leaves]
  · rw [told, rest]
    cases injected <;> rfl

/-! ### Many acts -/

/-- **What was given and what is left** make up what was left at first. -/
theorem given_run_append_rest (r : Reader) (acts : List Act) :
    given (r.run acts).1 ++ (r.run acts).2.rest = r.rest := by
  induction acts generalizing r with
  | nil => rfl
  | cons a acts ih => rw [run, given_append, List.append_assoc, ih, given_act_append_rest]

/-- A cursor tells that it is at its end. -/
def Ended (told : List Told) : Prop := .more (.ok false) ∈ told ∨ .exhausted ∈ told

theorem ended_append {told later : List Told} :
    Ended (told ++ later) ↔ Ended told ∨ Ended later := by
  simp only [Ended, List.mem_append]
  tauto

/-- Nothing is left when a cursor tells that it is at its end. -/
theorem rest_of_ended_act {a : Act} (ended : Ended (r.act a).1) : (r.act a).2.rest = [] := by
  rcases r.act_cases a with ⟨told, rest⟩ | ⟨⟨t, injected, told⟩, -⟩
  · rw [told] at ended
    rw [rest]
    cases a with
    | call => simp [Ended, tells] at ended
    | more => simpa [Ended, tells, leaves, Told.exhausted] using ended
    | next =>
      cases left : r.rest with
      | nil => rfl
      | cons e c => simp [Ended, tells, left, Told.exhausted] at ended
  · rw [told] at ended
    cases injected <;> simp [Ended, Told.exhausted] at ended

/-- **A cursor that told that it is at its end has given everything.** -/
theorem rest_of_ended {acts : List Act} (ended : Ended (r.run acts).1) :
    (r.run acts).2.rest = [] := by
  induction acts generalizing r with
  | nil => simp [Ended, run] at ended
  | cons a acts ih =>
    rw [run] at ended ⊢
    rcases ended_append.1 ended with ended | ended
    · have kept := given_run_append_rest (r.act a).2 acts
      rw [rest_of_ended_act ended] at kept
      exact (List.append_eq_nil_iff.1 kept).2
    · exact ih ended

/-- **What a cursor tells as long as no fault is injected** is what it tells without faults. -/
theorem run_eq_plain {acts : List Act} (faultless : ∀ t ∈ (r.run acts).1, ¬ t.Injected) :
    (r.run acts).1 = plain r.rest acts := by
  induction acts generalizing r with
  | nil => rfl
  | cons a acts ih =>
    rw [run] at faultless ⊢
    have later := ih fun t there => faultless t (List.mem_append_right _ there)
    rcases r.act_cases a with ⟨told, rest⟩ | ⟨⟨t, injected, told⟩, -⟩
    · rw [plain, later, told, rest]
    · refine absurd injected (faultless t (List.mem_append_left _ ?_))
      rw [told]
      exact List.mem_singleton_self t

theorem plain_filter_own (c : Cursor) (acts : List Act) :
    plain c (acts.filter Act.own) = plain c acts := by
  induction acts generalizing c with
  | nil => rfl
  | cons a acts ih =>
    cases a with
    | call => exact (ih c).trans rfl
    | more | next => exact congrArg (tells c _ ++ ·) (ih (leaves c _))

theorem plain_draining (c : Cursor) : plain c (draining c.length) = drained c := by
  induction c with
  | nil => rfl
  | cons e c ih =>
    have ahead : draining (e :: c).length = .more :: .next :: draining c.length := rfl
    rw [ahead]
    exact congrArg (fun told => .more (.ok true) :: .next (.ok e) :: told) ih

/-- **Whether there is more** is whether the next entry will be there, as soon as no fault is
injected. -/
theorem more_iff_exhausted {more : Bool} {between : List Act}
    (told : (r.act .more).1 = [.more (.ok more)])
    (waiting : given ((r.act .more).2.run between).1 = [])
    (unarmed : ((r.act .more).2.run between).2.store.faults.next = 0) :
    more = false ↔ (((r.act .more).2.run between).2.act .next).1 = [.exhausted] := by
  rcases r.act_cases .more with ⟨tells, rest⟩ | ⟨⟨t, injected, tells⟩, -⟩
  swap
  · rw [told] at tells
    cases tells
    cases injected
  have left : ((r.act .more).2.run between).2.rest = r.rest := by
    have kept := given_run_append_rest (r.act .more).2 between
    rwa [waiting, rest] at kept
  have same : more = r.rest.isEmpty.not := by
    rw [told] at tells
    simpa [Reader.tells] using tells
  rw [act_next_of_unarmed unarmed, left, same]
  cases r.rest <;> simp [Reader.tells, Told.exhausted]

/-- **Asked for everything**, a cursor gives it, unless there are faults. -/
theorem drain_of_unarmed {s : InMemory} (unasked : s.faults.hasNext = 0)
    (unarmed : s.faults.next = 0) (c : Cursor) : s.drain c = ⟨c.map .ok, none, s⟩ := by
  have enough {rounds : Nat} (many : c.length < rounds) :
      drainFor rounds s c = ⟨c.map .ok, none, s⟩ := by
    induction c generalizing rounds with
    | nil =>
      obtain ⟨rounds, rfl⟩ := Nat.exists_eq_succ_of_ne_zero (Nat.ne_zero_of_lt many)
      rw [drainFor, hasNext, unlessFault_of_unarmed .hasNext unasked]
      rfl
    | cons e c ih =>
      obtain ⟨rounds, rfl⟩ := Nat.exists_eq_succ_of_ne_zero (Nat.ne_zero_of_lt many)
      rw [drainFor, hasNext, unlessFault_of_unarmed .hasNext unasked]
      simp only [List.isEmpty_cons, Bool.not_false]
      rw [InMemory.next, unlessFault_of_unarmed .next unarmed]
      simp only [ih (Nat.lt_of_succ_lt_succ many), List.map_cons]
  exact enough (by omega)

/-- A cursor over entries gives these, whatever happens while it is in use. -/
structure Gives (s : InMemory) (found : Cursor) : Prop where
  /-- When nobody else calls the store, and there are no faults, all entries are given. -/
  alone : s.faults.hasNext = 0 → s.faults.next = 0 → s.drain found = ⟨found.map .ok, none, s⟩
  /-- Nothing is skipped or repeated. -/
  kept : ∀ acts, given ((Reader.mk s found).run acts).1 <+: found
  ended : ∀ acts, Ended ((Reader.mk s found).run acts).1 →
    given ((Reader.mk s found).run acts).1 = found
  /-- When others call the store, but no fault is injected, all entries are given too. -/
  drained : ∀ acts, acts.filter Act.own = draining found.length →
    (∀ t ∈ ((Reader.mk s found).run acts).1, ¬ t.Injected) →
    ((Reader.mk s found).run acts).1 = Reader.drained found
  /-- There is more unless the next entry, as soon as no fault is injected, is not there. -/
  asked : ∀ before between more (r r' : Reader), r = ((Reader.mk s found).run before).2 →
    (r.act .more).1 = [.more (.ok more)] → r' = ((r.act .more).2.run between).2 →
    given ((r.act .more).2.run between).1 = [] → r'.store.faults.next = 0 →
    (more = false ↔ (r'.act .next).1 = [.exhausted])

/-- Any entries are given. -/
theorem gives (s : InMemory) (found : Cursor) : Gives s found where
  alone unasked unarmed := drain_of_unarmed unasked unarmed found
  kept acts := ⟨_, given_run_append_rest ⟨s, found⟩ acts⟩
  ended acts ended := by
    have whole := given_run_append_rest ⟨s, found⟩ acts
    rwa [rest_of_ended ended, List.append_nil] at whole
  drained acts own faultless := by
    rw [run_eq_plain faultless, ← plain_filter_own, own, plain_draining]
  asked before between more r r' _ told reached waiting unarmed := by
    subst reached
    exact more_iff_exhausted told waiting unarmed

/-- **A cursor gives what was asked for when it was opened**: the entries whose key starts with a
text, once each and in the order of the bytes of their keys. Others may call the store meanwhile. -/
theorem gives_listing {s : InMemory} {container filter converter : Option String} {start : String}
    {keys : Bool} {m : Container} (asks : Asks filter start) (converts : Converts converter keys)
    (known : s.containers.find? (containerName container) = some m)
    (unarmed : s.faults.iterate = 0) :
    ∃ found, s.iterate container filter converter = (.ok found, s) ∧
      m.table.Lists start keys found ∧ Gives s found := by
  refine ⟨_, ?_, lists_snapshot m start keys, gives s _⟩
  rw [iterate, unlessFault_of_unarmed .iterate unarmed, cursor?_of_known asks converts known]

/-- Keys are asked for while a fault is armed. -/
theorem gives_listing_of_keys :
    let m : Container := (OrderedMap.empty.insert "key7" #[7]).insert "other" #[1, 2]
    let s : InMemory := ⟨OrderedMap.empty.insert "default" m, { next := 1 }, true⟩
    ∃ found, s.iterate none (some "prefix:key") (some "key") = (.ok found, s) ∧
      m.table.Lists "key" true found ∧ Gives s found :=
  gives_listing (.inr rfl) (.inr ⟨rfl, rfl⟩) (OrderedMap.find?_insert_self ..) rfl

end Reader

end LoadFleet.InMemory
