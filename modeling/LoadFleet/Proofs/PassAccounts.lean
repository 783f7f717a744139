import LoadFleet.Proofs.Validity
import Mathlib.Order.Bounds.Defs
/-!
# What the passes of a stressor add up to

A stressor that passes over the entries of a store may get any answer: cursors that cannot be
opened, that cannot tell whether there is more, that fail to step or to close. It may be asked to
stop at any of its turns. Its counters, its range and its failure still tell of the same passes.

* `Iterate.Runs`: a run as the list of its answers, from which the passes are read off (`passes`).
* `Iterate.reached_iff`: runs come to all states that a stressor can come to.
* `Iterate.Books`: what a stressor has kept of the passes before the one that is going on.
* `Iterate.Stands.answered`: by cases on the phase, what an answer does to books and passes.
* `Iterate.Ends.addsUp`: the main statement.
-/

namespace LoadFleet.Iterate

/-! ### Runs and their passes -/

/-- What the answer to a call says to a stressor. -/
inductive Answer where
  /-- Whether a cursor was opened. -/
  | opened (success : Bool)
  /-- Whether there is a next entry, if the cursor could tell. -/
  | told (more : Option Bool)
  /-- Whether the cursor stepped to the next entry. -/
  | stepped (success : Bool)
  /-- Whether the cursor was closed. -/
  | closed (success : Bool)
  deriving DecidableEq

variable {C : Type}

/-- How a stressor goes on after a call, with what the answer says: any answer may come. -/
inductive Hears : Ask C (State C) → State C → Answer → Prop where
  | iterate {container filter converter : Option String}
    {goOn : Except StoreError C → Instant → State C} (r : Except StoreError C) (now : Instant) :
    Hears (.iterate container filter converter goOn) (goOn r now) (.opened r.isOk)
  | hasNext {cursor : C} {goOn : Except StoreError Bool → Instant → State C}
    (r : Except StoreError Bool) (now : Instant) :
    Hears (.hasNext cursor goOn) (goOn r now) (.told r.toOption)
  | next {cursor : C} {goOn : Except StoreError (Entry × C) → Instant → State C}
    (r : Except StoreError (Entry × C)) (now : Instant) :
    Hears (.next cursor goOn) (goOn r now) (.stepped r.isOk)
  | close {cursor : C} {goOn : Except StoreError Unit → Instant → State C}
    (r : Except StoreError Unit) (now : Instant) :
    Hears (.close cursor goOn) (goOn r now) (.closed r.isOk)

/-- A turn in which a stressor made a call: whether it was asked to stop, and the answer. -/
structure Event where
  stopping : Bool
  answer : Answer

/-- A stressor comes to a state after these events, the newest first. -/
inductive Runs (settings : IterateSettings) (seat : Seat) (begun : Instant) :
    List Event → State C → Prop where
  | start : Runs settings seat begun [] (start settings seat begun)
  | answered {trace : List Event} {s s' : State C} {time : Instant} {stopping : Bool}
    {ask : Ask C (State C)} {answer : Answer} (run : Runs settings seat begun trace s)
    (turn : s.turn settings seat time stopping = .call ask) (hears : Hears ask s' answer) :
    Runs settings seat begun (⟨stopping, answer⟩ :: trace) s'

/-- A stressor ends with a result after these events, asked to stop or not in its last turn. -/
def Ends (C : Type) (settings : IterateSettings) (seat : Seat) (begun : Instant)
    (trace : List Event) (stopping : Bool) (result : IterationResult) : Prop :=
  ∃ (s : State C) (time : Instant), Runs settings seat begun trace s ∧
    s.turn settings seat time stopping = .finish result

/-- The answers in a pass after its cursor was opened, the newest first. -/
abbrev Course := List Answer

/-- The passes after one more answer, the newest first. -/
def follow : Answer → List Course → List Course
  | .opened true, passes => [] :: passes
  | .opened false, passes => passes
  | _, [] => []
  | answer, c :: before => (answer :: c) :: before

/-- The passes of a run, the newest first. -/
def passes (trace : List Event) : List Course := trace.foldr (fun e => follow e.answer) []

namespace Course

/-- The number of entries that a pass stepped to. -/
def entries (c : Course) : Nat := c.count (.stepped true)

/-- The number of steps that failed. -/
def failedSteps (c : Course) : Nat := c.count (.stepped false)

variable (limit : Nat) (c : Course)

/-- A pass is broken if its cursor could not tell whether there is more, or if more steps failed
than the limit allows. -/
def isBroken : Bool := c.contains (.told none) || limit < c.failedSteps

/-- A pass is over if it is broken or there was no next entry. A pass that never is over was stopped
part-way. -/
def isOver : Bool := c.contains (.told (some false)) || c.isBroken limit

/-- A pass that is over fails if it is broken or if its cursor could not be closed. -/
def fails : Bool := c.isOver limit && (c.isBroken limit || c.contains (.closed false))

/-- A pass that is over is completed unless it fails. -/
def completes : Bool := c.isOver limit && !c.fails limit

variable {limit c}

theorem isBroken_iff : c.isBroken limit ↔ .told none ∈ c ∨ limit < c.failedSteps := by
  simp [isBroken]

theorem isOver_iff : c.isOver limit ↔ .told (some false) ∈ c ∨ c.isBroken limit := by
  simp [isOver]

theorem fails_iff :
    c.fails limit ↔ c.isOver limit ∧ (c.isBroken limit ∨ .closed false ∈ c) := by
  simp [fails]

theorem completes_iff : c.completes limit ↔ c.isOver limit ∧ ¬ c.fails limit := by
  simp [completes]

variable {more : Option Bool} {success : Bool}

@[simp] theorem entries_told : entries (.told more :: c) = c.entries := by
  simp [entries]

@[simp] theorem failedSteps_told : failedSteps (.told more :: c) = c.failedSteps := by
  simp [failedSteps]

@[simp] theorem entries_stepped :
    entries (.stepped success :: c) = c.entries + success.toNat := by
  cases success <;> simp [entries]

@[simp] theorem failedSteps_stepped :
    failedSteps (.stepped success :: c) = c.failedSteps + (!success).toNat := by
  cases success <;> simp [failedSteps]

@[simp] theorem entries_closed : entries (.closed success :: c) = c.entries := by
  simp [entries]

@[simp] theorem failedSteps_closed : failedSteps (.closed success :: c) = c.failedSteps := by
  simp [failedSteps]

@[simp] theorem isBroken_told :
    isBroken limit (.told more :: c) ↔ more = none ∨ c.isBroken limit := by
  rcases more with _ | _ <;> simp [isBroken_iff]

@[simp] theorem isOver_told :
    isOver limit (.told more :: c) ↔ more ≠ some true ∨ c.isOver limit := by
  rcases more with _ | _ | _ <;> simp [isOver_iff]

@[simp] theorem isBroken_stepped : isBroken limit (.stepped success :: c) ↔
    c.isBroken limit ∨ limit < c.failedSteps + (!success).toNat := by
  cases success <;> simp only [isBroken_iff, failedSteps_stepped, List.mem_cons] <;> grind

@[simp] theorem isOver_stepped : isOver limit (.stepped success :: c) ↔
    c.isOver limit ∨ limit < c.failedSteps + (!success).toNat := by
  simp [isOver_iff, or_assoc]

@[simp] theorem isBroken_closed : isBroken limit (.closed success :: c) ↔ c.isBroken limit := by
  simp [isBroken_iff]

@[simp] theorem isOver_closed : isOver limit (.closed success :: c) ↔ c.isOver limit := by
  simp [isOver_iff]

end Course

/-- The numbers of entries of the passes that were completed, in words. -/
def countsOf (limit : Nat) (passes : List Course) : List UInt64 :=
  (passes.filter (Course.completes limit)).map fun c => c.entries.toUInt64

/-- The numbers of entries of the passes that were completed. -/
def entriesOf (limit : Nat) (passes : List Course) : Set Nat :=
  {n | ∃ c ∈ passes, c.completes limit ∧ c.entries = n}

/-! ### Every state is at the end of a run -/

section

variable {settings : IterateSettings} {seat : Seat} {begun : Instant} {s s' : State C}

theorem exists_hears_of_leads {time : Instant} {stopping : Bool} {ask : Ask C (State C)}
    (turn : s.turn settings seat time stopping = .call ask) (leads : ask.Leads s') :
    ∃ answer, Hears ask s' answer := by
  cases leads with
  | invoke =>
    -- a stressor of an iteration does not ask for anything but cursors
    rw [State.turn] at turn
    split at turn
    · cases turn
    · split at turn <;> cases turn
    · split at turn <;> cases turn
    · cases turn
    · cases turn
  | iterate r now => exact ⟨_, .iterate r now⟩
  | hasNext r now => exact ⟨_, .hasNext r now⟩
  | next r now => exact ⟨_, .next r now⟩
  | close r now => exact ⟨_, .close r now⟩

theorem Hears.leads {ask : Ask C (State C)} {answer : Answer} (hears : Hears ask s' answer) :
    ask.Leads s' := by
  cases hears with
  | iterate r now => exact .iterate r now
  | hasNext r now => exact .hasNext r now
  | next r now => exact .next r now
  | close r now => exact .close r now

/-- A stressor comes to the states at the ends of its runs, and to no others. -/
theorem reached_iff :
    Reached settings seat begun s ↔ ∃ trace, Runs settings seat begun trace s := by
  constructor
  · intro reached
    induction reached with
    | start => exact ⟨[], .start⟩
    | answered _ turn leads ih =>
      obtain ⟨trace, run⟩ := ih
      obtain ⟨answer, hears⟩ := exists_hears_of_leads turn leads
      exact ⟨_, run.answered turn hears⟩
  · rintro ⟨trace, run⟩
    induction run with
    | start => exact .start
    | answered _ turn hears ih => exact ih.answered turn hears.leads

end

/-! ### Counters and ranges -/

/-- The counters of statistics: how often a stressor tried to open a cursor and could not, how many
passes it has made and how many of them failed. -/
structure Counted (tried refused made failed : Nat) (stats : RunStatistics) : Prop where
  tried : stats.requestsOf getIterator = tried.toUInt64
  refused : stats.errorsOf getIterator = refused.toUInt64
  made : stats.requestsOf fullLoop = made.toUInt64
  failed : stats.errorsOf fullLoop = failed.toUInt64

namespace Counted

variable {tried refused made failed : Nat} {stats : RunStatistics}
  (counted : Counted tried refused made failed stats) (latency : Span) (success : Bool)

include counted

/-- What is asked of a cursor in a pass is counted apart. -/
theorem record {operation : String} (here : operation ≠ getIterator)
    (there : operation ≠ fullLoop) :
    Counted tried refused made failed (stats.record operation latency success) := by
  refine ⟨?_, ?_, ?_, ?_⟩ <;>
    simp only [Statistics.requestsOf_record, Statistics.errorsOf_record, here.symm, there.symm,
      false_and, if_false]
  · exact counted.tried
  · exact counted.refused
  · exact counted.made
  · exact counted.failed

theorem record_getIterator : Counted (tried + 1) (refused + (!success).toNat) made failed
    (stats.record getIterator latency success) := by
  have other : fullLoop ≠ getIterator := by decide
  refine ⟨?_, ?_, ?_, ?_⟩ <;>
    simp only [Statistics.requestsOf_record, Statistics.errorsOf_record, other, true_and, false_and,
      if_true, if_false]
  · rw [counted.tried]
    exact (UInt64.ofNat_add tried 1).symm
  · rw [counted.refused]
    cases success
    · exact (UInt64.ofNat_add refused 1).symm
    · rfl
  · exact counted.made
  · exact counted.failed

theorem record_fullLoop : Counted tried refused (made + 1) (failed + (!success).toNat)
    (stats.record fullLoop latency success) := by
  have other : getIterator ≠ fullLoop := by decide
  refine ⟨?_, ?_, ?_, ?_⟩ <;>
    simp only [Statistics.requestsOf_record, Statistics.errorsOf_record, other, true_and, false_and,
      if_true, if_false]
  · exact counted.tried
  · exact counted.refused
  · rw [counted.made]
    exact (UInt64.ofNat_add made 1).symm
  · rw [counted.failed]
    cases success
    · exact (UInt64.ofNat_add failed 1).symm
    · rfl

/-- Counters of what words can count are the numbers themselves. -/
theorem toNat (small : tried < 2 ^ 64) (refused_le : refused ≤ tried) (made_le : made ≤ tried)
    (failed_le : failed ≤ made) :
    (stats.requestsOf getIterator).toNat = tried ∧ (stats.errorsOf getIterator).toNat = refused ∧
      (stats.requestsOf fullLoop).toNat = made ∧ (stats.errorsOf fullLoop).toNat = failed := by
  have whole {n : Nat} (le : n ≤ tried) : n.toUInt64.toNat = n :=
    UInt64.toNat_ofNat_of_lt' (Nat.lt_of_le_of_lt le small)
  rw [counted.tried, counted.refused, counted.made, counted.failed]
  exact ⟨whole (Nat.le_refl tried), whole refused_le, whole made_le,
    whole (Nat.le_trans failed_le made_le)⟩

end Counted

/-- A range covers these numbers; there is none if there are no numbers. -/
structure Covers (range : Option ElementRange) (counts : List UInt64) : Prop where
  none_iff : range = none ↔ counts = []
  least : ∀ r, range = some r → IsLeast {n | n ∈ counts} r.least
  greatest : ∀ r, range = some r → IsGreatest {n | n ∈ counts} r.greatest

/-- One more number, and the least of all. -/
theorem isLeast_insert {s : Set UInt64} {least : UInt64} (h : IsLeast s least) (n : UInt64) :
    IsLeast (insert n s) (min least n) := by
  constructor
  · obtain same | same : min least n = least ∨ min least n = n := Std.min_eq_or
    · exact .inr (same.symm ▸ h.1)
    · exact .inl same
  · rintro m (rfl | hm)
    · exact Std.min_le_right
    · exact UInt64.le_trans Std.min_le_left (h.2 hm)

/-- One more number, and the greatest of all. -/
theorem isGreatest_insert {s : Set UInt64} {greatest : UInt64} (h : IsGreatest s greatest)
    (n : UInt64) : IsGreatest (insert n s) (max greatest n) := by
  by_cases below : greatest ≤ n
  · have same : max greatest n = n := if_pos below
    rw [same]
    refine ⟨.inl rfl, ?_⟩
    rintro m (rfl | hm)
    · exact UInt64.le_refl m
    · exact UInt64.le_trans (h.2 hm) below
  · have same : max greatest n = greatest := if_neg below
    rw [same]
    refine ⟨.inr h.1, ?_⟩
    rintro m (rfl | hm)
    · exact UInt64.le_of_lt (UInt64.not_le.1 below)
    · exact h.2 hm

/-- A range that notes one more number covers it too. -/
theorem Covers.note {s : State C} {counts : List UInt64} (covers : Covers s.range counts)
    (n : UInt64) : Covers (s.note n).range (n :: counts) := by
  rw [State.note]
  cases known : s.range with
  | none =>
    have only : IsLeast {m | m ∈ [n]} n ∧ IsGreatest {m | m ∈ [n]} n := by
      refine ⟨⟨.head _, fun m hm => ?_⟩, .head _, fun m hm => ?_⟩ <;>
        exact UInt64.le_of_eq (by simpa [eq_comm] using hm)
    rw [covers.none_iff.1 known]
    refine ⟨iff_of_false nofun nofun, ?_, ?_⟩ <;> rintro _ ⟨⟩
    · exact only.1
    · exact only.2
  | some r =>
    have more : {m | m ∈ n :: counts} = insert n {m | m ∈ counts} :=
      Set.ext fun _ => List.mem_cons
    refine ⟨iff_of_false nofun nofun, ?_, ?_⟩ <;> rintro _ ⟨⟩ <;> rw [more]
    · exact isLeast_insert (covers.least r known) n
    · exact isGreatest_insert (covers.greatest r known) n

/-! ### What a stressor keeps of its passes -/

/-- What a stressor has kept of the passes before the one that is going on: how often it tried to
open a cursor, how often it could not, how many passes it has made, how many of them failed, and how
many entries the others found. -/
structure Books (settings : IterateSettings) (before : List Course) (more denied : Nat)
    (s : State C) : Prop where
  iteration : s.iteration = before.length
  counted : Counted (before.length + more) denied before.length
    (before.countP (Course.fails settings.maxNextFailures.toNat)) s.stats
  failure : s.failure.isSome ↔
    0 < denied + before.countP (Course.fails settings.maxNextFailures.toNat)
  range : Covers s.range (countsOf settings.maxNextFailures.toNat before)
  ended : ∀ c ∈ before, c.isOver settings.maxNextFailures.toNat
  closed : ∀ c ∈ before, ∃ success, .closed success ∈ c
  allowed : before.length + more ≤ settings.numLoops.toNat

section

variable {settings : IterateSettings} {seat : Seat} {before : List Course} {c : Course}
  {s : State C}

theorem books_start (settings : IterateSettings) (seat : Seat) (begun : Instant) :
    Books settings [] 0 0 (start (C := C) settings seat begun) where
  iteration := rfl
  counted := ⟨rfl, rfl, rfl, rfl⟩
  failure := iff_of_false nofun (Nat.lt_irrefl _)
  range := ⟨iff_of_true rfl rfl, nofun, nofun⟩
  ended := nofun
  closed := nofun
  allowed := Nat.zero_le _

namespace Books

theorem inPhase {more denied : Nat} (books : Books settings before more denied s)
    (phase : Phase C) : Books settings before more denied { s with phase } :=
  ⟨books.iteration, books.counted, books.failure, books.range, books.ended, books.closed,
    books.allowed⟩

theorem record {more denied : Nat} (books : Books settings before more denied s) {α : Type}
    (operation : String) (here : operation ≠ getIterator) (there : operation ≠ fullLoop)
    (asked now : Instant) (r : Except StoreError α) :
    Books settings before more denied (s.record operation asked now r) :=
  { books with counted := books.counted.record _ _ here there }

/-- A cursor is opened for one more pass. -/
theorem opened (books : Books settings before 0 0 s)
    (few : before.length < settings.numLoops.toNat) (asked now : Instant) (cursor : C) :
    Books settings before 1 0 (s.record getIterator asked now (.ok cursor : Except StoreError C)) :=
  { books with
    counted := books.counted.record_getIterator _ true
    allowed := few }

/-- No cursor is opened. -/
theorem refused (books : Books settings before 0 0 s)
    (few : before.length < settings.numLoops.toNat) (seat : Seat) (asked now : Instant)
    (e : StoreError) :
    Books settings before 1 1 (s.onOpened seat asked (.error e : Except StoreError C) now) :=
  { books with
    counted := books.counted.record_getIterator _ false
    failure := iff_of_true rfl (by omega)
    allowed := few }

variable (books : Books settings before 1 0 s)
  (ended : c.isOver settings.maxNextFailures.toNat) (closed : ∃ success, .closed success ∈ c)

include books ended closed

/-- A pass is completed. -/
theorem completed (fine : ¬ c.fails settings.maxNextFailures.toNat) (pass : Pass C)
    (now : Instant) : Books settings (c :: before) 0 0
      ((s.note c.entries.toUInt64).recordPass pass now true) where
  iteration := congrArg (· + 1) books.iteration
  counted := by
    rw [List.countP_cons_of_neg fine]
    exact books.counted.record_fullLoop _ true
  failure := by
    rw [List.countP_cons_of_neg fine]
    exact books.failure
  range := by
    rw [countsOf, List.filter_cons_of_pos (by simp [Course.completes, ended, fine])]
    exact books.range.note _
  ended := List.forall_mem_cons.2 ⟨ended, books.ended⟩
  closed := List.forall_mem_cons.2 ⟨closed, books.closed⟩
  allowed := books.allowed

/-- A pass fails. -/
theorem failed (fails : c.fails settings.maxNextFailures.toNat) (reason : String) (pass : Pass C)
    (now : Instant) : Books settings (c :: before) 0 0
      (s.endPass seat pass now (.failed reason)) where
  iteration := congrArg (· + 1) books.iteration
  counted := by
    rw [List.countP_cons_of_pos fails]
    exact books.counted.record_fullLoop _ false
  failure := by
    rw [List.countP_cons_of_pos fails]
    exact iff_of_true rfl (by omega)
  range := by
    rw [countsOf, List.filter_cons_of_neg (by simp [Course.completes, fails])]
    exact books.range
  ended := List.forall_mem_cons.2 ⟨ended, books.ended⟩
  closed := List.forall_mem_cons.2 ⟨closed, books.closed⟩
  allowed := books.allowed

end Books

/-! ### Where a stressor is -/

/-- What a stressor knows of the pass that is going on. -/
structure Knows (limit : Nat) (pass : Pass C) (c : Course) : Prop where
  elements : pass.elements = c.entries.toUInt64
  failures : pass.nextFailures.toNat = c.failedSteps
  going : ¬ c.isOver limit
  unclosed : ∀ success, .closed success ∉ c

/-- How a stressor takes a pass that is over to have ended, before its cursor is closed. -/
def Tells (limit : Nat) (c : Course) : PassEnd → Prop
  | .completed elements => ¬ c.isBroken limit ∧ elements = c.entries.toUInt64
  | .failed _ => c.isBroken limit
  | .stopped => False

/-- The phase of a stressor in a pass. -/
inductive InCourse (limit : Nat) : Phase C → Course → Prop where
  | asking {pass : Pass C} {c : Course} (knows : Knows limit pass c) :
    InCourse limit (.asking pass) c
  | stepping {pass : Pass C} {c : Course} (knows : Knows limit pass c) :
    InCourse limit (.stepping pass) c
  | closing {pass : Pass C} {outcome : PassEnd} {c : Course} (ended : c.isOver limit)
    (unclosed : ∀ success, .closed success ∉ c) (tells : Tells limit c outcome) :
    InCourse limit (.closing pass outcome) c

/-- Every cursor that was asked for was opened. -/
def AllOpened (trace : List Event) : Prop := ∀ e ∈ trace, e.answer ≠ .opened false

/-- Where a stressor is after these events. -/
inductive Stands (settings : IterateSettings) : List Event → State C → Prop where
  | between {trace : List Event} {s : State C} (phase : s.phase = .between)
    (opened : AllOpened trace) (books : Books settings (passes trace) 0 0 s) :
    Stands settings trace s
  | within {trace : List Event} {s : State C} {c : Course} {before : List Course}
    (place : InCourse settings.maxNextFailures.toNat s.phase c) (opened : AllOpened trace)
    (split : passes trace = c :: before) (books : Books settings before 1 0 s) :
    Stands settings trace s
  /-- It was asked to stop in a pass, and has closed its cursor. -/
  | stopped {trace : List Event} {s : State C} {c : Course} {before : List Course} {success : Bool}
    (phase : s.phase = .done) (opened : AllOpened trace) (split : passes trace = c :: before)
    (going : ¬ c.isOver settings.maxNextFailures.toNat) (books : Books settings before 1 0 s) :
    Stands settings (⟨true, .closed success⟩ :: trace) s
  /-- No cursor was opened. -/
  | refused {trace : List Event} {s : State C} {stopping : Bool} (phase : s.phase = .done)
    (opened : AllOpened trace) (books : Books settings (passes trace) 1 1 s) :
    Stands settings (⟨stopping, .opened false⟩ :: trace) s

/-- Answers in a pass are not about opening a cursor. -/
def Answer.IsInside (answer : Answer) : Prop := ∀ success, answer ≠ .opened success

theorem isInside_told {more : Option Bool} : (Answer.told more).IsInside := nofun

theorem isInside_stepped {success : Bool} : (Answer.stepped success).IsInside := nofun

theorem isInside_closed {success : Bool} : (Answer.closed success).IsInside := nofun

section

variable {trace : List Event} {answer : Answer} (inside : answer.IsInside)

include inside

theorem AllOpened.cons (opened : AllOpened trace) (stopping : Bool) :
    AllOpened (⟨stopping, answer⟩ :: trace) := List.forall_mem_cons.2 ⟨inside false, opened⟩

theorem passes_cons (split : passes trace = c :: before) (stopping : Bool) :
    passes (⟨stopping, answer⟩ :: trace) = (answer :: c) :: before := by
  change follow answer (passes trace) = _
  rw [split]
  cases answer with
  | opened success => exact absurd rfl (inside success)
  | told | stepped | closed => rfl

end

section

variable {trace : List Event} {stopping : Bool} {pass : Pass C} {asked now : Instant}
  (opened : AllOpened trace) (split : passes trace = c :: before)
  (books : Books settings before 1 0 s)

/-- A stressor makes an entry in its books in the pass that is going on. -/
theorem Stands.inside {answer : Answer} {s' : State C} (inside : answer.IsInside)
    (opened : AllOpened trace) (split : passes trace = c :: before)
    (books : Books settings before 1 0 s')
    (place : InCourse settings.maxNextFailures.toNat s'.phase (answer :: c)) :
    Stands settings (⟨stopping, answer⟩ :: trace) s' :=
  .within place (opened.cons inside stopping) (passes_cons inside split stopping) books

include opened split books

/-- The cursor tells whether there is a next entry, or cannot tell. -/
theorem stands_onMore (knows : Knows settings.maxNextFailures.toNat pass c)
    (r : Except StoreError Bool) :
    Stands settings (⟨stopping, .told r.toOption⟩ :: trace) (s.onMore pass asked r now) := by
  have books := books.record hasNext (by decide) (by decide) asked now r
  have unclosed : ∀ success, .closed success ∉ .told r.toOption :: c := by
    simpa using knows.unclosed
  have whole : ¬ c.isBroken settings.maxNextFailures.toNat := fun broken =>
    knows.going (Course.isOver_iff.2 (.inr broken))
  rcases r with e | _ | _
  · refine .inside isInside_told opened split (books.inPhase _) (.closing ?_ unclosed ?_)
    · simp [Except.toOption]
    · simp [Tells, Except.toOption]
  · refine .inside isInside_told opened split (books.inPhase _) (.closing ?_ unclosed ⟨?_, ?_⟩)
    · simp [Except.toOption]
    · simpa [Except.toOption] using whole
    · simpa using knows.elements
  · refine .inside isInside_told opened split (books.inPhase _) (.stepping ⟨?_, ?_, ?_, unclosed⟩)
    · simpa using knows.elements
    · simpa using knows.failures
    · simpa [Except.toOption] using knows.going

/-- The cursor steps to the next entry, or cannot. -/
theorem stands_onStep (knows : Knows settings.maxNextFailures.toNat pass c)
    (r : Except StoreError (Entry × C)) (few : Course.failedSteps (.stepped r.isOk :: c) < 2 ^ 32) :
    Stands settings (⟨stopping, .stepped r.isOk⟩ :: trace)
      (s.onStep settings pass asked r now) := by
  have books := books.record next (by decide) (by decide) asked now r
  have unclosed : ∀ success, .closed success ∉ .stepped r.isOk :: c := by
    simpa using knows.unclosed
  have within : ¬ settings.maxNextFailures.toNat < c.failedSteps := fun many =>
    knows.going (Course.isOver_iff.2 (.inr (Course.isBroken_iff.2 (.inr many))))
  cases r with
  | ok found =>
    refine .inside isInside_stepped opened split (books.inPhase _) (.asking ⟨?_, ?_, ?_, unclosed⟩)
    · simp [knows.elements, Except.isOk, Except.toBool]
    · simpa [Except.isOk, Except.toBool] using knows.failures
    · simpa [Except.isOk, Except.toBool, within] using knows.going
  | error e =>
    have failures : (pass.nextFailures + 1).toNat = c.failedSteps + 1 := by
      have small : c.failedSteps + 1 < 2 ^ 32 := by
        simpa [Except.isOk, Except.toBool] using few
      rw [UInt32.toNat_add, knows.failures, UInt32.toNat_one, Nat.mod_eq_of_lt small]
    rw [State.onStep]
    dsimp only
    by_cases many : settings.maxNextFailures < pass.nextFailures + 1
    · have exceeded : settings.maxNextFailures.toNat < c.failedSteps + 1 :=
        failures ▸ UInt32.lt_iff_toNat_lt.1 many
      rw [if_pos many]
      refine .inside isInside_stepped opened split (books.inPhase _) (.closing ?_ unclosed ?_)
      · simp [Except.isOk, Except.toBool, exceeded]
      · simp [Tells, Except.isOk, Except.toBool, exceeded]
    · have allowed : ¬ settings.maxNextFailures.toNat < c.failedSteps + 1 :=
        failures ▸ UInt32.lt_iff_toNat_lt.not.1 many
      rw [if_neg many]
      refine .inside isInside_stepped opened split (books.inPhase _)
        (.asking ⟨?_, ?_, ?_, unclosed⟩)
      · simpa [Except.isOk, Except.toBool] using knows.elements
      · simpa [Except.isOk, Except.toBool] using failures
      · simpa [Except.isOk, Except.toBool, allowed] using knows.going

/-- A stressor closes the cursor of a pass that is over, or cannot. -/
theorem stands_onClosed {outcome : PassEnd} (ended : c.isOver settings.maxNextFailures.toNat)
    (unclosed : ∀ success, .closed success ∉ c)
    (tells : Tells settings.maxNextFailures.toNat c outcome) (r : Except StoreError Unit) :
    Stands settings (⟨stopping, .closed r.isOk⟩ :: trace)
      (s.onClosed seat pass outcome r now) := by
  have ended' : Course.isOver settings.maxNextFailures.toNat (.closed r.isOk :: c) := by
    simpa using ended
  have closed : ∃ success, .closed success ∈ Answer.closed r.isOk :: c := ⟨_, .head _⟩
  have inside : (Answer.closed r.isOk).IsInside := isInside_closed
  have fails (reason : String) (broken : c.isBroken settings.maxNextFailures.toNat ∨ ¬ r.isOk) :
      Stands settings (⟨stopping, .closed r.isOk⟩ :: trace)
        (s.endPass seat pass now (.failed reason)) := by
    refine .between rfl (opened.cons inside stopping) ?_
    rw [passes_cons inside split]
    refine books.failed ended' closed (Course.fails_iff.2 ⟨ended', ?_⟩) reason pass now
    rcases broken with broken | failed
    · exact .inl (by simpa using broken)
    · exact .inr (by simp [failed])
  cases r with
  | ok =>
    cases outcome with
    | completed elements =>
      obtain ⟨whole, rfl⟩ := tells
      refine .between rfl (opened.cons inside stopping) ?_
      rw [passes_cons inside split]
      have fine : ¬ Course.fails settings.maxNextFailures.toNat (.closed true :: c) := by
        simpa [Course.fails_iff, whole] using fun _ => unclosed false
      have books := books.completed ended' closed fine pass now
      rwa [Course.entries_closed] at books
    | failed reason => exact fails reason (.inl tells)
    | stopped => exact tells.elim
  | error e =>
    have other : outcome ≠ .stopped := by
      rintro rfl
      exact tells
    rw [State.onClosed, if_neg other]
    exact fails _ (.inr nofun)

/-- A stressor that is asked to stop closes the cursor of the pass that is going on. -/
theorem stands_onStopped (knows : Knows settings.maxNextFailures.toNat pass c)
    (r : Except StoreError Unit) :
    Stands settings (⟨true, .closed r.isOk⟩ :: trace)
      (s.onClosed seat pass .stopped r now) := by
  cases r with
  | ok => exact .stopped rfl opened split knows.going (books.inPhase .done)
  | error => exact .stopped rfl opened split knows.going (books.inPhase .done)

end

/-- A stressor tries to open a cursor for one more pass. -/
theorem stands_onOpened {trace : List Event} {stopping : Bool} {asked now : Instant}
    (opened : AllOpened trace) (books : Books settings (passes trace) 0 0 s)
    (few : (passes trace).length < settings.numLoops.toNat) (r : Except StoreError C) :
    Stands settings (⟨stopping, .opened r.isOk⟩ :: trace) (s.onOpened seat asked r now) := by
  cases r with
  | ok cursor =>
    refine .within (c := []) (.asking ⟨rfl, rfl, nofun, nofun⟩)
      (List.forall_mem_cons.2 ⟨nofun, opened⟩) rfl ?_
    exact (books.opened few asked now cursor).inPhase _
  | error e => exact .refused rfl opened (books.refused few seat asked now e)

end

section

variable {settings : IterateSettings} {seat : Seat} {begun time : Instant} {trace : List Event}
  {s s' : State C} {stopping : Bool} {ask : Ask C (State C)} {answer : Answer}

/-- **An answer to a stressor** keeps its books in line with its passes. -/
theorem Stands.answered (stands : Stands settings trace s)
    (turn : s.turn settings seat time stopping = .call ask) (hears : Hears ask s' answer)
    (few : ∀ c ∈ passes (⟨stopping, answer⟩ :: trace), c.failedSteps < 2 ^ 32) :
    Stands settings (⟨stopping, answer⟩ :: trace) s' := by
  rw [State.turn] at turn
  cases stands with
  | between phase opened books =>
    rw [phase] at turn
    dsimp only at turn
    split at turn <;> cases turn
    next more =>
    simp only [books.iteration, Bool.or_eq_true, decide_eq_true_eq, not_or, Nat.not_le] at more
    cases hears with
    | iterate r now => exact stands_onOpened opened books more.2 r
  | within place opened split books =>
    generalize s.phase = phase at place turn
    cases place with
    | asking knows =>
      dsimp only at turn
      split at turn
      · next asked =>
        subst asked
        cases turn
        cases hears with
        | close r now => exact stands_onStopped opened split books knows r
      · cases turn
        cases hears with
        | hasNext r now => exact stands_onMore opened split books knows r
    | stepping knows =>
      cases turn
      cases hears with
      | next r now =>
        have inside : (Answer.stepped r.isOk).IsInside := isInside_stepped
        refine stands_onStep opened split books knows r (few _ ?_)
        rw [passes_cons inside split]
        exact .head _
    | closing ended unclosed tells =>
      cases turn
      cases hears with
      | close r now => exact stands_onClosed opened split books ended unclosed tells r
  | stopped phase | refused phase =>
    rw [phase] at turn
    cases turn

/-- An answer takes no failed step back. -/
theorem few_of_cons {e : Event} {bound : Nat}
    (few : ∀ c ∈ passes (e :: trace), c.failedSteps < bound) :
    ∀ c ∈ passes trace, c.failedSteps < bound := by
  change ∀ c ∈ follow e.answer (passes trace), _ at few
  intro c hc
  cases split : passes trace with
  | nil => simp [split] at hc
  | cons first before =>
    rw [split] at few hc
    have grows (answer : Answer) : first.failedSteps ≤ Course.failedSteps (answer :: first) :=
      List.count_le_count_cons
    rcases List.mem_cons.1 hc with rfl | hc
    · rcases answer : e.answer with (_ | _) | _ | _ | _ <;> rw [answer] at few
      · exact few c (.head _)
      · exact few c (.tail _ (.head _))
      all_goals exact Nat.lt_of_le_of_lt (grows _) (few _ (.head _))
    · rcases answer : e.answer with (_ | _) | _ | _ | _ <;> rw [answer] at few
      · exact few c (.tail _ hc)
      · exact few c (.tail _ (.tail _ hc))
      all_goals exact few c (.tail _ hc)

/-- **A run** keeps the books of a stressor in line with its passes. -/
theorem Runs.stands (run : Runs settings seat begun trace s)
    (few : ∀ c ∈ passes trace, c.failedSteps < 2 ^ 32) : Stands settings trace s := by
  induction run with
  | start => exact .between rfl nofun (books_start settings seat begun)
  | answered _ turn hears ih => exact (ih (few_of_cons few)).answered turn hears few

end

/-! ### What a result says -/

/-- The counters, the range and the failure in the result of a stressor add up to its passes. -/
structure AddsUp (settings : IterateSettings) (trace : List Event) (stopping : Bool)
    (r : IterationResult) : Prop where
  tried : (r.stats.requestsOf getIterator).toNat ≤ settings.numLoops.toNat
  refusals : (r.stats.errorsOf getIterator).toNat ≤ 1
  refused : (r.stats.errorsOf getIterator).toNat = trace.countP fun e => e.answer = .opened false
  /-- No call is made after a cursor was refused. -/
  last : ∀ later e earlier, trace = later ++ e :: earlier → e.answer = .opened false → later = []
  /-- Every cursor that was opened is closed. -/
  closed : ∀ c ∈ passes trace, ∃ success, .closed success ∈ c
  opened : (r.stats.requestsOf getIterator).toNat =
    (r.stats.errorsOf getIterator).toNat + (passes trace).length
  /-- A pass is counted, unless it was stopped part-way. -/
  made : (r.stats.requestsOf fullLoop).toNat =
    (passes trace).countP (Course.isOver settings.maxNextFailures.toNat)
  balance : (r.stats.requestsOf getIterator).toNat =
    (r.stats.errorsOf getIterator).toNat + (r.stats.requestsOf fullLoop).toNat +
      if ∃ c ∈ passes trace, ¬ c.isOver settings.maxNextFailures.toNat then 1 else 0
  stopped : (∃ c ∈ passes trace, ¬ c.isOver settings.maxNextFailures.toNat) →
    ∃ e ∈ trace, e.stopping
  failed : (r.stats.errorsOf fullLoop).toNat =
    (passes trace).countP (Course.fails settings.maxNextFailures.toNat)
  failure : r.failure.isSome ↔
    0 < (r.stats.errorsOf getIterator).toNat + (r.stats.errorsOf fullLoop).toNat
  unset :
    (r.minElements = none ↔ ∀ c ∈ passes trace, ¬ c.completes settings.maxNextFailures.toNat) ∧
    (r.maxElements = none ↔ ∀ c ∈ passes trace, ¬ c.completes settings.maxNextFailures.toNat)
  least : ∀ n, r.minElements = some n →
    IsLeast {n | n ∈ countsOf settings.maxNextFailures.toNat (passes trace)} n
  greatest : ∀ n, r.maxElements = some n →
    IsGreatest {n | n ∈ countsOf settings.maxNextFailures.toNat (passes trace)} n
  /-- With fewer entries in a pass than words can count, the words are the numbers themselves. -/
  exact : (∀ c ∈ passes trace, c.entries < 2 ^ 64) →
    (∀ n, r.minElements = some n →
      IsLeast (entriesOf settings.maxNextFailures.toNat (passes trace)) n.toNat) ∧
    ∀ n, r.maxElements = some n →
      IsGreatest (entriesOf settings.maxNextFailures.toNat (passes trace)) n.toNat
  /-- A stressor that is neither refused a cursor nor asked to stop makes all of its passes. -/
  complete : (r.stats.errorsOf getIterator).toNat = 0 → stopping = false →
    (∀ e ∈ trace, e.stopping = false) →
      (r.stats.requestsOf getIterator).toNat = settings.numLoops.toNat ∧
        (r.stats.requestsOf fullLoop).toNat = settings.numLoops.toNat

section

variable {limit : Nat} {passes : List Course}

theorem mem_countsOf {n : UInt64} :
    n ∈ countsOf limit passes ↔ ∃ c ∈ passes, c.completes limit ∧ c.entries.toUInt64 = n := by
  simp [countsOf, and_assoc]

variable (small : ∀ c ∈ passes, c.entries < 2 ^ 64) {n : UInt64}

include small

theorem toNat_mem_entriesOf (h : n ∈ countsOf limit passes) : n.toNat ∈ entriesOf limit passes := by
  obtain ⟨c, hc, completes, rfl⟩ := mem_countsOf.1 h
  exact ⟨c, hc, completes, (UInt64.toNat_ofNat_of_lt' (small c hc)).symm⟩

theorem toUInt64_mem_countsOf {k : Nat} (h : k ∈ entriesOf limit passes) :
    k.toUInt64 ∈ countsOf limit passes ∧ k.toUInt64.toNat = k := by
  obtain ⟨c, hc, completes, rfl⟩ := h
  exact ⟨mem_countsOf.2 ⟨c, hc, completes, rfl⟩, UInt64.toNat_ofNat_of_lt' (small c hc)⟩

theorem isLeast_entriesOf (h : IsLeast {n | n ∈ countsOf limit passes} n) :
    IsLeast (entriesOf limit passes) n.toNat := by
  refine ⟨toNat_mem_entriesOf small h.1, fun k hk => ?_⟩
  obtain ⟨member, same⟩ := toUInt64_mem_countsOf small hk
  exact same ▸ UInt64.le_iff_toNat_le.1 (h.2 member)

theorem isGreatest_entriesOf (h : IsGreatest {n | n ∈ countsOf limit passes} n) :
    IsGreatest (entriesOf limit passes) n.toNat := by
  refine ⟨toNat_mem_entriesOf small h.1, fun k hk => ?_⟩
  obtain ⟨member, same⟩ := toUInt64_mem_countsOf small hk
  exact same ▸ UInt64.le_iff_toNat_le.1 (h.2 member)

end

section

variable {limit : Nat} {cut before : List Course} (going : ∀ c ∈ cut, ¬ c.isOver limit)

include going

/-- A pass that was stopped part-way counts for nothing that only holds of passes that are over. -/
theorem countP_append_of_going {p : Course → Bool} (ended : ∀ c, p c → c.isOver limit) :
    (cut ++ before).countP p = before.countP p := by
  have none : cut.countP p = 0 :=
    List.countP_eq_zero.2 fun c hc hp => going c hc (ended c hp)
  rw [List.countP_append, none, Nat.zero_add]

theorem countsOf_append_of_going : countsOf limit (cut ++ before) = countsOf limit before := by
  have none : cut.filter (Course.completes limit) = [] :=
    List.filter_eq_nil_iff.2 fun c hc completes => going c hc (Course.completes_iff.1 completes).1
  rw [countsOf, List.filter_append, none, List.nil_append, countsOf]

/-- The passes that were stopped part-way are those that are not over. -/
theorem exists_going_iff (ended : ∀ c ∈ before, c.isOver limit) :
    (∃ c ∈ cut ++ before, ¬ c.isOver limit) ↔ cut ≠ [] := by
  constructor
  · rintro ⟨c, hc, unfinished⟩ rfl
    exact unfinished (ended c hc)
  · intro some
    obtain ⟨c, hc⟩ := List.exists_mem_of_ne_nil cut some
    exact ⟨c, List.mem_append_left before hc, going c hc⟩

end

section

variable {settings : IterateSettings} {seat : Seat} {trace : List Event} {s : State C}
  {stopping : Bool} {cut before : List Course} {denied : Nat}

/-- The books of a stressor add up, if at most one pass was stopped part-way or one cursor was
refused. -/
theorem addsUp_of_books (books : Books settings before (cut.length + denied) denied s)
    (one : cut.length + denied ≤ 1) (split : passes trace = cut ++ before)
    (refused : denied = trace.countP fun e => e.answer = .opened false)
    (last : ∀ later e earlier, trace = later ++ e :: earlier → e.answer = .opened false →
      later = [])
    (going : ∀ c ∈ cut, ¬ c.isOver settings.maxNextFailures.toNat)
    (closed : ∀ c ∈ cut, ∃ success, .closed success ∈ c)
    (stopped : cut ≠ [] → ∃ e ∈ trace, e.stopping)
    (complete : denied = 0 → stopping = false → (∀ e ∈ trace, e.stopping = false) →
      before.length = settings.numLoops.toNat) (now : Instant) :
    AddsUp settings trace stopping (s.result seat now) := by
  have allowed := books.allowed
  have loops : settings.numLoops.toNat < 2 ^ 32 := settings.numLoops.toNat_lt
  have fails_le : before.countP (Course.fails settings.maxNextFailures.toNat) ≤ before.length :=
    List.countP_le_length
  have numbers : Counted _ _ _ _ (s.result seat now).stats :=
    ⟨books.counted.tried, books.counted.refused, books.counted.made, books.counted.failed⟩
  obtain ⟨tried, refusals, made, failed⟩ := numbers.toNat (by omega) (by omega) (by omega) fails_le
  have same : countsOf settings.maxNextFailures.toNat (passes trace) =
      countsOf settings.maxNextFailures.toNat before := by
    rw [split, countsOf_append_of_going going]
  have unset : s.range = none ↔
      ∀ c ∈ passes trace, ¬ c.completes settings.maxNextFailures.toNat := by
    rw [books.range.none_iff, ← same, countsOf, List.map_eq_nil_iff, List.filter_eq_nil_iff]
  have unfinished : (∃ c ∈ passes trace, ¬ c.isOver settings.maxNextFailures.toNat) ↔ cut ≠ [] := by
    rw [split, exists_going_iff going books.ended]
  have least (n : UInt64) (found : (s.result seat now).minElements = some n) :
      IsLeast {n | n ∈ countsOf settings.maxNextFailures.toNat (passes trace)} n := by
    obtain ⟨r, known, rfl⟩ := Option.map_eq_some_iff.1 found
    exact same ▸ books.range.least r known
  have greatest (n : UInt64) (found : (s.result seat now).maxElements = some n) :
      IsGreatest {n | n ∈ countsOf settings.maxNextFailures.toNat (passes trace)} n := by
    obtain ⟨r, known, rfl⟩ := Option.map_eq_some_iff.1 found
    exact same ▸ books.range.greatest r known
  exact
    { tried := by omega
      refusals := by omega
      refused := by omega
      last
      closed := by
        rw [split]
        exact List.forall_mem_append.2 ⟨closed, books.closed⟩
      opened := by
        rw [tried, refusals, split, List.length_append]
        omega
      made := by
        rw [made, split, countP_append_of_going going fun _ h => h,
          List.countP_eq_length.2 books.ended]
      balance := by
        have part : (if cut ≠ [] then 1 else 0) = cut.length := by
          cases cut with
          | nil => rfl
          | cons c r =>
            rw [List.length_cons] at one ⊢
            rw [if_pos (List.cons_ne_nil c r)]
            omega
        rw [tried, refusals, made, if_congr unfinished rfl rfl, part]
        omega
      stopped := fun part => stopped (unfinished.1 part)
      failed := by
        rw [failed, split, countP_append_of_going going fun _ h => (Course.fails_iff.1 h).1]
      failure := by
        rw [refusals, failed]
        exact books.failure
      unset := by
        rw [← unset]
        exact ⟨Option.map_eq_none_iff, Option.map_eq_none_iff⟩
      least
      greatest
      exact := fun small => ⟨fun n found => isLeast_entriesOf small (least n found),
        fun n found => isGreatest_entriesOf small (greatest n found)⟩
      complete := by
        rw [tried, made, refusals]
        intro accepted running calm
        have all := complete accepted running calm
        omega }

theorem AllOpened.count_eq (opened : AllOpened trace) :
    trace.countP (fun e => e.answer = .opened false) = 0 :=
  List.countP_eq_zero.2 fun e he refused => opened e he (of_decide_eq_true refused)

theorem AllOpened.last (opened : AllOpened trace) {later earlier : List Event} {e : Event}
    (split : trace = later ++ e :: earlier) (refused : e.answer = .opened false) : later = [] :=
  absurd refused (opened e (by simp [split]))

end

section

variable {settings : IterateSettings} {trace : List Event} {s : State C} (opened : AllOpened trace)

include opened

/-- A stressor ends between two passes, because it is asked to or because it has made all. -/
theorem addsUp_of_between (seat : Seat) {stopping : Bool}
    (books : Books settings (passes trace) 0 0 s)
    (last : stopping ∨ settings.numLoops.toNat ≤ s.iteration) (now : Instant) :
    AddsUp settings trace stopping (s.result seat now) := by
  have books : Books settings (passes trace) (([] : List Course).length + 0) 0 s := books
  have all (running : stopping = false) : (passes trace).length = settings.numLoops.toNat := by
    have enough := last.resolve_left (by simp [running])
    exact Nat.le_antisymm books.allowed (books.iteration ▸ enough)
  exact addsUp_of_books books (Nat.zero_le _) rfl opened.count_eq.symm
    (fun _ _ _ split => opened.last split) nofun nofun (absurd rfl)
    (fun _ running _ => all running) now

/-- A stressor ends after it has closed the cursor of a pass, because it was asked to. -/
theorem addsUp_of_stopped (seat : Seat) {stopping success : Bool} {c : Course}
    {before : List Course} (split : passes trace = c :: before)
    (going : ¬ c.isOver settings.maxNextFailures.toNat) (books : Books settings before 1 0 s)
    (now : Instant) :
    AddsUp settings (⟨true, .closed success⟩ :: trace) stopping (s.result seat now) := by
  have inside : (Answer.closed success).IsInside := isInside_closed
  have opened := opened.cons inside true
  have books : Books settings before ([Answer.closed success :: c].length + 0) 0 s := books
  refine addsUp_of_books books (Nat.le_refl 1) (passes_cons inside split true)
    opened.count_eq.symm (fun _ _ _ split => opened.last split) ?_ ?_
    (fun _ => ⟨_, .head _, rfl⟩) (fun _ _ calm => nomatch calm _ (.head _)) now
  · exact List.forall_mem_singleton.2 (Course.isOver_closed.not.2 going)
  · exact List.forall_mem_singleton.2 ⟨success, .head _⟩

/-- A stressor ends after it was refused a cursor. -/
theorem addsUp_of_refused (seat : Seat) {stopping asked : Bool}
    (books : Books settings (passes trace) 1 1 s) (now : Instant) :
    AddsUp settings (⟨asked, .opened false⟩ :: trace) stopping (s.result seat now) := by
  have books : Books settings (passes trace) (([] : List Course).length + 1) 1 s := books
  have split : passes (⟨asked, .opened false⟩ :: trace) = [] ++ passes trace := rfl
  refine addsUp_of_books books (Nat.le_refl 1) split ?_ ?_ nofun nofun (absurd rfl) nofun now
  · rw [List.countP_cons_of_pos (by simp), opened.count_eq]
  · intro later e earlier split refused
    cases later with
    | nil => rfl
    | cons first later =>
      obtain ⟨-, split⟩ := List.cons.inj split
      exact absurd refused (opened e (by simp [split]))

end

/-- **What a result adds up to.** Whatever a store answers to a stressor and whenever the stressor
is asked to stop, the counters of cursors and passes, the range of entries and the failure in its
result tell of the same passes. -/
theorem Ends.addsUp {settings : IterateSettings} {seat : Seat} {begun : Instant}
    {trace : List Event} {stopping : Bool} {result : IterationResult}
    (ends : Ends C settings seat begun trace stopping result)
    (few : ∀ c ∈ passes trace, c.failedSteps < 2 ^ 32) :
    AddsUp settings trace stopping result := by
  obtain ⟨s, time, run, turn⟩ := ends
  obtain rfl := State.result_of_finish turn
  cases run.stands few with
  | between phase opened books =>
    refine addsUp_of_between opened seat books ?_ time
    rw [State.turn, phase] at turn
    dsimp only at turn
    split at turn
    · next last => simpa using last
    · cases turn
  | within place opened split books =>
    -- in a pass a stressor makes calls
    rw [State.turn] at turn
    generalize s.phase = phase at place turn
    cases place with
    | asking =>
      dsimp only at turn
      split at turn <;> cases turn
    | stepping | closing => cases turn
  | stopped phase opened split going books =>
    exact addsUp_of_stopped opened seat split going books time
  | refused phase opened books => exact addsUp_of_refused opened seat books time

/-- The first of two passes finds an entry, and the second is stopped. -/
theorem Ends.addsUp_stopped :
    let settings : IterateSettings := { numLoops := 2 }
    let trace : List Event :=
      [⟨true, .closed true⟩, ⟨false, .opened true⟩, ⟨false, .closed true⟩,
        ⟨false, .told (some false)⟩, ⟨false, .stepped true⟩, ⟨false, .told (some true)⟩,
        ⟨false, .opened true⟩]
    (∀ c ∈ passes trace, c.failedSteps < 2 ^ 32) ∧
      ∃ result, Ends Unit settings ⟨0, WallTime.ofNanos 0⟩ 0 trace true result ∧
        AddsUp settings trace true result := by
  intro settings trace
  have few : ∀ c ∈ passes trace, c.failedSteps < 2 ^ 32 := by decide
  have ends : ∃ result, Ends Unit settings ⟨0, WallTime.ofNanos 0⟩ 0 trace true result := by
    let seat : Seat := ⟨0, WallTime.ofNanos 0⟩
    have run : Runs settings seat 0 [] (start (C := Unit) settings seat 0) := .start
    have run := run.answered (rfl : State.turn _ settings seat 0 false = .call _)
      (.iterate (.ok ()) 1)
    have run := run.answered (rfl : State.turn _ settings seat 1 false = .call _)
      (.hasNext (.ok true) 2)
    have run := run.answered (rfl : State.turn _ settings seat 2 false = .call _)
      (.next (.ok (⟨"key", #[]⟩, ())) 3)
    have run := run.answered (rfl : State.turn _ settings seat 3 false = .call _)
      (.hasNext (.ok false) 4)
    have run := run.answered (rfl : State.turn _ settings seat 4 false = .call _)
      (.close (.ok ()) 5)
    have run := run.answered (rfl : State.turn _ settings seat 5 false = .call _)
      (.iterate (.ok ()) 6)
    have run := run.answered (rfl : State.turn _ settings seat 6 true = .call _)
      (.close (.ok ()) 7)
    exact ⟨_, _, 7, run, rfl⟩
  obtain ⟨result, ends⟩ := ends
  exact ⟨few, result, ends, ends.addsUp few⟩

end LoadFleet.Iterate
