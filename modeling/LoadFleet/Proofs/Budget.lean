import LoadFleet.Proofs.Rounds
import LoadFleet.Worker.Worker
import Mathlib.Algebra.BigOperators.Fin
import Mathlib.Algebra.Order.BigOperators.Group.Finset
/-!
# A shared budget of requests

The stressors of a stress test take claims out of one budget. A `Moment` of the test is what is left
of it, and the phase that each stressor is in. The stressors follow each other in any order
(`Moment.Next`): between the claim of one, its call and its answer the others may do whatever they
do next. The store answers what it likes, the dice fall as they like, a stressor may be asked to
stop at any time, and it may be lost wherever it is.

* `State.turn_cases`, `Trial.step_cases`: what a turn comes to.
* `Trial.of_step_finish`, `Trial.of_step_call`: what is known from it.
* `Moment.Runs.budget`: by induction over a run, what is left and what was claimed are the budget.
* `Moment.Follows`: what happened to one stressor is a list of rounds, each a claim, a call and an
  answer, and its statistics are these rounds. At most the last claim is not answered.
* `Moment.Runs.follows`: by induction over a run, this holds of each stressor.
* `Moment.Runs.accounts`: the main statement.
-/

namespace LoadFleet.Stress

open Statistics (Round Recorded)

/-! ### Turns -/

/-- What a turn comes to. A stressor that gave up or is asked to stop ends and claims nothing;
otherwise it makes a claim, and asks the store for something if the claim is granted, and ends if it
is refused. -/
theorem State.turn_cases {C : Type} (s : State) (setup : Setup) (now : Instant) (stopping : Bool)
    (c : Completion) :
    (s.failure ≠ none ∨ stopping = true) ∧
      s.turn (C := C) setup now stopping c = (.finish (s.result setup now), c) ∨
    (s.failure = none ∧ stopping = false) ∧
      ((c.claim now setup.lag).1 = true ∧ s.turn (C := C) setup now stopping c =
          (.call (.invoke setup.settings.container (setup.draw s.drawn)
            (s.onResponse setup (setup.draw s.drawn) (c.decided now setup.lag))),
              (c.claim now setup.lag).2) ∨
        (c.claim now setup.lag).1 = false ∧ s.turn (C := C) setup now stopping c =
          (.finish (s.result setup (c.decided now setup.lag)), (c.claim now setup.lag).2)) := by
  rw [turn]
  by_cases done : s.failure.isSome || stopping
  · refine .inl ⟨?_, if_pos done⟩
    rwa [Bool.or_eq_true, Option.isSome_iff_ne_none] at done
  · rw [if_neg done]
    rw [Bool.not_eq_true, Bool.or_eq_false_iff, Option.isSome_eq_false_iff,
      Option.isNone_iff_eq_none] at done
    refine .inr ⟨done, ?_⟩
    dsimp only
    cases granted : (c.claim now setup.lag).1 with
    | true => exact .inl ⟨rfl, rfl⟩
    | false => exact .inr ⟨rfl, rfl⟩

/-- A stress test of a worker: what its stressors work with. The dice may fall in any way. -/
structure Trial where
  settings : StressSettings
  seats : Nat → Seat
  dice : Nat → Dice
  /-- How many nanoseconds pass between two readings of the clock in a row. -/
  lag : Nat

namespace Trial

/-- The number of stressors. -/
abbrev size (t : Trial) : Nat := t.settings.test.threads.toNat

/-- What the stressors put. -/
def value (t : Trial) : Bytes := .zeros t.settings.entrySize.toNat

/-- The stress test that a worker runs. -/
def ofWorker (settings : StressSettings) (env : Surroundings) : Trial :=
  ⟨settings, env.seat, fun i => seeded (env.seed + i.toUInt64), env.lag⟩

/-- What a stressor works with. -/
def setup (t : Trial) (weights : Weights) (i : Nat) : Setup :=
  ⟨t.settings, weights, t.value, t.seats i, t.dice i, t.lag⟩

/-- A stressor before its first turn. -/
def start (t : Trial) (i : Nat) (now : Instant) : State :=
  ⟨(t.seats i).begin t.settings.test.stats now, 0, 0, none⟩

/-- How a stressor takes a turn. -/
def step (t : Trial) : Step Completion State Result := fun i s now stopping completion =>
  match weights? t.settings with
  | .ok weights => s.turn (t.setup weights i) now stopping completion
  | .error reason =>
    (.finish ⟨.empty t.settings.test.stats, some s!"invalid operation ratios: {reason}"⟩,
      completion)

theorem step_ofWorker (settings : StressSettings) (env : Surroundings) :
    (ofWorker settings env).step = Stress.step settings (.zeros settings.entrySize.toNat) env :=
  rfl

section

variable {t : Trial} {w : Weights} (weighed : weights? t.settings = .ok w)

include weighed

theorem step_of_weights (i : Nat) (s : State) (now : Instant) (stopping : Bool) (c : Completion) :
    t.step i s now stopping c = s.turn (t.setup w i) now stopping c := by
  simp only [step, weighed]

variable {i : Nat} {s : State} {now : Instant} {stopping : Bool} {c c' : Completion}

/-- A stressor ends as it is. It gave up before or is asked to stop, or a claim is refused. -/
theorem of_step_finish {result : Result}
    (turn : t.step i s now stopping c = (.finish result, c')) :
    result.failure = s.failure ∧
      ((s.failure ≠ none ∨ stopping = true) ∧ c' = c ∨
        s.failure = none ∧ (c.claim now t.lag).1 = false) := by
  rw [step_of_weights weighed] at turn
  rcases s.turn_cases (t.setup w i) now stopping c with
    ⟨done, finish⟩ | ⟨⟨unfailed, -⟩, ⟨-, call⟩ | ⟨refused, finish⟩⟩
  · cases finish.symm.trans turn
    exact ⟨rfl, .inl ⟨done, rfl⟩⟩
  · cases call.symm.trans turn
  · cases finish.symm.trans turn
    exact ⟨rfl, .inr ⟨unfailed, refused⟩⟩

/-- A stressor that asks the store for something did not give up. -/
theorem of_step_call {ask : Ask Simulated.Cursor State}
    (turn : t.step i s now stopping c = (.call ask, c')) :
    s.failure = none ∧ ∃ operation, ask = .invoke t.settings.container operation
      (s.onResponse (t.setup w i) operation (c.decided now t.lag)) := by
  rw [step_of_weights weighed] at turn
  rcases s.turn_cases (t.setup w i) now stopping c with
    ⟨-, finish⟩ | ⟨⟨unfailed, -⟩, ⟨-, call⟩ | ⟨-, finish⟩⟩
  · cases finish.symm.trans turn
  · cases call.symm.trans turn
    exact ⟨unfailed, _, rfl⟩
  · cases finish.symm.trans turn

end

/-- What a turn comes to while a budget is left or used up. Either the stressor ends and claims
nothing, for which there is no reason but an empty budget if it neither gave up nor is asked to
stop, or it takes one claim, and will ask the store for one thing. Without weights it returns empty
statistics. -/
theorem step_cases (t : Trial) (i : Nat) (s : State) (now : Instant) (stopping : Bool)
    (left : UInt64) :
    (∃ result, t.step i s now stopping (.requests left) = (.finish result, .requests left) ∧
      (result.failure = none → stopping = false → left = 0) ∧
      (result.stats.operations = s.stats.operations ∨
        (∀ w, weights? t.settings ≠ .ok w) ∧
          result.stats.operations = (Statistics.empty t.settings.test.stats).operations)) ∨
    (left ≠ 0 ∧ ∃ w operation, weights? t.settings = .ok w ∧
      t.step i s now stopping (.requests left) =
        (.call (.invoke t.settings.container operation (s.onResponse (t.setup w i) operation now)),
          .requests (left - 1))) := by
  simp only [step]
  cases weights? t.settings with
  | error reason => exact .inl ⟨_, rfl, nofun, .inr ⟨nofun, rfl⟩⟩
  | ok w =>
    simp only [State.turn, Completion.claim, Completion.decided]
    by_cases done : s.failure.isSome || stopping
    · refine .inl ⟨_, by rw [if_pos done], fun unfailed running => ?_, .inl rfl⟩
      simp only [State.result] at unfailed
      simp [unfailed, running] at done
    · rw [if_neg done]
      by_cases used : left = 0
      · exact .inl ⟨s.result (t.setup w i) now, by simp [used], fun _ _ => used, .inl rfl⟩
      · exact .inr ⟨used, w, (t.setup w i).draw s.drawn, rfl, by simp [used, setup]⟩

end Trial

/-! ### Moments of a stress test -/

/-- The phase that a stressor is in. -/
inductive Phase where
  | ready (state : State)
  /-- It is granted a request, which it has not made yet. -/
  | claimed (ask : Ask Simulated.Cursor State)
  /-- It waits for the answer of the store. -/
  | calling (ask : Ask Simulated.Cursor State)
  | returned (result : Result)
  /-- It crashed, was aborted, or will never get an answer. -/
  | lost

namespace Phase

/-- The result that a stressor returned. -/
def result? : Phase → Option Result
  | returned result => some result
  | _ => none

/-- Whether a stressor goes on. -/
def goesOn : Phase → Bool
  | ready _ | claimed _ | calling _ => true
  | returned _ | lost => false

/-- The number of requests that a stressor returned. -/
def share (p : Phase) : Nat := p.result?.elim 0 fun r => r.stats.total

end Phase

/-- Something that happens to one of `n` stressors. -/
inductive Happening (n : Nat) where
  /-- It is granted a request. -/
  | claimed (unit : Fin n)
  /-- It asks the store for something. -/
  | called (unit : Fin n) (operation : Operation)
  /-- The store answers. -/
  | answered (unit : Fin n) (response : Except StoreError Response)
  /-- It ends with a result, and has been asked to stop or not. -/
  | ended (unit : Fin n) (stopping : Bool) (result : Result)
  | lost (unit : Fin n)

namespace Happening

variable {n : Nat}

/-- The stressor to which something happens. -/
def unit : Happening n → Fin n
  | claimed i | called i _ | answered i _ | ended i _ _ | lost i => i

/-- Whether a request is granted. -/
def isClaim : Happening n → Bool
  | claimed _ => true
  | _ => false

end Happening

/-- A moment of a stress test: what may still be claimed, and the phases of the stressors. -/
structure Moment (n : Nat) where
  completion : Completion
  phases : Fin n → Phase

namespace Moment

variable {n : Nat} {t : Trial}

/-- The start: nothing is claimed yet, and each stressor is ready. -/
def opening (t : Trial) (now : Nat → Instant) : Moment t.size :=
  ⟨.ofSettings t.settings, fun i => .ready (t.start i (now i))⟩

/-- What one stressor does next, with what may be claimed before and after. It takes its turn, at
any time and asked to stop or not; it makes the call for which it was granted a request; its call is
answered, at any time and in any way; or it is lost. -/
inductive Passes (t : Trial) (i : Fin n) :
    Completion → Phase → Happening n → Completion → Phase → Prop where
  | claim {c c' : Completion} {s : State} {now : Instant} {stopping : Bool}
    {ask : Ask Simulated.Cursor State} (turn : t.step i s now stopping c = (.call ask, c')) :
    Passes t i c (.ready s) (.claimed i) c' (.claimed ask)
  | finish {c c' : Completion} {s : State} {now : Instant} {stopping : Bool} {result : Result}
    (turn : t.step i s now stopping c = (.finish result, c')) :
    Passes t i c (.ready s) (.ended i stopping result) c' (.returned result)
  | call {c : Completion} {container : Option String} {operation : Operation}
    {goOn : Except StoreError Response → Instant → State} :
    Passes t i c (.claimed (.invoke container operation goOn)) (.called i operation)
      c (.calling (.invoke container operation goOn))
  | answer {c : Completion} {container : Option String} {operation : Operation}
    {goOn : Except StoreError Response → Instant → State} (response : Except StoreError Response)
    (now : Instant) :
    Passes t i c (.calling (.invoke container operation goOn)) (.answered i response)
      c (.ready (goOn response now))
  | lose {c : Completion} {p : Phase} (running : p.goesOn) : Passes t i c p (.lost i) c .lost

/-- What may happen next: any one of the stressors does something. -/
inductive Next (t : Trial) (m : Moment n) : Happening n → Moment n → Prop where
  | pass {i : Fin n} {h : Happening n} {c : Completion} {p : Phase}
    (passes : Passes t i m.completion (m.phases i) h c p) :
    Next t m h ⟨c, Function.update m.phases i p⟩

/-- What happened from a first moment up to another one. -/
inductive Runs (t : Trial) (first : Moment n) : List (Happening n) → Moment n → Prop where
  | start : Runs t first [] first
  | next {trace : List (Happening n)} {m m' : Moment n} {h : Happening n}
    (run : Runs t first trace m) (step : Next t m h m') : Runs t first (trace ++ [h]) m'

/-- The number of requests that the stressors returned together. -/
def recorded (m : Moment n) : Nat := ∑ i, (m.phases i).share

/-! ### The budget -/

namespace Passes

variable {i : Fin n} {left : UInt64} {c : Completion} {p p' : Phase} {h : Happening n}

theorem unit_eq (passes : Passes t i c p h c' p') : h.unit = i := by
  cases passes <;> rfl

/-- One claim is taken out of the budget if a request is granted, and none otherwise. -/
theorem budget (passes : Passes t i (.requests left) p h c p') :
    ∃ left', c = .requests left' ∧
      left'.toNat + (if h.isClaim then 1 else 0) = left.toNat := by
  cases passes with
  | @claim _ s now stopping _ turn =>
    rcases t.step_cases i s now stopping left with ⟨_, finish, -⟩ | ⟨some, _, _, -, claim⟩
    · cases finish.symm.trans turn
    · cases claim.symm.trans turn
      refine ⟨left - 1, rfl, ?_⟩
      have : left.toNat ≠ 0 := fun zero => some (UInt64.toNat_inj.1 zero)
      rw [UInt64.toNat_sub_of_le _ _ (UInt64.le_iff_toNat_le.2 (by simp; omega))]
      simp only [Happening.isClaim, if_true, UInt64.toNat_one]
      omega
  | @finish _ s now stopping _ turn =>
    rcases t.step_cases i s now stopping left with ⟨_, finish, -⟩ | ⟨-, _, _, -, claim⟩
    · cases finish.symm.trans turn
      exact ⟨left, rfl, rfl⟩
    · cases claim.symm.trans turn
  | call | answer | lose => exact ⟨left, rfl, rfl⟩

/-- Only an empty budget makes a stressor end that neither gave up nor was asked to stop. -/
theorem exhausted {result : Result} {j : Fin n}
    (passes : Passes t i (.requests left) p (.ended j false result) c p')
    (unfailed : result.failure = none) : left = 0 := by
  cases passes with
  | @finish _ s now _ _ turn =>
    rcases t.step_cases i s now false left with ⟨_, finish, reason, -⟩ | ⟨-, _, _, -, claim⟩
    · cases finish.symm.trans turn
      exact reason unfailed rfl
    · cases claim.symm.trans turn

end Passes

variable {now : Nat → Instant} {trace : List (Happening t.size)} {m m' : Moment t.size}
  {h : Happening t.size}

/-- What is left and what was claimed are the budget. -/
theorem Runs.budget (requests : t.settings.duration = none)
    (run : Runs t (opening t now) trace m) :
    ∃ left, m.completion = .requests left ∧
      left.toNat + trace.countP Happening.isClaim = t.settings.numRequests.toNat := by
  induction run with
  | start =>
    exact ⟨t.settings.numRequests, by simp [opening, Completion.ofSettings, requests], rfl⟩
  | next _ step ih =>
    obtain ⟨left, before, sum⟩ := ih
    obtain ⟨passes⟩ := step
    obtain ⟨left', after, taken⟩ := (before ▸ passes).budget
    refine ⟨left', after, ?_⟩
    rw [List.countP_append, List.countP_singleton]
    omega

/-- A stressor ended because the budget was used up. -/
def EndedByBudget (trace : List (Happening n)) (i : Fin n) : Prop :=
  ∃ result, .ended i false result ∈ trace ∧ result.failure = none

/-- A budget that is used up stays used up. -/
theorem Runs.exhausted (requests : t.settings.duration = none)
    (run : Runs t (opening t now) trace m) {i : Fin t.size} (ended : EndedByBudget trace i) :
    m.completion = .requests 0 := by
  induction run with
  | start =>
    obtain ⟨_, none, -⟩ := ended
    cases none
  | next run step ih =>
    obtain ⟨result, hm, unfailed⟩ := ended
    obtain ⟨left, before, -⟩ := run.budget requests
    obtain ⟨passes⟩ := step
    rw [before] at passes
    have used : left = 0 := by
      rcases List.mem_append.1 hm with hm | hm
      · exact Completion.requests.inj (before.symm.trans (ih ⟨result, hm, unfailed⟩))
      · cases List.mem_singleton.1 hm
        exact passes.exhausted unfailed
    obtain ⟨left', after, sum⟩ := passes.budget
    have zero : left' = 0 := UInt64.toNat_inj.1 (by simp [used] at sum ⊢; omega)
    exact after.trans (congrArg Completion.requests zero)

/-! ### One stressor -/

/-- What happens to a stressor while it makes requests that are answered. -/
def rounds (i : Fin n) (log : List Round) : List (Happening n) :=
  log.flatMap fun r => [.claimed i, .called i r.operation, .answered i r.response]

theorem rounds_append (i : Fin n) (log : List Round) (r : Round) :
    rounds i (log ++ [r]) =
      rounds i log ++ [.claimed i, .called i r.operation] ++ [.answered i r.response] := by
  simp [rounds]

theorem countP_rounds (i : Fin n) (log : List Round) :
    (rounds i log).countP Happening.isClaim = log.length := by
  induction log with
  | nil => rfl
  | cons r rest ih =>
    rw [rounds, List.flatMap_cons, List.countP_append, ← rounds, ih, List.length_cons, Nat.add_comm]
    rfl

/-- What happened to a stressor since its last answer, if it is lost now. -/
inductive Pending (i : Fin n) : List (Happening n) → Prop where
  | none : Pending i []
  | claimed : Pending i [.claimed i]
  | called (operation : Operation) : Pending i [.claimed i, .called i operation]

/-- The phase that a stressor is in, by what happened to it. Round by round it was granted a
request, made one call and got the answer, and its statistics are these rounds. A stressor that
returns has no other claims; one that is lost may have one more. -/
inductive Follows (t : Trial) (i : Fin n) : Phase → List (Happening n) → Prop where
  | ready {s : State} {log : List Round} (h : Recorded s.stats log)
    (weighed : log ≠ [] → ∃ w, weights? t.settings = .ok w) :
    Follows t i (.ready s) (rounds i log)
  | claimed {s : State} {log : List Round} {w : Weights} {operation : Operation} {asked : Instant}
    (h : Recorded s.stats log) (weighed : weights? t.settings = .ok w) :
    Follows t i
      (.claimed (.invoke t.settings.container operation
        (s.onResponse (t.setup w i) operation asked)))
      (rounds i log ++ [.claimed i])
  | calling {s : State} {log : List Round} {w : Weights} {operation : Operation} {asked : Instant}
    (h : Recorded s.stats log) (weighed : weights? t.settings = .ok w) :
    Follows t i
      (.calling (.invoke t.settings.container operation
        (s.onResponse (t.setup w i) operation asked)))
      (rounds i log ++ [.claimed i, .called i operation])
  | returned {result : Result} {log : List Round} {stopping : Bool}
    (h : Recorded result.stats log) :
    Follows t i (.returned result) (rounds i log ++ [.ended i stopping result])
  | lost (log : List Round) {pending : List (Happening n)} (h : Pending i pending) :
    Follows t i .lost (rounds i log ++ pending ++ [.lost i])

/-- Recording an answer. -/
theorem recorded_onResponse {s : State} {log : List Round} (h : Recorded s.stats log)
    (setup : Setup) (operation : Operation) (response : Except StoreError Response)
    (asked now : Instant) (few : log.length + 1 < 2 ^ 64) :
    Recorded (s.onResponse setup operation asked response now).stats
      (log ++ [⟨operation, response⟩]) := by
  have := h.record ⟨operation, response⟩ (asked.spanTo now) few
  cases response <;> exact this

/-- What happens to a stressor next keeps it in step, as long as words can count its claims. -/
theorem Passes.follows {i : Fin n} {left : UInt64} {c : Completion} {p p' : Phase}
    {h : Happening n} {own : List (Happening n)} (passes : Passes t i (.requests left) p h c p')
    (few : own.countP Happening.isClaim < 2 ^ 64) (follows : Follows t i p own) :
    Follows t i p' (own ++ [h]) := by
  cases passes with
  | @claim _ s now stopping _ turn =>
    obtain ⟨recorded, -⟩ := follows
    rcases t.step_cases i s now stopping left with ⟨_, finish, -⟩ | ⟨-, w, _, weighed, claim⟩
    · cases finish.symm.trans turn
    · cases claim.symm.trans turn
      exact .claimed recorded weighed
  | @finish _ s now stopping _ turn =>
    obtain @⟨_, log, recorded, some⟩ := follows
    rcases t.step_cases i s now stopping left with
      ⟨result, finish, -, same | ⟨none, empty⟩⟩ | ⟨-, _, _, -, claim⟩
    · cases finish.symm.trans turn
      exact .returned (recorded.of_operations same)
    · cases finish.symm.trans turn
      have untouched : log = [] := by
        by_contra touched
        obtain ⟨w, weighed⟩ := some touched
        exact none w weighed
      subst untouched
      exact .returned ((Recorded.empty _).of_operations empty)
    · cases claim.symm.trans turn
  | call =>
    cases follows with
    | claimed recorded weighed =>
      rw [List.append_assoc]
      exact .calling recorded weighed
  | @answer _ operation _ response now =>
    cases follows with
    | @calling s log w _ asked recorded weighed =>
      have few : log.length + 1 < 2 ^ 64 := by
        rw [List.countP_append, countP_rounds] at few
        exact few
      have answered := recorded_onResponse recorded (t.setup w i) operation response asked now few
      rw [← rounds_append i log ⟨operation, response⟩]
      exact .ready answered fun _ => ⟨w, weighed⟩
  | lose running =>
    cases follows with
    | @ready _ log => exact List.append_nil (rounds i log) ▸ .lost log .none
    | claimed => exact .lost _ .claimed
    | calling => exact .lost _ (.called _)
    | returned | lost => cases running

/-- What happens next keeps each stressor in step. -/
theorem Next.follows {m m' : Moment n} {h : Happening n} {i : Fin n} {left : UInt64}
    {own : List (Happening n)} (step : Next t m h m') (before : m.completion = .requests left)
    (few : own.countP Happening.isClaim < 2 ^ 64) (follows : Follows t i (m.phases i) own) :
    Follows t i (m'.phases i) (own ++ [h].filter fun h => h.unit = i) := by
  obtain @⟨j, _, c, p, passes⟩ := step
  rw [List.filter_singleton, passes.unit_eq]
  by_cases here : i = j
  · subst here
    rw [before] at passes
    simpa using passes.follows few follows
  · simpa [Function.update_of_ne here, Ne.symm here] using follows

/-- What happened to each stressor is what its phase says. -/
theorem Runs.follows (requests : t.settings.duration = none)
    (run : Runs t (opening t now) trace m) (i : Fin t.size) :
    Follows t i (m.phases i) (trace.filter fun h => h.unit = i) := by
  induction run with
  | start =>
    have : Recorded (t.start i (now i)).stats [] :=
      (Recorded.empty t.settings.test.stats).of_operations rfl
    exact .ready this fun touched => absurd rfl touched
  | @next trace _ _ h run step ih =>
    obtain ⟨left, before, sum⟩ := run.budget requests
    have few : (trace.filter fun h => h.unit = i).countP Happening.isClaim < 2 ^ 64 := by
      have own := (List.filter_sublist (p := fun h => h.unit = i) (l := trace)).countP_le
        (p := Happening.isClaim)
      have := t.settings.numRequests.toNat_lt
      omega
    rw [List.filter_append]
    exact step.follows before few ih

/-! ### All stressors -/

/-- Each claim is granted to one stressor. -/
theorem sum_claims (trace : List (Happening n)) :
    ∑ i, (trace.filter fun h => h.unit = i).countP Happening.isClaim =
      trace.countP Happening.isClaim := by
  simp only [List.countP_filter]
  induction trace with
  | nil => simp
  | cons h rest ih =>
    simp only [List.countP_cons, Finset.sum_add_distrib, ih]
    cases h.isClaim <;> simp

/-- A stressor returns one request for each claim, if it returns. -/
theorem Follows.share_le {i : Fin n} {p : Phase} {own : List (Happening n)}
    (h : Follows t i p own) :
    p.share ≤ own.countP Happening.isClaim ∧
      (p.result? ≠ none → p.share = own.countP Happening.isClaim) := by
  cases h with
  | ready | claimed | calling | lost => exact ⟨Nat.zero_le _, fun some => absurd rfl some⟩
  | @returned result log stopping h =>
    have all : result.stats.total =
        (rounds i log ++ [Happening.ended i stopping result]).countP Happening.isClaim := by
      rw [List.countP_append, countP_rounds, h.total_eq]
      rfl
    exact ⟨all.le, fun _ => all⟩

theorem Follows.result_ne_none {i : Fin n} {p : Phase} {own : List (Happening n)}
    (h : Follows t i p own) {stopping : Bool} {result : Result}
    (ended : .ended i stopping result ∈ own) : p.result? ≠ none := by
  cases h with
  | returned => nofun
  | ready | claimed | calling => simp [rounds] at ended
  | lost _ h => cases h <;> simp [rounds] at ended

/-- All stressors together return one request for each claim, if all of them return. -/
theorem Runs.recorded_le (requests : t.settings.duration = none)
    (run : Runs t (opening t now) trace m) :
    m.recorded ≤ trace.countP Happening.isClaim ∧
      ((∀ i, (m.phases i).result? ≠ none) →
        m.recorded = trace.countP Happening.isClaim) := by
  have each (i : Fin t.size) := (run.follows requests i).share_le
  rw [recorded, ← sum_claims]
  exact ⟨Finset.sum_le_sum fun i _ => (each i).1, fun all =>
    Finset.sum_congr rfl fun i _ => (each i).2 (all i)⟩

/-- **A budget is neither exceeded nor lost.** In every run of a stress test with a budget of
requests, what was claimed and what is left are the budget. Each stressor has made its claims one by
one, each with one call and one answer, and recorded these. So the requests that are returned are
not more than the budget, and they are the whole budget when every stressor, and there is one, ended
because nothing of it was left. -/
theorem Runs.accounts (requests : t.settings.duration = none)
    (run : Runs t (opening t now) trace m) :
    (∃ left, m.completion = .requests left ∧
      left.toNat + trace.countP Happening.isClaim = t.settings.numRequests.toNat) ∧
    (∀ i, Follows t i (m.phases i) (trace.filter fun h => h.unit = i)) ∧
    m.recorded ≤ t.settings.numRequests.toNat ∧
    (0 < t.size → (∀ i, EndedByBudget trace i) →
      m.recorded = t.settings.numRequests.toNat) := by
  obtain ⟨left, budget, sum⟩ := run.budget requests
  obtain ⟨within, exact⟩ := run.recorded_le requests
  refine ⟨⟨left, budget, sum⟩, run.follows requests, by omega, fun some ended => ?_⟩
  have used : left = 0 :=
    Completion.requests.inj (budget.symm.trans (run.exhausted requests (ended ⟨0, some⟩)))
  have all (i : Fin t.size) : (m.phases i).result? ≠ none := by
    obtain ⟨result, he, -⟩ := ended i
    exact (run.follows requests i).result_ne_none
      (List.mem_filter.2 ⟨he, by simp [Happening.unit]⟩)
  rw [exact all, ← sum, used]
  simp

/-- Two stressors and one request: the first claims it, the second ends before it is made, and then
its call fails. -/
theorem Runs.accounts_two :
    let settings : StressSettings := { test := { threads := 2 }, numRequests := 1 }
    let t : Trial := ⟨settings, fun i => ⟨i, .ofNanos 0⟩, fun _ _ => ⟨0, 7⟩, 0⟩
    ∃ trace m, Runs t (opening t fun _ => 0) trace m ∧ (∀ i, EndedByBudget trace i) ∧
      trace.countP Happening.isClaim = 1 ∧ m.recorded = 1 := by
  intro settings t
  have used : settings.numRequests - 1 = 0 := by decide
  have one : (1 : Nat) < t.size := by decide
  let a : Fin t.size := ⟨0, Nat.lt_trans Nat.zero_lt_one one⟩
  let b : Fin t.size := ⟨1, one⟩
  have first := (@Runs.start t.size t (opening t fun _ => 0)).next (@Next.pass _ _ _ a _ _ _
    (@Passes.claim _ _ _ _ (.requests 0) _ 5 false _
      (congrArg (fun left => (_, Completion.requests left)) used)))
  have second := first.next (@Next.pass _ _ _ b _ _ _ (@Passes.finish _ _ _ _ _ _ 6 false _ rfl))
  have third := second.next (@Next.pass _ _ _ a _ _ _ .call)
  have fourth := third.next (@Next.pass _ _ _ a _ _ _ (.answer (.error (.unavailable "busy")) 8))
  have run := fourth.next (@Next.pass _ _ _ a _ _ _ (@Passes.finish _ _ _ _ _ _ 8 false _ rfl))
  obtain ⟨-, -, -, all⟩ := run.accounts rfl
  have both (i : Fin t.size) : i = a ∨ i = b := by
    have : i.1 < 2 := i.2
    simp only [Fin.ext_iff, a, b]
    omega
  refine ⟨_, _, run, (fun ended => ⟨ended, rfl, all (by decide) ended⟩) fun i => ?_⟩
  rcases both i with rfl | rfl
  · exact ⟨_, List.mem_append_right _ (.head _), rfl⟩
  · exact ⟨_, List.mem_append_left _ (List.mem_append_left _ (List.mem_append_left _
      (List.mem_append_right _ (.head _)))), rfl⟩

end Moment

end LoadFleet.Stress
