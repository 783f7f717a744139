import LoadFleet.Proofs.Streaks
/-!
# One window for all claims

A stressor claims a request of a stress test with a duration in two halves: it opens the window,
unless somebody did so before, and then it looks whether the window is still open.  It reads the
clock for the second half, and for the first one if it opens the window.  The other stressors may do
anything in between, so that a stressor may be granted a request out of a window that another one
opened later than it began its own claim, and the stressor that opens the window may be too late.

`TimedNext` are the steps of a stress test with these halves, and with the readings of the clock.  A
turn that opens the window takes two of them.

* `Completion.claim_opened`, `State.turn_opened`: both halves of a claim, one after the other, are
  the claim, and so it is for the turn with the claim.
* `Trial.Claims.claim`: what a turn with a claim comes to.
* `Moment.Runs.timed`: every run of a stress test is a timed one with the same claims.
* `Moment.TimedNext.reads`: one step opens the window or looks at one that is open, or does neither.
* `Moment.TimedRuns.window`: by induction over a run, the first reading says when the window closes.
* `Moment.TimedRuns.one_window`: the main statement.
-/

namespace LoadFleet

/-- A turn with a claim that is granted is a call. -/
def Turn.granted {C S R : Type} : Turn C S R → Bool
  | .call _ => true
  | .finish _ => false

namespace Stress

/-! ### The halves of a claim -/

namespace Completion

/-- The first half of a claim. -/
def opened (c : Completion) (now : Instant) : Completion :=
  match c with
  | requests left => requests left
  | window duration closing => window duration (some (closing.getD (now.after? duration)))

/-- There is a window that nobody has opened. -/
def Unopened (c : Completion) : Prop := ∃ d, c = window d none

variable {d : Span} {now : Instant} {lag : Nat}

/-- The second half is decided when it is made. -/
theorem decided_opened (c : Completion) (time : Instant) :
    (c.opened now).decided time lag = time := by
  cases c <;> rfl

/-- Both halves, one after the other, are the claim. -/
theorem claim_opened (c : Completion) :
    (c.opened now).claim (c.decided now lag) lag = c.claim now lag := by
  cases c with
  | requests left => rfl
  | window d closing => cases closing <;> rfl

theorem not_unopened_opened (c : Completion) : ¬ (c.opened now).Unopened := by
  rintro ⟨_, same⟩
  cases c <;> cases same

/-- A window that opens at one time is open at another one exactly if that is before its end, and
always if the clock cannot represent the end. -/
theorem all_after?_iff {time : Instant} :
    ((now.after? d).all fun t => time < t) = true ↔
      (now + d.nanos < Instant.limit → time < now + d.nanos) := by
  rw [Instant.after?]
  split
  · next representable => simp [representable]
  · next far => simp [far]

end Completion

/-- A turn with a claim is a turn with the second half of it, once the first half is made. -/
theorem State.turn_opened {C : Type} {s : State} (going : s.failure = none) (setup : Setup)
    (now : Instant) (c : Completion) :
    s.turn (C := C) setup (c.decided now setup.lag) false (c.opened now) =
      s.turn setup now false c := by
  simp only [turn, going, Option.isSome_none, Bool.or_self, Bool.false_eq_true, if_false,
    c.decided_opened, c.claim_opened]

/-- The phase that a turn leads to. -/
def Phase.ofTurn : Turn Simulated.Cursor State Result → Phase
  | .call ask => .claimed ask
  | .finish result => .returned result

/-- A stressor makes a claim in its turn: it is not asked to stop, did not give up, and can draw an
operation. -/
structure Trial.Claims (t : Trial) (s : State) (stopping : Bool) : Prop where
  running : stopping = false
  going : s.failure = none
  weighed : ∃ w, weights? t.settings = .ok w

section

variable {t : Trial} {i : Nat} {s : State} {now : Instant} {stopping : Bool} {c c' : Completion}
  {u : Turn Simulated.Cursor State Result}

/-- A turn with a claim comes to what the claim comes to. It is no failure if it is refused. -/
theorem Trial.Claims.claim (claims : t.Claims s stopping)
    (turn : t.step i s now stopping c = (u, c')) :
    c.claim now t.lag = (u.granted, c') ∧ ∀ result, u = .finish result → result.failure = none := by
  obtain ⟨rfl, going, w, weighed⟩ := claims
  rw [step_of_weights weighed] at turn
  rcases s.turn_cases (t.setup w i) now false c with
    ⟨failed | stopping, -⟩ | ⟨-, ⟨granted, call⟩ | ⟨refused, finish⟩⟩
  · exact absurd going failed
  · cases stopping
  · cases call.symm.trans turn
    exact ⟨Prod.ext granted rfl, nofun⟩
  · cases finish.symm.trans turn
    refine ⟨Prod.ext refused rfl, fun result same => ?_⟩
    cases same
    exact going

/-- What such a turn comes to is decided in the second half of its claim. -/
theorem Trial.Claims.step_opened (claims : t.Claims s false) (i : Nat) (now : Instant)
    (c : Completion) :
    t.step i s (c.decided now t.lag) false (c.opened now) = t.step i s now false c := by
  obtain ⟨-, going, w, weighed⟩ := claims
  rw [step_of_weights weighed, step_of_weights weighed]
  exact State.turn_opened going (t.setup w i) now c

/-- A turn without a claim is the last one, for a reason that is not a claim. -/
theorem Trial.of_not_claims (silent : ¬ t.Claims s stopping)
    (turn : t.step i s now stopping c = (u, c')) :
    c' = c ∧ ∃ result, u = .finish result ∧ (stopping = true ∨ result.failure ≠ none) := by
  rw [step] at turn
  cases weighed : weights? t.settings with
  | error reason =>
    rw [weighed] at turn
    cases turn
    exact ⟨rfl, _, rfl, .inr (Option.some_ne_none _)⟩
  | ok w =>
    rw [weighed] at turn
    rcases s.turn_cases (t.setup w i) now stopping c with ⟨done, finish⟩ | ⟨⟨going, running⟩, -⟩
    · cases finish.symm.trans turn
      exact ⟨rfl, _, rfl, done.symm⟩
    · exact absurd ⟨running, going, w, weighed⟩ silent

end

/-! ### Runs with readings of the clock -/

/-- A reading of the clock by one of `n` stressors. -/
inductive Reading (n : Nat) where
  /-- It opens the window. -/
  | opened (unit : Fin n) (time : Instant)
  /-- It claims a request, which is granted or not. -/
  | decided (unit : Fin n) (time : Instant) (granted : Bool)

namespace Reading

variable {n : Nat}

/-- Who reads the clock. -/
def unit : Reading n → Fin n
  | opened i _ | decided i _ _ => i

/-- The stressor whose claim is granted or refused. -/
def claim? : Reading n → Option (Fin n × Bool)
  | opened _ _ => none
  | decided i _ granted => some (i, granted)

/-- A claim out of an open window is granted exactly if it is before the end of the window. -/
def Fits (closes : Option Instant) : Reading n → Prop
  | opened _ _ => False
  | decided _ time granted => granted = closes.all fun t => time < t

/-- What fits an open window is a claim. -/
theorem Fits.claim?_ne_none {closes : Option Instant} {x : Reading n} (fits : x.Fits closes) :
    x.claim? ≠ none := by
  cases x with
  | opened => exact fits.elim
  | decided => exact Option.some_ne_none _

end Reading

/-- The claim that something comes of: a stressor that ends without a reason of its own was refused
a request. -/
def Happening.claim? {n : Nat} : Happening n → Option (Fin n × Bool)
  | claimed i => some (i, true)
  | ended i false result => if result.failure.isNone then some (i, false) else none
  | _ => none

namespace Moment

section

variable {n : Nat}

/-- What may happen next, with the reading of the clock if it is part of a claim.  A stressor that
is about to make a claim opens the window if nobody did so before; and it looks at a window that is
open, whoever opened it.  Anything may happen between the two, even to this stressor: more than what
really happens, but what is said here holds all the same. -/
inductive TimedNext (t : Trial) (m : Moment n) : Option (Reading n) → Moment n → Prop where
  | opens {i : Fin n} {s : State} (now : Instant) (ready : m.phases i = .ready s)
    (claims : t.Claims s false) (unopened : m.completion.Unopened) :
    TimedNext t m (some (.opened i now)) ⟨m.completion.opened now, m.phases⟩
  | decides {i : Fin n} {s : State} {now : Instant} {u : Turn Simulated.Cursor State Result}
    {c : Completion} (ready : m.phases i = .ready s) (claims : t.Claims s false)
    (opened : ¬ m.completion.Unopened) (turn : t.step i s now false m.completion = (u, c)) :
    TimedNext t m (some (.decided i now u.granted)) ⟨c, Function.update m.phases i (.ofTurn u)⟩
  | other {h : Happening n} {m' : Moment n} (step : Next t m h m') (unclaimed : h.claim? = none) :
    TimedNext t m none m'

/-- What was read from a first moment up to another one. -/
inductive TimedRuns (t : Trial) (first : Moment n) : List (Reading n) → Moment n → Prop where
  | start : TimedRuns t first [] first
  | next {readings : List (Reading n)} {m m' : Moment n} {r : Option (Reading n)}
    (run : TimedRuns t first readings m) (step : TimedNext t m r m') :
    TimedRuns t first (readings ++ r.toList) m'

variable {t : Trial} {first m m' : Moment n} {h : Happening n} {trace : List (Happening n)}
  {readings : List (Reading n)} {r : Option (Reading n)}

theorem TimedNext.run (step : TimedNext t m r m') : TimedRuns t m r.toList m' :=
  TimedRuns.start.next step

theorem TimedRuns.append {later : List (Reading n)} (run : TimedRuns t first readings m)
    (tail : TimedRuns t m later m') : TimedRuns t first (readings ++ later) m' := by
  induction tail with
  | start => rwa [List.append_nil]
  | next _ step ih =>
    rw [← List.append_assoc]
    exact ih.next step

/-- What is not a claim leaves alone what may be claimed. -/
theorem Next.completion_eq (step : Next t m h m') (unclaimed : h.claim? = none) :
    m'.completion = m.completion := by
  obtain @⟨i, _, c, p, passes⟩ := step
  generalize m.phases i = before at passes
  cases passes with
  | call | answer | lose => rfl
  | claim => cases unclaimed
  | @finish _ s now stopping result turn =>
    by_cases claims : t.Claims s stopping
    · simp [Happening.claim?, claims.running, (claims.claim turn).2 _ rfl] at unclaimed
    · exact (Trial.of_not_claims claims turn).1

/-! ### Every run is a timed one -/

/-- A turn with a claim is the halves of the claim, one after the other. -/
theorem timed_of_claims {i : Fin n} {s : State} {now : Instant}
    {u : Turn Simulated.Cursor State Result} {c : Completion} (ready : m.phases i = .ready s)
    (claims : t.Claims s false) (turn : t.step i s now false m.completion = (u, c)) :
    ∃ readings, TimedRuns t m readings ⟨c, Function.update m.phases i (.ofTurn u)⟩ ∧
      readings.filterMap Reading.claim? = [(i, u.granted)] := by
  by_cases unopened : m.completion.Unopened
  · have first := (TimedNext.opens now ready claims unopened).run
    have turn := (claims.step_opened i now m.completion).trans turn
    have second := @TimedNext.decides _ t ⟨m.completion.opened now, m.phases⟩ _ _ _ _ _ ready
      claims (Completion.not_unopened_opened _) turn
    exact ⟨_, first.next second, rfl⟩
  · exact ⟨_, (TimedNext.decides ready claims unopened turn).run, rfl⟩

/-- A turn is a claim, or no claim at all. -/
theorem Next.timed (step : Next t m h m') :
    ∃ readings, TimedRuns t m readings m' ∧
      readings.filterMap Reading.claim? = [h].filterMap Happening.claim? := by
  have silent (unclaimed : h.claim? = none) : ∃ readings, TimedRuns t m readings m' ∧
      readings.filterMap Reading.claim? = [h].filterMap Happening.claim? :=
    ⟨_, (TimedNext.other step unclaimed).run, by simp [unclaimed]⟩
  obtain @⟨i, _, c, p, passes⟩ := step
  generalize phase : m.phases i = before at passes
  cases passes with
  | call | answer | lose => exact silent rfl
  | @claim _ s now stopping ask turn =>
    by_cases claims : t.Claims s stopping
    · obtain rfl := claims.running
      exact timed_of_claims phase claims turn
    · obtain ⟨-, _, finish, -⟩ := Trial.of_not_claims claims turn
      cases finish
  | @finish _ s now stopping result turn =>
    by_cases claims : t.Claims s stopping
    · obtain rfl := claims.running
      obtain ⟨readings, run, same⟩ := timed_of_claims phase claims turn
      refine ⟨readings, run, same.trans ?_⟩
      simp [Happening.claim?, (claims.claim turn).2 _ rfl, Turn.granted]
    · obtain ⟨-, _, finish, why⟩ := Trial.of_not_claims claims turn
      cases finish
      refine silent ?_
      rcases why with rfl | failed
      · rfl
      · cases stopping <;> simp [Happening.claim?, failed]

/-- **Every run of a stress test** is a timed one with the same claims. -/
theorem Runs.timed (run : Runs t first trace m) :
    ∃ readings, TimedRuns t first readings m ∧
      readings.filterMap Reading.claim? = trace.filterMap Happening.claim? := by
  induction run with
  | start => exact ⟨[], .start, rfl⟩
  | next _ step ih =>
    obtain ⟨readings, run, before⟩ := ih
    obtain ⟨later, tail, after⟩ := step.timed
    refine ⟨readings ++ later, run.append tail, ?_⟩
    rw [List.filterMap_append, List.filterMap_append, before, after]

/-! ### The window -/

variable {d : Span} {closing : Option (Option Instant)}

/-- What becomes of a window by a reading of the clock. -/
inductive Reads (d : Span) :
    Option (Option Instant) → Option (Reading n) → Option (Option Instant) → Prop where
  | silent {closing : Option (Option Instant)} : Reads d closing none closing
  | opens {i : Fin n} {now : Instant} : Reads d none (some (.opened i now)) (some (now.after? d))
  | decides {i : Fin n} {now : Instant} {granted : Bool} {closes : Option Instant}
    (fits : (Reading.decided i now granted).Fits closes) :
    Reads d (some closes) (some (.decided i now granted)) (some closes)

/-- One step.  It opens the window, or claims a request out of an open one, which is granted exactly
if the clock reads less than the end of the window. -/
theorem TimedNext.reads (step : TimedNext t m r m') (before : m.completion = .window d closing) :
    ∃ after, m'.completion = .window d after ∧ Reads d closing r after := by
  cases step with
  | opens now _ _ unopened =>
    obtain ⟨_, unopened⟩ := unopened
    cases before.symm.trans unopened
    refine ⟨_, ?_, .opens⟩
    rw [before]
    rfl
  | decides _ claims opened turn =>
    rw [before] at opened turn
    rcases closing with _ | closes
    · exact absurd ⟨d, rfl⟩ opened
    · have claim := (claims.claim turn).1
      rw [Completion.claim, Prod.mk.injEq] at claim
      exact ⟨_, claim.2.symm, .decides claim.1.symm⟩
  | other step unclaimed => exact ⟨closing, (step.completion_eq unclaimed).trans before, .silent⟩

/-- A whole run.  The first reading opens the window, and all others are claims that are compared
with its end. -/
theorem TimedRuns.window (run : TimedRuns t first readings m)
    (before : first.completion = .window d none) :
    (readings = [] ∧ m.completion = .window d none) ∨
      ∃ i start rest, readings = .opened i start :: rest ∧
        m.completion = .window d (some (start.after? d)) ∧
          ∀ x ∈ rest, x.Fits (start.after? d) := by
  induction run with
  | start => exact .inl ⟨rfl, before⟩
  | next _ step ih =>
    rcases ih with ⟨rfl, window⟩ | ⟨i, start, rest, rfl, window, fits⟩
    · obtain ⟨after, window, reads⟩ := step.reads window
      cases reads with
      | silent => exact .inl ⟨rfl, window⟩
      | opens => exact .inr ⟨_, _, [], rfl, window, nofun⟩
    · obtain ⟨after, window, reads⟩ := step.reads window
      refine .inr ⟨i, start, _, List.cons_append .., ?_⟩
      cases reads with
      | silent => exact ⟨window, by simpa using fits⟩
      | decides now =>
        exact ⟨window, List.forall_mem_append.2 ⟨fits, List.forall_mem_singleton.2 now⟩⟩

end

variable {t : Trial} {now : Nat → Instant} {d : Span}

/-- **One window for all claims.**  Every run of a stress test with a duration is a timed one with
the same claims.  In every timed run the first reading of the clock as part of a claim opens the
window, and fixes it for good.  Whoever makes a claim, and in whatever way the halves of the claims
follow each other, it is granted exactly if the clock reads less than the first reading and the
duration, and always if the clock cannot represent these.  So a claim that is not made before one
that was refused is refused.  The stressor that opened the window is granted its request exactly if
the clock has not got to the end of the window when it is read again. -/
theorem TimedRuns.one_window (bounded : t.settings.duration = some d) :
    (∀ trace m, Runs t (opening t now) trace m → ∃ readings,
      TimedRuns t (opening t now) readings m ∧
        readings.filterMap Reading.claim? = trace.filterMap Happening.claim?) ∧
    ∀ readings m, TimedRuns t (opening t now) readings m →
      (readings = [] ∧ m.completion = .window d none) ∨
      ∃ first start rest, readings = .opened first start :: rest ∧
        (∀ x ∈ rest, x.claim? ≠ none) ∧
        (∀ later m', TimedRuns t m later m' →
          m'.completion = .window d (some (start.after? d))) ∧
        (∀ i time granted, .decided i time granted ∈ rest →
          (granted = true ↔
            (start + d.nanos < Instant.limit → time < start + d.nanos))) ∧
        (∀ i time, .decided i time false ∈ rest →
          ∀ j later granted, .decided j later granted ∈ rest → time ≤ later → granted = false) ∧
        (∀ between time granted after, rest = between ++ .decided first time granted :: after →
          (∀ x ∈ between, x.unit ≠ first) →
            (granted = true ↔
              (start + d.nanos < Instant.limit → time < start + d.nanos))) ∧
        (0 < d.nanos → ∀ i granted, .decided i start granted ∈ rest → granted = true) := by
  have before : (opening t now).completion = .window d none := by
    simp only [opening, Completion.ofSettings, bounded]
  refine ⟨fun _ _ run => run.timed, fun readings m run => ?_⟩
  rcases run.window before with none | ⟨first, start, rest, rfl, -, fits⟩
  · exact .inl none
  have granted_iff (i : Fin t.size) (time : Instant) (granted : Bool)
      (hm : .decided i time granted ∈ rest) : granted = true ↔
        (start + d.nanos < Instant.limit → time < start + d.nanos) := by
    have same : granted = (start.after? d).all fun t => time < t := fits _ hm
    rw [same, Completion.all_after?_iff]
  refine .inr ⟨first, start, rest, rfl, fun x hx => (fits x hx).claim?_ne_none,
    fun later m' tail => ?_, granted_iff, ?_, ?_, ?_⟩
  · -- a run that goes on begins with the same reading
    rcases (run.append tail).window before with ⟨none, -⟩ | ⟨_, _, _, same, window, -⟩
    · cases none
    · cases same
      exact window
  · intro i time refused j later granted hm le
    have closed := (granted_iff i time false refused).not.1 Bool.false_ne_true
    rw [← Bool.not_eq_true, granted_iff j later granted hm]
    exact fun still => closed fun representable => Nat.lt_of_le_of_lt le (still representable)
  · rintro between time granted after rfl -
    exact granted_iff first time granted (List.mem_append_right _ (.head _))
  · intro positive i granted hm
    rw [granted_iff i _ granted hm]
    exact fun _ => Nat.lt_add_of_pos_right positive

/-- Three stressors and a window of five.  The first one opens it at ten, and makes its claim after
the second one, which makes all of its claim in between.  The third one is late. -/
theorem TimedRuns.one_window_five :
    let settings : StressSettings := { test := { threads := 3 }, duration := some (.ofNanos 5) }
    let t : Trial := ⟨settings, fun i => ⟨i, .ofNanos 0⟩, fun _ _ => ⟨0, 7⟩, 0⟩
    ∃ (a b c : Fin t.size) (m : Moment t.size),
      TimedRuns t (opening t fun _ => 0)
        [.opened a 10, .decided b 12 true, .decided a 14 true, .decided c 15 false] m ∧
      m.completion = .window (.ofNanos 5) (some (some 15)) ∧
      (∀ later m', TimedRuns t m later m' → m'.completion = m.completion) := by
  intro settings t
  let a : Fin t.size := ⟨0, by decide⟩
  let b : Fin t.size := ⟨1, by decide⟩
  let c : Fin t.size := ⟨2, by decide⟩
  have claims (i : Nat) : t.Claims (t.start i 0) false := ⟨rfl, rfl, _, rfl⟩
  have first := (@TimedRuns.start t.size t (opening t fun _ => 0)).next
    (@TimedNext.opens _ _ _ a _ 10 rfl (claims 0) ⟨_, rfl⟩)
  have second := first.next (@TimedNext.decides _ _ _ b _ 12 _ _ rfl (claims 1) nofun rfl)
  have third := second.next (@TimedNext.decides _ _ _ a _ 14 _ _ rfl (claims 0) nofun rfl)
  have run := third.next (@TimedNext.decides _ _ _ c _ 15 _ _ rfl (claims 2) nofun rfl)
  obtain ⟨-, window⟩ := @TimedRuns.one_window t (fun _ => 0) _ rfl
  rcases window _ _ run with ⟨none, -⟩ | ⟨_, _, _, same, -, kept, -⟩
  · cases none
  · cases same
    exact ⟨a, b, c, _, run, rfl, kept⟩

/-- The only stressor of a stress test opens a window of five at ten.  When it reads the clock again
the window is over, so that not even this claim is granted. -/
theorem Runs.refused_at_once :
    let settings : StressSettings := { test := { threads := 1 }, duration := some (.ofNanos 5) }
    let t : Trial := ⟨settings, fun i => ⟨i, .ofNanos 0⟩, fun _ _ => ⟨0, 7⟩, 5⟩
    settings.validate = .ok () ∧
    ∃ (a : Fin t.size) (result : Result) (m : Moment t.size),
      Runs t (opening t fun _ => 0) [.ended a false result] m ∧ result.failure = none ∧
      TimedRuns t (opening t fun _ => 0) [.opened a 10, .decided a 15 false] m := by
  intro settings t
  let a : Fin t.size := ⟨0, by decide⟩
  have claims : t.Claims (t.start 0 0) false := ⟨rfl, rfl, _, rfl⟩
  have turn : t.step a (t.start 0 0) 10 false (opening t fun _ => 0).completion = _ := rfl
  have run := (@Runs.start t.size t (opening t fun _ => 0)).next (.pass (i := a) (.finish turn))
  have first := (@TimedRuns.start t.size t (opening t fun _ => 0)).next
    (@TimedNext.opens _ _ _ a _ 10 rfl claims ⟨_, rfl⟩)
  have second := first.next (@TimedNext.decides _ _ _ a _ 15 _ _ rfl claims nofun rfl)
  exact ⟨by decide, a, _, _, run, rfl, second⟩

end Moment

end Stress

end LoadFleet
