import LoadFleet.Proofs.Validity
/-!
# Failures in a row

A stressor with a limit counts the failures since its last success.  The counter is a word, but with
a limit it never goes round: the stressor gives up as soon as the counter reaches the limit, so that
it is the number of errors at the end of the answers, and reaches the limit once.  Without a limit
nobody looks at the counter.

What a stressor does is said of its answers only, in the order in which it got them.  `Answered`
describes the phases of a stressor by these answers; it is kept by everything that may happen to the
stressor, and nothing else changes the phase or the answers.

* `failedLast_iff`: the last answers are errors, and the count of them.
* `Counted.onResponse`: an answer keeps the count.
* `Counted.next_turn`: what a stressor does next, by the count.
* `Moment.Passes.standing`, `Moment.Runs.standing`: one step of a stressor, and a whole run.
* `Moment.Runs.put`, `Moment.Runs.over`: what the others do does not depend on a stressor that does
  nothing, and one that ended does nothing.
* `Moment.Runs.ends_after_streak`: the main statement.
-/

namespace LoadFleet.Stress

/-! ### Errors in a row -/

/-- The answers of a store to one stressor, in the order in which it got them. -/
abbrev Answers := List (Except StoreError Response)

/-- The last `k` answers are errors. -/
def FailedLast (k : Nat) (answers : Answers) : Prop :=
  ∃ earlier last, answers = earlier ++ last ∧ last.length = k ∧ ∀ r ∈ last, r.isOk = false

/-- The last `k` answers are errors, and it is the first time that there are `k` in a row. -/
structure FailedFirst (k : Nat) (answers : Answers) : Prop where
  last : FailedLast k answers
  first : ∀ earlier, earlier <+: answers → FailedLast k earlier → earlier = answers

/-- The number of errors since the last success. -/
def streak (answers : Answers) : Nat := (answers.reverse.takeWhile fun r => !r.isOk).length

section

variable {answers : Answers} {k : Nat}

theorem streak_append_ok (r : Response) : streak (answers ++ [.ok r]) = 0 := by
  simp [streak, Except.isOk, Except.toBool]

theorem streak_append_error (e : StoreError) :
    streak (answers ++ [.error e]) = streak answers + 1 := by
  simp [streak, Except.isOk, Except.toBool]

theorem failedLast_append_ok (r : Response) : FailedLast k (answers ++ [.ok r]) ↔ k = 0 := by
  constructor
  · rintro ⟨earlier, last, split, rfl, errors⟩
    rcases last.eq_nil_or_concat' with rfl | ⟨before, newest, rfl⟩
    · rfl
    · rw [← List.append_assoc] at split
      obtain ⟨-, same⟩ := List.append_inj' split rfl
      cases same
      cases errors (.ok r) (by simp)
  · rintro rfl
    exact ⟨_, [], (List.append_nil _).symm, rfl, nofun⟩

theorem failedLast_append_error (e : StoreError) :
    FailedLast (k + 1) (answers ++ [.error e]) ↔ FailedLast k answers := by
  constructor
  · rintro ⟨earlier, last, split, length, errors⟩
    rcases last.eq_nil_or_concat' with rfl | ⟨before, newest, rfl⟩
    · cases length
    · rw [← List.append_assoc] at split
      obtain ⟨rfl, -⟩ := List.append_inj' split rfl
      rw [List.length_append] at length
      exact ⟨earlier, before, rfl, Nat.succ.inj length, fun r hr => errors r (by simp [hr])⟩
  · rintro ⟨earlier, last, rfl, rfl, errors⟩
    refine ⟨earlier, last ++ [.error e], by simp, by simp, fun r hr => ?_⟩
    rcases List.mem_append.1 hr with old | new
    · exact errors r old
    · rw [List.mem_singleton.1 new]
      rfl

/-- **The last answers are errors** exactly if the count of errors has come that far. -/
theorem failedLast_iff : FailedLast k answers ↔ k ≤ streak answers := by
  induction answers using List.reverseRecOn generalizing k with
  | nil =>
    constructor
    · rintro ⟨earlier, last, none, rfl, -⟩
      rw [(List.append_eq_nil_iff.1 none.symm).2]
      rfl
    · intro none
      rw [Nat.le_zero.1 none]
      exact ⟨[], [], rfl, rfl, nofun⟩
  | append_singleton earlier r ih =>
    cases r with
    | ok r => rw [failedLast_append_ok, streak_append_ok, Nat.le_zero]
    | error e =>
      cases k with
      | zero => exact iff_of_true ⟨_, [], (List.append_nil _).symm, rfl, nofun⟩ (Nat.zero_le _)
      | succ k => rw [failedLast_append_error, streak_append_error, Nat.add_le_add_iff_right, ih]

end

/-! ### What a stressor makes of its answers -/

/-- What a stressor says that gives up at a limit, because of an error. -/
def gaveUpText (index : Nat) (limit : UInt32) (e : StoreError) : String :=
  s!"stressor {index} stopped after {limit} consecutive failures, " ++ s!"last: {e.message}"

/-- Why a stressor gives up after answers, if it does. -/
def Trial.reason? (t : Trial) (i : Nat) (answers : Answers) : Option String :=
  match t.settings.maxConsecutiveFailures, answers.getLast? with
  | some limit, some (.error e) =>
    if limit.toNat ≤ streak answers then some (gaveUpText (t.seats i).index limit e) else none
  | _, _ => none

/-- A stressor counts its failures, and gives up when it has reason to. -/
structure Counted (t : Trial) (i : Nat) (s : State) (answers : Answers) : Prop where
  failures : s.failures.toNat = streak answers % 2 ^ 32
  failure : s.failure = t.reason? i answers

/-- The phases of a stressor, by its answers. -/
inductive Answered (t : Trial) (i : Nat) (answers : Answers) : Phase → Prop where
  | ready {s : State} (h : Counted t i s answers) : Answered t i answers (.ready s)
  | claimed {s : State} {w : Weights} {operation : Operation} {asked : Instant}
    (h : Counted t i s answers) (going : t.reason? i answers = none) :
    Answered t i answers (.claimed (.invoke t.settings.container operation
      (s.onResponse (t.setup w i) operation asked)))
  | calling {s : State} {w : Weights} {operation : Operation} {asked : Instant}
    (h : Counted t i s answers) (going : t.reason? i answers = none) :
    Answered t i answers (.calling (.invoke t.settings.container operation
      (s.onResponse (t.setup w i) operation asked)))
  | returned {result : Result} (h : result.failure = t.reason? i answers) :
    Answered t i answers (.returned result)
  | lost : Answered t i answers .lost

namespace Trial

variable {t : Trial} {i : Nat} {answers : Answers} {limit : UInt32} {text : String}

theorem reason?_append_ok (r : Response) : t.reason? i (answers ++ [.ok r]) = none := by
  rw [reason?]
  cases t.settings.maxConsecutiveFailures <;> simp

theorem reason?_append_error (limited : t.settings.maxConsecutiveFailures = some limit)
    (e : StoreError) : t.reason? i (answers ++ [.error e]) =
      if limit.toNat ≤ streak answers + 1 then some (gaveUpText (t.seats i).index limit e)
      else none := by
  simp only [reason?, limited, List.getLast?_concat, streak_append_error]

theorem reason?_unlimited (unlimited : t.settings.maxConsecutiveFailures = none) :
    t.reason? i answers = none := by
  simp only [reason?, unlimited]

theorem reason?_eq_some (reason : t.reason? i answers = some text) :
    ∃ limit e, t.settings.maxConsecutiveFailures = some limit ∧
      answers.getLast? = some (.error e) ∧ text = gaveUpText (t.seats i).index limit e := by
  rw [reason?] at reason
  split at reason
  · next limit e limited newest =>
    split at reason
    · exact ⟨limit, e, limited, newest, (Option.some.inj reason).symm⟩
    · cases reason
  · cases reason

/-- The last answers are errors, as many as the limit says. -/
def LimitReached (t : Trial) (answers : Answers) : Prop :=
  ∃ limit, t.settings.maxConsecutiveFailures = some limit ∧ FailedLast limit.toNat answers

/-- A stressor has reason to give up exactly if the limit is reached. -/
theorem reason?_ne_none_iff
    (positive : ∀ limit, t.settings.maxConsecutiveFailures = some limit → 0 < limit) :
    t.reason? i answers ≠ none ↔ t.LimitReached answers := by
  rw [LimitReached]
  cases limited : t.settings.maxConsecutiveFailures with
  | none => simp [reason?_unlimited limited]
  | some limit =>
    have some : 0 < limit.toNat := UInt32.lt_iff_toNat_lt.1 (positive limit limited)
    simp only [Option.some.injEq, exists_eq_left', failedLast_iff]
    rcases answers.eq_nil_or_concat' with rfl | ⟨earlier, newest, rfl⟩
    · have := Nat.not_le.2 some
      simp [reason?, limited, streak, this]
    · cases newest with
      | ok r =>
        rw [reason?_append_ok, streak_append_ok]
        exact iff_of_false (fun h => h rfl) (Nat.not_le.2 some)
      | error e =>
        rw [reason?_append_error limited, streak_append_error]
        split
        · next reached => exact iff_of_true nofun reached
        · next short => exact iff_of_false (fun h => h rfl) short

end Trial

/-- An answer keeps the count.  Before the limit is reached the counter has not gone round. -/
theorem Counted.onResponse {t : Trial} {i : Nat} {s : State} {answers : Answers}
    (h : Counted t i s answers) (going : t.reason? i answers = none)
    (positive : ∀ limit, t.settings.maxConsecutiveFailures = some limit → 0 < limit)
    (w : Weights) (operation : Operation) (asked : Instant) (r : Except StoreError Response)
    (now : Instant) :
    Counted t i (s.onResponse (t.setup w i) operation asked r now) (answers ++ [r]) := by
  cases r with
  | ok r =>
    exact ⟨by rw [streak_append_ok]; rfl,
      (h.failure.trans going).trans (Trial.reason?_append_ok r).symm⟩
  | error e =>
    have counter : (s.failures + 1).toNat = (streak answers + 1) % 2 ^ 32 := by
      rw [UInt32.toNat_add, h.failures, UInt32.toNat_one, Nat.mod_add_mod]
    refine ⟨counter.trans (by rw [streak_append_error]), ?_⟩
    have limits : (t.setup w i).settings = t.settings := rfl
    simp only [State.onResponse, limits]
    cases limited : t.settings.maxConsecutiveFailures with
    | none => rw [Trial.reason?_unlimited limited, Option.any_none, if_neg Bool.false_ne_true]
    | some limit =>
      have short : streak answers < limit.toNat := by
        by_contra reached
        exact (Trial.reason?_ne_none_iff positive).2
          ⟨limit, limited, failedLast_iff.2 (Nat.not_lt.1 reached)⟩ going
      have exact : (s.failures + 1).toNat = streak answers + 1 := by
        rw [counter, Nat.mod_eq_of_lt (Nat.lt_of_le_of_lt short limit.toNat_lt)]
      rw [Trial.reason?_append_error limited, Option.any_some]
      simp only [decide_eq_true_eq, UInt32.le_iff_toNat_le, exact]
      by_cases reached : limit.toNat ≤ streak answers + 1
      · have same : s.failures + 1 = limit :=
          UInt32.toNat_inj.1 (exact.trans (Nat.le_antisymm short reached))
        rw [if_pos reached, if_pos reached, same]
        rfl
      · rw [if_neg reached, if_neg reached]

/-! ### What happens to a stressor -/

section

variable {n : Nat} {i : Fin n}

/-- The answer that a stressor gets. -/
def Happening.answerTo? (i : Fin n) : Happening n → Option (Except StoreError Response)
  | answered j r => if j = i then some r else none
  | _ => none

/-- The answers to a stressor among what happened. -/
def answersTo (i : Fin n) (trace : List (Happening n)) : Answers :=
  trace.filterMap (Happening.answerTo? i)

theorem Happening.answerTo?_of_ne {h : Happening n} (other : h.unit ≠ i) :
    h.answerTo? i = none := by
  cases h with
  | answered j r => exact if_neg other
  | claimed | called | ended | lost => rfl

theorem answersTo_append (earlier later : List (Happening n)) :
    answersTo i (earlier ++ later) = answersTo i earlier ++ answersTo i later :=
  List.filterMap_append

theorem answersTo_concat (trace : List (Happening n)) (h : Happening n) :
    answersTo i (trace ++ [h]) = answersTo i trace ++ (h.answerTo? i).toList := by
  rw [answersTo_append]
  cases answer : h.answerTo? i <;> simp [answersTo, answer]

end

/-- A stressor stands by its answers as it should, and had no reason to give up before the last of
them. -/
structure Standing (t : Trial) (i : Nat) (answers : Answers) (p : Phase) : Prop where
  phase : Answered t i answers p
  first : ∀ earlier, earlier <+: answers → t.reason? i earlier ≠ none → earlier = answers

theorem Standing.append {t : Trial} {i : Nat} {answers : Answers} {p p' : Phase}
    (h : Standing t i answers p) (going : t.reason? i answers = none)
    (r : Except StoreError Response) (phase : Answered t i (answers ++ [r]) p') :
    Standing t i (answers ++ [r]) p' where
  phase := phase
  first earlier initial reason := by
    rcases List.prefix_concat_iff.1 initial with all | before
    · exact all
    · rw [h.first earlier before reason] at reason
      exact absurd going reason

/-- An operation can be drawn with valid settings. -/
theorem drawable_of_valid {settings : StressSettings} (valid : settings.validate = .ok ()) :
    ∃ w, weights? settings = .ok w := by
  obtain ⟨-, -, -, ratios, -⟩ := StressSettings.validate_eq_ok.1 valid
  exact weights?_isOk_iff.2 ratios

/-- The next turn of a stressor.  At the limit it ends, with a failure and without a claim;
otherwise it makes a claim, and a call if the claim is granted. -/
theorem Counted.next_turn {t : Trial} {i : Nat} {s : State} {answers : Answers}
    (valid : t.settings.validate = .ok ()) (h : Counted t i s answers) :
    (t.LimitReached answers → ∀ now stopping c, ∃ result,
      t.step i s now stopping c = (.finish result, c) ∧ result.failure ≠ none) ∧
    (¬ t.LimitReached answers → ∀ now c, (c.claim now t.lag).1 = true →
      ∃ ask, t.step i s now false c = (.call ask, (c.claim now t.lag).2)) := by
  obtain ⟨-, -, -, -, positive⟩ := StressSettings.validate_eq_ok.1 valid
  obtain ⟨w, weighed⟩ := drawable_of_valid valid
  have step := Trial.step_of_weights weighed i s
  rw [← Trial.reason?_ne_none_iff (i := i) positive, ← h.failure]
  constructor
  · intro failed now stopping c
    refine ⟨s.result (t.setup w i) now, ?_, failed⟩
    rw [step]
    rcases s.turn_cases (t.setup w i) now stopping c with ⟨-, finish⟩ | ⟨⟨unfailed, -⟩, -⟩
    · exact finish
    · exact absurd unfailed failed
  · intro unfailed now c granted
    rw [step]
    rcases s.turn_cases (t.setup w i) now false c with
      ⟨failed | stopping, -⟩ | ⟨-, ⟨-, call⟩ | ⟨refused, -⟩⟩
    · exact absurd failed unfailed
    · cases stopping
    · exact ⟨_, call⟩
    · cases granted.symm.trans refused

namespace Moment

section

variable {t : Trial} {n : Nat} {i : Fin n} {c c' : Completion} {p p' : Phase} {h : Happening n}
  {answers : Answers}

/-- **What happens to a stressor** keeps it as its answers tell. -/
theorem Passes.standing (valid : t.settings.validate = .ok ()) (passes : Passes t i c p h c' p')
    (before : Standing t i answers p) :
    Standing t i (answers ++ (h.answerTo? i).toList) p' := by
  obtain ⟨-, -, -, -, positive⟩ := StressSettings.validate_eq_ok.1 valid
  obtain ⟨w, weighed⟩ := drawable_of_valid valid
  have stays (phase : Answered t i answers p') : Standing t i (answers ++ []) p' := by
    rw [List.append_nil]
    exact ⟨phase, before.first⟩
  cases passes with
  | claim turn =>
    obtain ⟨counted⟩ := before.phase
    obtain ⟨unfailed, operation, rfl⟩ := Trial.of_step_call weighed turn
    exact stays (.claimed counted (counted.failure.symm.trans unfailed))
  | finish turn =>
    obtain ⟨counted⟩ := before.phase
    exact stays (.returned ((Trial.of_step_finish weighed turn).1.trans counted.failure))
  | call =>
    cases before.phase with
    | claimed counted going => exact stays (.calling counted going)
  | answer r now =>
    cases before.phase with
    | calling counted going =>
      rw [Happening.answerTo?, if_pos rfl]
      exact before.append going r (.ready (counted.onResponse going positive ..))
  | lose => exact stays .lost

/-- A stressor that has reason to give up does nothing but end. -/
theorem Passes.of_reason (valid : t.settings.validate = .ok ()) (passes : Passes t i c p h c' p')
    (before : Answered t i answers p) (reason : t.reason? i answers ≠ none) :
    h = .lost i ∨ ∃ stopping result, h = .ended i stopping result ∧ result.failure ≠ none := by
  obtain ⟨w, weighed⟩ := drawable_of_valid valid
  cases passes with
  | claim turn =>
    obtain ⟨counted⟩ := before
    obtain ⟨unfailed, -⟩ := Trial.of_step_call weighed turn
    exact absurd (counted.failure.symm.trans unfailed) reason
  | @finish _ _ _ stopping result turn =>
    obtain ⟨counted⟩ := before
    obtain ⟨kept, -⟩ := Trial.of_step_finish weighed turn
    rw [← kept.trans counted.failure] at reason
    exact .inr ⟨stopping, result, rfl, reason⟩
  | call =>
    cases before with
    | claimed _ going => exact absurd going reason
  | answer =>
    cases before with
    | calling _ going => exact absurd going reason
  | lose => exact .inl rfl

theorem Passes.of_ended {j : Fin n} {stopping : Bool} {result : Result}
    (passes : Passes t i c p (.ended j stopping result) c' p') :
    j = i ∧ p' = .returned result ∧
      ∃ s now, p = .ready s ∧ t.step i s now stopping c = (.finish result, c') := by
  cases passes with
  | finish turn => exact ⟨rfl, rfl, _, _, rfl, turn⟩

end

/-! ### Parts of a run -/

section

variable {t : Trial} {n : Nat} {first m m' : Moment n} {before after trace : List (Happening n)}
  {h : Happening n}

theorem Runs.last_step (run : Runs t first (trace ++ [h]) m') :
    ∃ m, Runs t first trace m ∧ Next t m h m' := by
  generalize whole : trace ++ [h] = all at run
  cases run with
  | start => simp at whole
  | next run step =>
    obtain ⟨rfl, same⟩ := List.append_inj' whole rfl
    cases same
    exact ⟨_, run, step⟩

/-- A run is one up to a moment, and one from there on. -/
theorem Runs.split (run : Runs t first (before ++ after) m) :
    ∃ m₁, Runs t first before m₁ ∧ Runs t m₁ after m := by
  induction after using List.reverseRecOn generalizing m with
  | nil => exact ⟨m, by rwa [List.append_nil] at run, .start⟩
  | append_singleton after h ih =>
    rw [← List.append_assoc] at run
    obtain ⟨m₂, run, step⟩ := run.last_step
    obtain ⟨m₁, head, tail⟩ := ih run
    exact ⟨m₁, head, tail.next step⟩

theorem Runs.split_at (run : Runs t first (before ++ h :: after) m) :
    ∃ m₁ m₂, Runs t first before m₁ ∧ Next t m₁ h m₂ ∧ Runs t m₂ after m := by
  rw [List.append_cons] at run
  obtain ⟨m₂, head, tail⟩ := run.split
  obtain ⟨m₁, head, step⟩ := head.last_step
  exact ⟨m₁, m₂, head, step, tail⟩

/-- The same moment with one stressor in another phase. -/
def put (m : Moment n) (i : Fin n) (p : Phase) : Moment n :=
  ⟨m.completion, Function.update m.phases i p⟩

variable {i : Fin n} {p q : Phase}

@[simp] theorem put_put : (m.put i p).put i q = m.put i q :=
  congrArg (Moment.mk m.completion) (Function.update_idem ..)

theorem put_eq_self (phase : m.phases i = p) : m.put i p = m := by
  subst phase
  exact congrArg (Moment.mk m.completion) (Function.update_eq_self ..)

theorem Next.put (step : Next t m h m') (other : h.unit ≠ i) (p : Phase) :
    Next t (m.put i p) h (m'.put i p) := by
  obtain @⟨j, _, c, q, passes⟩ := step
  have apart : j ≠ i := passes.unit_eq ▸ other
  have phase : (m.put i p).phases j = m.phases j := Function.update_of_ne apart ..
  have next : Next t (m.put i p) h ⟨c, Function.update (m.put i p).phases j q⟩ :=
    .pass (by rwa [phase])
  rwa [show (m.put i p).phases = Function.update m.phases i p from rfl,
    Function.update_comm apart.symm] at next

/-- What the others do does not depend on a stressor that does nothing. -/
theorem Runs.put (run : Runs t m trace m') (others : ∀ h ∈ trace, h.unit ≠ i) (p : Phase) :
    Runs t (m.put i p) trace (m'.put i p) := by
  induction run with
  | start => exact .start
  | next run step ih =>
    exact (ih fun h hm => others h (List.mem_append_left _ hm)).next
      (step.put (others _ (List.mem_append_right _ (.head _))) p)

theorem Passes.goesOn {c c' : Completion} (passes : Passes t i c p h c' q) : p.goesOn = true := by
  cases passes with
  | claim | finish | call | answer => rfl
  | lose running => exact running

/-- A stressor that ended does nothing. -/
theorem Runs.over (run : Runs t m trace m') (ended : (m.phases i).goesOn = false) :
    m'.phases i = m.phases i ∧ ∀ h ∈ trace, h.unit ≠ i := by
  induction run with
  | start => exact ⟨rfl, nofun⟩
  | next run step ih =>
    obtain ⟨same, others⟩ := ih
    obtain @⟨j, _, c, q, passes⟩ := step
    have apart : j ≠ i := by
      rintro rfl
      rw [same] at passes
      rw [passes.goesOn] at ended
      cases ended
    refine ⟨(Function.update_of_ne apart.symm ..).trans same, fun h hm => ?_⟩
    rcases List.mem_append.1 hm with hm | hm
    · exact others h hm
    · rw [List.mem_singleton.1 hm, passes.unit_eq]
      exact apart

/-- What the others do after a stressor returned is what they could do before, while it does
nothing. -/
theorem runs_put_returned {result : Result} {m'' : Moment n} :
    Runs t (m.put i (.returned result)) trace m'' ↔
      (∀ h ∈ trace, h.unit ≠ i) ∧ m''.phases i = .returned result ∧
        Runs t m trace (m''.put i (m.phases i)) := by
  constructor
  · intro run
    have here : (m.put i (.returned result)).phases i = .returned result :=
      Function.update_self ..
    obtain ⟨same, others⟩ := run.over (i := i) (by rw [here]; rfl)
    refine ⟨others, same.trans here, ?_⟩
    have back := run.put others (m.phases i)
    rwa [put_put, put_eq_self rfl] at back
  · rintro ⟨others, here, run⟩
    have forth := run.put others (.returned result)
    rwa [put_put, put_eq_self here] at forth

end

/-! ### Whole runs -/

section

variable {t : Trial} {n : Nat} {i : Fin n} {m m' : Moment n} {h : Happening n} {answers : Answers}

theorem Next.standing (valid : t.settings.validate = .ok ()) (step : Next t m h m')
    (before : Standing t i answers (m.phases i)) :
    Standing t i (answers ++ (h.answerTo? i).toList) (m'.phases i) := by
  obtain @⟨j, _, c, p, passes⟩ := step
  by_cases here : i = j
  · subst here
    simpa using passes.standing valid before
  · have other : h.unit ≠ i := passes.unit_eq ▸ Ne.symm here
    simpa [Happening.answerTo?_of_ne other, Function.update_of_ne here] using before

end

variable {t : Trial} {now : Nat → Instant} {trace : List (Happening t.size)} {m : Moment t.size}

/-- At every moment, each stressor stands as its answers tell. -/
theorem Runs.standing (valid : t.settings.validate = .ok ())
    (run : Runs t (opening t now) trace m) (i : Fin t.size) :
    Standing t i (answersTo i trace) (m.phases i) := by
  induction run with
  | start =>
    have nothing : t.reason? i [] = none := by
      rw [Trial.reason?, List.getLast?_nil]
      split <;> simp_all
    refine ⟨.ready ⟨rfl, nothing.symm⟩, fun earlier initial _ => ?_⟩
    exact List.prefix_nil.1 initial
  | next _ step ih =>
    rw [answersTo_concat]
    exact step.standing valid ih

theorem Runs.counted (valid : t.settings.validate = .ok ())
    (run : Runs t (opening t now) trace m) {i : Fin t.size} {s : State}
    (ready : m.phases i = .ready s) : Counted t i s (answersTo i trace) := by
  obtain ⟨phase, -⟩ := run.standing valid i
  rw [ready] at phase
  obtain ⟨counted⟩ := phase
  exact counted

/-- How a stressor ends. -/
structure Ends {n : Nat} (t : Trial) (i : Fin n) (answers : Answers) (stopping : Bool)
    (result : Result) (m m' : Moment n) : Prop where
  /-- It failed exactly if its last answers were errors, as many as the limit says, and never were
  that many before. -/
  failed_iff : result.failure ≠ none ↔
    ∃ limit, t.settings.maxConsecutiveFailures = some limit ∧ FailedFirst limit.toNat answers
  /-- It says how many there were, and what the last one was. -/
  reason : ∀ text, result.failure = some text →
    ∃ limit e, t.settings.maxConsecutiveFailures = some limit ∧
      answers.getLast? = some (.error e) ∧ text = gaveUpText (t.seats i).index limit e
  /-- It took a turn, and if it did not fail then it was asked to stop or refused a claim. -/
  turn : ∃ s time, m.phases i = .ready s ∧
    t.step i s time stopping m.completion = (.finish result, m'.completion) ∧
    (result.failure = none → stopping = true ∨ (m.completion.claim time t.lag).1 = false)
  /-- If it failed then this is all that changed. -/
  alone : result.failure ≠ none → m' = m.put i (.returned result)

theorem Next.ends (valid : t.settings.validate = .ok ()) {m₁ m₂ : Moment t.size} {i : Fin t.size}
    {answers : Answers} (standing : Standing t i answers (m₁.phases i)) {stopping : Bool}
    {result : Result} (step : Next t m₁ (.ended i stopping result) m₂) :
    Ends t i answers stopping result m₁ m₂ ∧ m₂.phases i = .returned result := by
  obtain ⟨-, -, -, -, positive⟩ := StressSettings.validate_eq_ok.1 valid
  obtain ⟨w, weighed⟩ := drawable_of_valid valid
  obtain ⟨passes⟩ := step
  obtain ⟨rfl, rfl, s, time, ready, turn⟩ := passes.of_ended
  obtain ⟨phase, first⟩ := standing
  rw [ready] at phase
  obtain ⟨counted⟩ := phase
  obtain ⟨kept, why⟩ := Trial.of_step_finish weighed turn
  have failure : result.failure = t.reason? i answers := kept.trans counted.failure
  refine ⟨⟨?_, ?_, ⟨s, time, ready, turn, ?_⟩, ?_⟩, Function.update_self ..⟩
  · rw [failure]
    constructor
    · intro reason
      obtain ⟨limit, limited, last⟩ := (Trial.reason?_ne_none_iff positive).1 reason
      exact ⟨limit, limited, last, fun earlier initial failed =>
        first earlier initial ((Trial.reason?_ne_none_iff positive).2 ⟨limit, limited, failed⟩)⟩
    · rintro ⟨limit, limited, last, -⟩
      exact (Trial.reason?_ne_none_iff positive).2 ⟨limit, limited, last⟩
  · intro text failed
    exact Trial.reason?_eq_some (failure.symm.trans failed)
  · intro unfailed
    rcases why with ⟨failed | stopping, -⟩ | ⟨-, refused⟩
    · exact absurd (kept.symm.trans unfailed) failed
    · exact .inl stopping
    · exact .inr refused
  · intro failed
    rcases why with ⟨-, rfl⟩ | ⟨unfailed, -⟩
    · rfl
    · exact absurd (kept.trans unfailed) failed

/-- Once the limit is reached a stressor does nothing but end. -/
theorem Runs.ends_at_limit (valid : t.settings.validate = .ok ())
    {before after : List (Happening t.size)} (run : Runs t (opening t now) (before ++ after) m)
    {i : Fin t.size} (reached : t.LimitReached (answersTo i before)) {h : Happening t.size}
    (hm : h ∈ after) (own : h.unit = i) :
    h = .lost i ∨ ∃ stopping result, h = .ended i stopping result ∧ result.failure ≠ none := by
  obtain ⟨-, -, -, -, positive⟩ := StressSettings.validate_eq_ok.1 valid
  obtain ⟨a, b, rfl⟩ := List.append_of_mem hm
  rw [← List.append_assoc] at run
  obtain ⟨m₁, m₂, head, step, -⟩ := run.split_at
  obtain ⟨phase, first⟩ := head.standing valid i
  have reason : t.reason? i (answersTo i before) ≠ none :=
    (Trial.reason?_ne_none_iff positive).2 reached
  -- nothing was answered since the limit was reached
  rw [answersTo_append] at first phase
  rw [← first _ (List.prefix_append ..) reason] at phase
  obtain @⟨j, _, _, _, passes⟩ := step
  obtain rfl : j = i := passes.unit_eq.symm.trans own
  exact passes.of_reason valid phase reason

/-- **When stressors give up.**  In every run of a stress test with valid settings, whatever the
store answers, a stressor fails exactly if its last answers were errors, as many as the limit says,
for the first time.  It says so, makes no further call, and changes nothing for the others: what
they do afterwards they could have done before, while it did nothing.  Every other end comes from a
request to stop or from a claim that is refused. -/
theorem Runs.ends_after_streak (valid : t.settings.validate = .ok ())
    (run : Runs t (opening t now) trace m) (i : Fin t.size) :
    (∀ before stopping result after, trace = before ++ .ended i stopping result :: after →
      (∀ h ∈ after, h.unit ≠ i) ∧
      ∃ m₁ m₂, Runs t (opening t now) before m₁ ∧ Runs t m₂ after m ∧
        Ends t i (answersTo i before) stopping result m₁ m₂ ∧
        (result.failure ≠ none → ∀ later m₃, Runs t m₂ later m₃ ↔
          (∀ h ∈ later, h.unit ≠ i) ∧ m₃.phases i = .returned result ∧
            Runs t m₁ later (m₃.put i (m₁.phases i)))) ∧
    (∀ before after, trace = before ++ after → t.LimitReached (answersTo i before) →
      ∀ h ∈ after, h.unit = i →
        h = .lost i ∨ ∃ stopping result, h = .ended i stopping result ∧ result.failure ≠ none) ∧
    (∀ s, m.phases i = .ready s →
      (t.LimitReached (answersTo i trace) → ∀ time stopping c, ∃ result,
        t.step i s time stopping c = (.finish result, c) ∧ result.failure ≠ none) ∧
      (¬ t.LimitReached (answersTo i trace) → ∀ time c, (c.claim time t.lag).1 = true →
        ∃ ask, t.step i s time false c = (.call ask, (c.claim time t.lag).2))) := by
  refine ⟨?_, ?_, ?_⟩
  · rintro before stopping result after rfl
    obtain ⟨m₁, m₂, head, step, tail⟩ := run.split_at
    obtain ⟨ends, returned⟩ := step.ends valid (head.standing valid i)
    obtain ⟨-, others⟩ := tail.over (i := i) (by rw [returned]; rfl)
    refine ⟨others, m₁, m₂, head, tail, ends, fun failed later m₃ => ?_⟩
    rw [ends.alone failed]
    exact runs_put_returned
  · rintro before after rfl reached h hm own
    exact run.ends_at_limit valid reached hm own
  · exact fun s ready => (run.counted valid ready).next_turn valid

/-- Below the limit a stressor goes on as long as its claims are granted. -/
theorem Runs.round (valid : t.settings.validate = .ok ())
    (run : Runs t (opening t now) trace m) {i : Fin t.size} {s : State}
    (ready : m.phases i = .ready s) (short : ¬ t.LimitReached (answersTo i trace)) {time : Instant}
    (granted : (m.completion.claim time t.lag).1 = true) (r : Except StoreError Response) :
    ∃ operation s', Runs t (opening t now)
      (trace ++ [.claimed i] ++ [.called i operation] ++ [.answered i r])
      ⟨(m.completion.claim time t.lag).2, Function.update m.phases i (.ready s')⟩ := by
  obtain ⟨-, goes⟩ := (run.counted valid ready).next_turn valid
  obtain ⟨ask, turn⟩ := goes short time m.completion granted
  obtain ⟨container, operation, goOn, rfl⟩ := Trial.step_call turn
  have claimed := run.pass ready (.claim turn)
  have called := claimed.pass (Function.update_self ..) .call
  have answered := called.pass (Function.update_self ..) (.answer r time)
  refine ⟨operation, goOn r time, ?_⟩
  simpa only [Function.update_idem] using answered

/-- Two stressors that may fail twice.  The first one does, and gives up; the second takes what is
left. -/
theorem Runs.ends_after_streak_two :
    let settings : StressSettings :=
      { test := { threads := 2 }, numRequests := 3, maxConsecutiveFailures := some 2 }
    let t : Trial := ⟨settings, fun i => ⟨i, .ofNanos 0⟩, fun _ _ => ⟨0, 7⟩, 0⟩
    settings.validate = .ok () ∧
    ∃ (a b : Fin t.size) (operation : Operation) (before : List (Happening t.size))
      (result : Result) (m : Moment t.size),
      Runs t (opening t fun _ => 0) (before ++ .ended a false result ::
        [.claimed b, .called b operation, .answered b (.ok (.value none))]) m ∧
      m.completion = .requests 0 ∧ result.failure ≠ none ∧ FailedFirst 2 (answersTo a before) := by
  intro settings t
  have valid : settings.validate = .ok () := by decide
  have one : (1 : Nat) < t.size := by decide
  let a : Fin t.size := ⟨0, Nat.lt_trans Nat.zero_lt_one one⟩
  let b : Fin t.size := ⟨1, one⟩
  let busy : Except StoreError Response := .error (.unavailable "busy")
  have budget : (opening t fun _ => 0).completion.claim 1 0 = (true, .requests 2) := by decide
  have claim_two : (Completion.requests 2).claim 1 0 = (true, .requests 1) := by decide
  have claim_one : (Completion.requests 1).claim 1 0 = (true, .requests 0) := by decide
  have short (answers : Answers) (few : streak answers < 2) : ¬ t.LimitReached answers := by
    rintro ⟨limit, same, failed⟩
    cases same
    exact Nat.not_le.2 few (failedLast_iff.1 failed)
  obtain ⟨_, _, once⟩ := (@Runs.start t.size t (opening t fun _ => 0)).round valid (i := a) rfl
    (short _ Nat.zero_lt_two) (congrArg Prod.fst budget) busy
  rw [budget] at once
  obtain ⟨_, _, twice⟩ := once.round valid (i := a) rfl (short _ Nat.one_lt_two)
    (congrArg Prod.fst claim_two) busy
  rw [claim_two] at twice
  obtain ⟨result, turn, failed⟩ := ((twice.counted valid (i := a) rfl).next_turn valid).1
    ⟨2, rfl, failedLast_iff.2 (Nat.le_refl 2)⟩ 2 false (.requests 1)
  have ended := twice.pass (i := a) rfl (.finish turn)
  obtain ⟨_, _, run⟩ := ended.round valid (i := b) rfl (short _ Nat.zero_lt_two)
    (congrArg Prod.fst claim_one) (.ok (.value none))
  rw [claim_one, List.append_assoc, List.append_assoc, List.append_assoc] at run
  obtain ⟨ends, -⟩ := run.ends_after_streak valid a
  obtain ⟨-, _, _, -, -, ends, -⟩ := ends _ _ _ _ rfl
  obtain ⟨limit, same, first⟩ := ends.failed_iff.1 failed
  cases same
  exact ⟨valid, a, b, _, _, result, _, run, rfl, failed, first⟩

end Moment

end LoadFleet.Stress
