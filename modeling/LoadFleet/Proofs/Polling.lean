import LoadFleet.Topology.Wait
import Mathlib.Data.Nat.Find
/-!
# Looking at fixed intervals

On a clock where sleeps last exactly as long as asked for, the looks of a wait are taken at times
that are known beforehand: after every interval, and at the time limit.

* `WaitLimits.lookTime`: when a wait takes its looks.
* `WaitLimits.pollFrom_skip`: looks that find nothing before the limit lead to the next ones.
* `WaitLimits.poll_found`, `WaitLimits.poll_timedOut`: a wait ends with the first look that finds
  something, or with the look at the time limit.  The number of looks that a wait is given suffices
  for both.
* `WaitLimits.poll_limited`, `WaitLimits.poll_unlimited`: with a time limit a wait ends in one of
  these two ways, and without one it never gives up.
* `WaitLimits.poll_arrival`: what stays to be found from some time on is found within an interval.
-/

namespace LoadFleet

/-- Sleeps that are to end by a time last exactly as long as asked for. -/
def SleepsExactly (wake : Instant → Span → Instant) (horizon : Instant) : Prop :=
  ∀ now pause, now + pause.nanos ≤ horizon → wake now pause = now + pause.nanos

/-- The exact clock is exact as far as it can represent times. -/
theorem Clock.exact_sleepsExactly {horizon : Instant} (h : horizon < Instant.limit) :
    SleepsExactly Clock.exact.wake horizon := by
  intro now pause by_horizon
  have short : now + pause.nanos < Instant.limit := Nat.lt_of_le_of_lt by_horizon h
  simp [wake, alarm?, Instant.after?, short]

theorem Span.nanos_ofNanos {n : Nat} {a : Span} (h : n ≤ a.nanos) : (Span.ofNanos n).nanos = n := by
  simp [ofNanos, ofNanos?, Nat.lt_of_le_of_lt h a.bounded]

@[simp] theorem Span.ofNanos_self (a : Span) : Span.ofNanos a.nanos = a :=
  Span.ext (nanos_ofNanos (Nat.le_refl _))

theorem Span.isZero_iff {a : Span} : a.isZero = true ↔ a.nanos = 0 := by simp [isZero]

theorem Span.not_isZero_iff {a : Span} : a.isZero = false ↔ 0 < a.nanos := by
  simp [isZero, Nat.pos_iff_ne_zero]

/-- The first multiple of an interval that is not below a number. -/
theorem exists_first_multiple (d : Nat) {interval : Nat} (h : 0 < interval) :
    ∃ n, d ≤ n * interval ∧ n * interval < d + interval ∧ n ≤ d / interval + 1 ∧
      ∀ i, i < n → i * interval < d := by
  -- the quotient is rounded up
  have below : (d + (interval - 1)) / interval * interval ≤ d + (interval - 1) :=
    Nat.div_mul_le_self _ _
  have above : (d + (interval - 1)) % interval < interval := Nat.mod_lt _ h
  have whole : (d + (interval - 1)) / interval * interval + (d + (interval - 1)) % interval =
      d + (interval - 1) := Nat.div_add_mod' _ _
  have share : (d + interval) / interval = d / interval + 1 := Nat.add_div_right d h
  refine ⟨(d + (interval - 1)) / interval, by omega, by omega, ?_, fun i first => ?_⟩
  · rw [← share]
    exact Nat.div_le_div_right (by omega)
  · have next : (i + 1) * interval ≤ (d + (interval - 1)) / interval * interval :=
      Nat.mul_le_mul_right _ first
    rw [Nat.succ_mul] at next
    omega

namespace WaitLimits

variable {α : Type} {w : WaitLimits} {wake : Instant → Span → Instant}
  {look : Instant → Option α} {start last horizon : Instant}

/-- How long after its start a wait takes its looks, counted from zero. -/
def lookDelay (w : WaitLimits) (i : Nat) : Nat :=
  if w.timeout.isZero then i * w.interval.nanos
  else min (i * w.interval.nanos) w.timeout.nanos

/-- When a wait takes its looks. -/
def lookTime (w : WaitLimits) (start : Instant) (i : Nat) : Instant := start + w.lookDelay i

/-- A look before the time limit, if there is one. -/
def Within (w : WaitLimits) (i : Nat) : Prop :=
  w.timeout.isZero = true ∨ i * w.interval.nanos < w.timeout.nanos

@[simp] theorem lookTime_zero (w : WaitLimits) (start : Instant) : w.lookTime start 0 = start := by
  simp [lookTime, lookDelay]

theorem lookDelay_le (i : Nat) : w.lookDelay i ≤ i * w.interval.nanos := by
  rw [lookDelay]
  split
  · exact Nat.le_refl _
  · exact Nat.min_le_left _ _

theorem lookDelay_within {i : Nat} (h : w.Within i) : w.lookDelay i = i * w.interval.nanos := by
  rw [lookDelay]
  rcases h with none | before
  · rw [if_pos none]
  · rw [Nat.min_eq_left (Nat.le_of_lt before), ite_self]

/-- No look is taken after the time limit. -/
theorem lookTime_le (limited : w.timeout.isZero = false) (i : Nat) :
    w.lookTime start i ≤ start + w.timeout.nanos := by
  rw [lookTime, lookDelay, limited, if_neg Bool.false_ne_true]
  exact Nat.add_le_add_left (Nat.min_le_right _ _) start

/-- The pause after a look before the time limit lasts until the next one. -/
theorem lookDelay_succ {i : Nat} (more : w.Within i) :
    w.lookDelay (i + 1) = w.lookDelay i + (w.pause (w.lookDelay i)).nanos := by
  rw [lookDelay_within more, lookDelay, pause, Nat.succ_mul]
  cases unlimited : w.timeout.isZero with
  | true => rfl
  | false =>
    have before : i * w.interval.nanos < w.timeout.nanos :=
      more.resolve_left (by simp [unlimited])
    rw [if_neg Bool.false_ne_true, if_neg Bool.false_ne_true,
      Span.nanos_ofNanos (Nat.min_le_left _ _)]
    omega

/-- A sleep before the time limit ends when the next look is due. -/
theorem wake_lookTime (exact : SleepsExactly wake horizon) {i : Nat} (more : w.Within i)
    (due : w.lookTime start (i + 1) ≤ horizon) :
    wake (w.lookTime start i) (w.pause (w.lookTime start i - start)) =
      w.lookTime start (i + 1) := by
  have next : w.lookTime start (i + 1) = w.lookTime start i +
      (w.pause (w.lookTime start i - start)).nanos := by
    rw [lookTime, lookTime, lookDelay_succ more, Nat.add_sub_cancel_left, Nat.add_assoc]
  rw [next] at due ⊢
  exact exact _ _ due

/-- Before the time limit a wait goes on. -/
theorem goes_on {i : Nat} (more : w.Within i) : (!w.timeout.isZero &&
    decide (w.timeout.nanos ≤ w.lookTime start i - start)) = false := by
  rw [lookTime, Nat.add_sub_cancel_left, lookDelay_within more]
  rcases more with unlimited | before
  · simp [unlimited]
  · simp [before]

/-- A look before the time limit that finds nothing leads to the next one. -/
theorem pollFrom_succ (exact : SleepsExactly wake horizon) {i : Nat} (looks : Nat)
    (nothing : look (w.lookTime start i) = none) (more : w.Within i)
    (due : w.lookTime start (i + 1) ≤ horizon) :
    w.pollFrom wake look start (looks + 1) (w.lookTime start i) =
      w.pollFrom wake look start looks (w.lookTime start (i + 1)) := by
  rw [pollFrom, nothing, wake_lookTime exact more due]
  simp only [goes_on more, Bool.false_eq_true, if_false]

/-- **Looks that find nothing lead to the next ones**, as long as the time limit is not reached. -/
theorem pollFrom_skip (exact : SleepsExactly wake horizon) (looks n : Nat)
    (nothing : ∀ i, i < n → look (w.lookTime start i) = none ∧ w.Within i)
    (due : w.lookTime start n ≤ horizon) :
    w.pollFrom wake look start (looks + n) (w.lookTime start 0) =
      w.pollFrom wake look start looks (w.lookTime start n) := by
  induction n generalizing looks with
  | zero => rfl
  | succ n ih =>
    obtain ⟨none, more⟩ := nothing n (Nat.lt_succ_self n)
    have earlier : w.lookTime start n ≤ w.lookTime start (n + 1) :=
      Nat.add_le_add_left (lookDelay_succ more ▸ Nat.le_add_right _ _) start
    -- one of the looks left to the first `n` is taken after them
    rw [show looks + (n + 1) = looks + 1 + n by omega,
      ih (looks + 1) (fun i h => nothing i (Nat.lt_succ_of_lt h)) (Nat.le_trans earlier due),
      pollFrom_succ exact looks none more due]

/-- **A wait ends with the first look that finds something.** -/
theorem poll_found (exact : SleepsExactly wake horizon) {n : Nat} {a : α}
    (nothing : ∀ i, i < n → look (w.lookTime start i) = none ∧ w.Within i)
    (something : look (w.lookTime start n) = some a) (due : w.lookTime start n ≤ horizon)
    (enough : n < w.looks start last) :
    w.poll wake look start last = .found a (w.lookTime start n) := by
  obtain ⟨looks, h⟩ := Nat.exists_eq_add_of_lt enough
  have skipped := pollFrom_skip exact (looks + 1) n nothing due
  rw [lookTime_zero] at skipped
  rw [poll, show w.looks start last = looks + 1 + n by omega, skipped, pollFrom, something]

/-- A wait is given enough looks to reach its time limit or the last change. -/
theorem lt_looks (interval : 0 < w.interval.nanos) {d n : Nat}
    (h : d ≤ if w.timeout.isZero then last - start else w.timeout.nanos)
    (first : n ≤ d / w.interval.nanos + 1) : n < w.looks start last := by
  -- looks are counted for sleeps that may be cut short, and there are no fewer of these
  have step : 0 < min w.interval.nanos Instant.farAway := Nat.lt_min.2 ⟨interval, by decide⟩
  rw [looks, Span.not_isZero_iff.2 interval, if_neg Bool.false_ne_true]
  refine Nat.lt_of_le_of_lt first (Nat.add_lt_add_of_le_of_lt ?_ (by decide))
  exact Nat.le_trans (Nat.div_le_div_left (Nat.min_le_left _ _) step) (Nat.div_le_div_right h)

/-- **A wait that finds nothing ends with the look at the time limit.** -/
theorem poll_timedOut (exact : SleepsExactly wake (start + w.timeout.nanos))
    (limited : 0 < w.timeout.nanos) (interval : 0 < w.interval.nanos)
    (nothing : ∀ i, look (w.lookTime start i) = none) :
    w.poll wake look start last = .timedOut w.timeout (start + w.timeout.nanos) := by
  have unlimited : w.timeout.isZero = false := Span.not_isZero_iff.2 limited
  -- the first look that is not before the limit is taken at the limit
  obtain ⟨n, reached, -, few, before⟩ := exists_first_multiple w.timeout.nanos interval
  have limit : w.lookTime start n = start + w.timeout.nanos := by
    rw [lookTime, lookDelay, unlimited, if_neg Bool.false_ne_true, Nat.min_eq_right reached]
  have enough : n < w.looks start last := lt_looks interval (by simp [unlimited]) few
  obtain ⟨looks, h⟩ := Nat.exists_eq_add_of_lt enough
  have skipped : w.pollFrom wake look start (looks + 1 + n) (w.lookTime start 0) =
      w.pollFrom wake look start (looks + 1) (w.lookTime start n) :=
    pollFrom_skip exact (looks + 1) n (fun i first => ⟨nothing i, .inr (before i first)⟩)
      (Nat.le_of_eq limit)
  rw [lookTime_zero] at skipped
  rw [poll, show w.looks start last = looks + 1 + n by omega, skipped, pollFrom, nothing n, limit]
  simp [unlimited]

/-- A look from the time limit on is the look at the limit. -/
theorem lookTime_of_not_within {i n : Nat} (reached : ¬ w.Within i) (h : i ≤ n) :
    w.lookTime start n = w.lookTime start i := by
  obtain ⟨limited, passed⟩ := not_or.1 reached
  have further : i * w.interval.nanos ≤ n * w.interval.nanos := Nat.mul_le_mul_right _ h
  rw [lookTime, lookTime, lookDelay, lookDelay, if_neg limited, if_neg limited]
  congr 1
  omega

/-- **A wait with a time limit** ends with the first look that finds something, or at the limit if
none does. -/
theorem poll_limited (exact : SleepsExactly wake (start + w.timeout.nanos))
    (limited : 0 < w.timeout.nanos) (interval : 0 < w.interval.nanos) :
    (∃ n a, (∀ i, i < n → look (w.lookTime start i) = none) ∧
      look (w.lookTime start n) = some a ∧
      w.poll wake look start last = .found a (w.lookTime start n)) ∨
    (∀ n, look (w.lookTime start n) = none) ∧
      w.poll wake look start last = .timedOut w.timeout (start + w.timeout.nanos) := by
  classical
  by_cases h : ∃ n, look (w.lookTime start n) ≠ none
  · obtain ⟨a, something⟩ := Option.ne_none_iff_exists'.1 (Nat.find_spec h)
    have nothing (i : Nat) (first : i < Nat.find h) : look (w.lookTime start i) = none :=
      not_not.1 (Nat.find_min h first)
    generalize Nat.find h = n at something nothing
    -- from the limit on all looks see the same, so that the first to find something comes before
    have before (i : Nat) (first : i < n) : w.Within i := by
      by_contra reached
      have same : w.lookTime start n = w.lookTime start i :=
        lookTime_of_not_within reached (Nat.le_of_lt first)
      rw [same, nothing i first] at something
      cases something
    have unlimited : w.timeout.isZero = false := Span.not_isZero_iff.2 limited
    have few : n ≤ w.timeout.nanos / w.interval.nanos + 1 := by
      cases n with
      | zero => exact Nat.zero_le _
      | succ m =>
        have inside : m * w.interval.nanos < w.timeout.nanos :=
          (before m (Nat.lt_succ_self m)).resolve_left (by simp [unlimited])
        exact Nat.succ_le_succ ((Nat.le_div_iff_mul_le interval).2 (Nat.le_of_lt inside))
    exact .inl ⟨n, a, nothing, something,
      poll_found exact (fun i first => ⟨nothing i first, before i first⟩) something
        (lookTime_le unlimited n) (lt_looks interval (by simp [unlimited]) few)⟩
  · have nothing (n : Nat) : look (w.lookTime start n) = none :=
      not_not.1 fun something => h ⟨n, something⟩
    exact .inr ⟨nothing, poll_timedOut exact limited interval nothing⟩

/-- A wait gives up at its time limit only, and only if no look found anything. -/
theorem poll_eq_timedOut (exact : SleepsExactly wake (start + w.timeout.nanos))
    (limited : 0 < w.timeout.nanos) (interval : 0 < w.interval.nanos) {waited : Span}
    {time : Instant} (h : w.poll wake look start last = .timedOut waited time) :
    (∀ n, look (w.lookTime start n) = none) ∧ waited = w.timeout ∧
      time = start + w.timeout.nanos := by
  rcases poll_limited exact limited interval with ⟨n, a, -, -, found⟩ | ⟨nothing, timedOut⟩
  · rw [found] at h
    cases h
  · rw [timedOut] at h
    cases h
    exact ⟨nothing, rfl, rfl⟩

/-- **A wait without a time limit** never gives up. -/
theorem poll_unlimited (unlimited : w.timeout.nanos = 0) (waited : Span) (time : Instant) :
    w.poll wake look start last ≠ .timedOut waited time := by
  have (looks : Nat) (now : Instant) :
      w.pollFrom wake look start looks now ≠ .timedOut waited time := by
    induction looks generalizing now with
    | zero => simp [pollFrom]
    | succ looks ih =>
      rw [pollFrom]
      cases look now with
      | some a => simp
      | none => simpa [Span.isZero_iff.2 unlimited] using ih _
  exact this _ _

/-- **What stays to be found from an arrival on** is found within an interval, by a wait that has no
time limit or reaches it after the arrival only. -/
theorem poll_arrival {arrival : Instant} {a : α} (exact : SleepsExactly wake horizon)
    (interval : 0 < w.interval.nanos) (before : ∀ now, now < arrival → look now = none)
    (after : ∀ now, arrival ≤ now → look now = some a)
    (reach : w.timeout.isZero = true ∧ arrival ≤ last ∧
        max arrival start + w.interval.nanos ≤ horizon ∨
      w.timeout.isZero = false ∧ arrival < start + w.timeout.nanos ∧
        start + w.timeout.nanos ≤ horizon) :
    ∃ time, w.poll wake look start last = .found a time ∧
      max arrival start ≤ time ∧ time ≤ max arrival start + w.interval.nanos ∧
      (w.timeout.isZero = false → time ≤ start + w.timeout.nanos) := by
  -- the first look that is not before the arrival; what arrived before the start is there at once
  obtain ⟨n, reached, soon, few, first⟩ := exists_first_multiple (arrival - start) interval
  have from_start : max arrival start = start + (arrival - start) := by
    delta Instant at *
    omega
  have delay : w.lookDelay n ≤ n * w.interval.nanos := lookDelay_le n
  have late : arrival - start ≤ w.lookDelay n := by
    rw [lookDelay]
    rcases reach with ⟨unlimited, -, -⟩ | ⟨limited, inTime, -⟩
    · rw [if_pos unlimited]
      exact reached
    · rw [limited, if_neg Bool.false_ne_true]
      delta Instant at *
      omega
  have nothing (i : Nat) (h : i < n) : look (w.lookTime start i) = none ∧ w.Within i := by
    have inside := first i h
    have early : w.lookDelay i < arrival - start := Nat.lt_of_le_of_lt (lookDelay_le i) inside
    refine ⟨before _ ?_, ?_⟩
    · rw [lookTime]
      delta Instant at *
      omega
    · rcases reach with ⟨unlimited, -, -⟩ | ⟨-, inTime, -⟩
      · exact .inl unlimited
      · refine .inr ?_
        delta Instant at *
        omega
  have bounds : max arrival start ≤ w.lookTime start n ∧
      w.lookTime start n ≤ max arrival start + w.interval.nanos := by
    rw [from_start, lookTime, Nat.add_assoc]
    exact ⟨Nat.add_le_add_left late _, Nat.add_le_add_left (by omega) _⟩
  refine ⟨w.lookTime start n, poll_found exact nothing ?_ ?_ ?_, bounds.1, bounds.2,
    fun limited => lookTime_le limited n⟩
  · exact after _ (Nat.le_trans (Nat.le_max_left _ _) bounds.1)
  · rcases reach with ⟨-, -, far⟩ | ⟨limited, -, far⟩
    · exact Nat.le_trans bounds.2 far
    · exact Nat.le_trans (lookTime_le limited n) far
  · refine lt_looks interval ?_ few
    rcases reach with ⟨unlimited, seen, -⟩ | ⟨limited, inTime, -⟩
    · rw [if_pos unlimited]
      exact Nat.sub_le_sub_right seen _
    · rw [limited, if_neg Bool.false_ne_true]
      delta Instant at *
      omega

end WaitLimits

end LoadFleet
