import LoadFleet.Proofs.Polling
import Mathlib.Algebra.Order.Floor.Semiring
import Mathlib.Data.Rat.Floor
/-!
# Waiting until nothing changes

A history may settle, and change again before a wait looks.  So what a wait tells depends on when it
looks, and not only on what happens: it is right about the times of its looks, and it misses nothing
that lasts for an interval.

A `Watch` keeps the times of the looks beside the result.  A wait with a time limit looks at its
start, after every interval, and last at the limit, unless a look finds what it is for; the number
of looks is a quotient, rounded up, and one more.

* `WaitLimits.watchFrom_result`: keeping the times changes nothing.
* `WaitLimits.watchFrom_skip`: looks that find nothing lead to the next ones.
* `WaitLimits.watch_cases`: when a wait looks, and how it ends.
* `Watch.Tells`: what a wait tells of what it waits for.
* `Timeline.watchUntilSettled_tells`: what a wait until a history is settled tells.
-/

namespace LoadFleet

/-- The times at which a wait looks, and how it ends. -/
structure Watch (α : Type) where
  looks : List Instant
  result : WaitResult α

/-- A wait that has looked once before. -/
def Watch.after {α : Type} (now : Instant) (watch : Watch α) : Watch α :=
  ⟨now :: watch.looks, watch.result⟩

namespace WaitLimits

variable {α : Type} {w : WaitLimits} {wake : Instant → Span → Instant}
  {look : Instant → Option α} {start last horizon : Instant}

/-- Looks again and again, at most `looks` times, and keeps the times of the looks. -/
def watchFrom (w : WaitLimits) (wake : Instant → Span → Instant) (look : Instant → Option α)
    (start : Instant) : Nat → Instant → Watch α
  | 0, _ => ⟨[], .never⟩
  | looks + 1, now =>
    match look now with
    | some a => ⟨[now], .found a now⟩
    | none =>
      if !w.timeout.isZero && w.timeout.nanos ≤ now - start then
        ⟨[now], .timedOut (Span.ofNanos (now - start)) now⟩
      else (watchFrom w wake look start looks (wake now (w.pause (now - start)))).after now

/-- Looks until something is found or the time limit is reached, and keeps the times of the
looks. -/
def watch (w : WaitLimits) (wake : Instant → Span → Instant) (look : Instant → Option α)
    (start last : Instant) : Watch α :=
  w.watchFrom wake look start (w.looks start last) start

/-- Keeping the times of the looks changes nothing. -/
theorem watchFrom_result (looks : Nat) (now : Instant) :
    (w.watchFrom wake look start looks now).result = w.pollFrom wake look start looks now := by
  induction looks generalizing now with
  | zero => rfl
  | succ looks ih =>
    rw [watchFrom, pollFrom]
    cases look now with
    | some a => rfl
    | none =>
      dsimp only
      split
      · rfl
      · exact ih _

theorem watch_result :
    (w.watch wake look start last).result = w.poll wake look start last :=
  watchFrom_result ..

/-- A look before the time limit that finds nothing leads to the next one. -/
theorem watchFrom_succ (exact : SleepsExactly wake horizon) {i : Nat} (looks : Nat)
    (nothing : look (w.lookTime start i) = none) (more : w.Within i)
    (due : w.lookTime start (i + 1) ≤ horizon) :
    w.watchFrom wake look start (looks + 1) (w.lookTime start i) =
      (w.watchFrom wake look start looks (w.lookTime start (i + 1))).after
        (w.lookTime start i) := by
  rw [watchFrom, nothing, wake_lookTime exact more due]
  simp only [goes_on more, Bool.false_eq_true, if_false]

/-- **Looks that find nothing lead to the next ones**, and come before them. -/
theorem watchFrom_skip (exact : SleepsExactly wake horizon) (looks n : Nat)
    (nothing : ∀ i, i < n → look (w.lookTime start i) = none ∧ w.Within i)
    (due : w.lookTime start n ≤ horizon) :
    w.watchFrom wake look start (looks + n) start =
      ⟨(List.range n).map (w.lookTime start) ++
          (w.watchFrom wake look start looks (w.lookTime start n)).looks,
        (w.watchFrom wake look start looks (w.lookTime start n)).result⟩ := by
  induction n generalizing looks with
  | zero => simp
  | succ n ih =>
    obtain ⟨none, more⟩ := nothing n (Nat.lt_succ_self n)
    have earlier : w.lookTime start n ≤ w.lookTime start (n + 1) :=
      Nat.add_le_add_left (lookDelay_succ more ▸ Nat.le_add_right _ _) start
    rw [show looks + (n + 1) = looks + 1 + n by omega,
      ih (looks + 1) (fun i h => nothing i (Nat.lt_succ_of_lt h)) (Nat.le_trans earlier due),
      watchFrom_succ exact looks none more due, List.range_succ, List.map_append,
      List.append_assoc]
    rfl

/-- **A wait with a time limit** looks at its start and after every interval, up to the first look
that finds something or is not before the limit.  That look is taken at the limit at the latest. -/
theorem watch_cases (look : Instant → Option α) (last : Instant)
    (exact : SleepsExactly wake (start + w.timeout.nanos)) (limited : 0 < w.timeout.nanos)
    (interval : 0 < w.interval.nanos) :
    ∃ k, (w.watch wake look start last).looks = (List.range (k + 1)).map (w.lookTime start) ∧
      (∀ i < k, i * w.interval.nanos < w.timeout.nanos ∧ look (w.lookTime start i) = none) ∧
      ((∃ a, look (w.lookTime start k) = some a ∧
          (w.watch wake look start last).result = .found a (w.lookTime start k)) ∨
        look (w.lookTime start k) = none ∧ w.timeout.nanos ≤ k * w.interval.nanos ∧
          (w.watch wake look start last).result =
            .timedOut w.timeout (start + w.timeout.nanos)) := by
  classical
  have unlimited : w.timeout.isZero = false := Span.not_isZero_iff.2 limited
  obtain ⟨n, reached, -, few, -⟩ := exists_first_multiple w.timeout.nanos interval
  have ends : ∃ k, look (w.lookTime start k) ≠ none ∨ w.timeout.nanos ≤ k * w.interval.nanos :=
    ⟨n, .inr reached⟩
  have first : ∀ i < Nat.find ends, i * w.interval.nanos < w.timeout.nanos ∧
      look (w.lookTime start i) = none := fun i before => by
    obtain ⟨none, inside⟩ := not_or.1 (Nat.find_min ends before)
    exact ⟨Nat.lt_of_not_le inside, not_not.1 none⟩
  have last_look := Nat.find_spec ends
  have enough : Nat.find ends < w.looks start last := lt_looks interval (by simp [unlimited])
    (Nat.le_trans (Nat.find_min' ends (.inr reached)) few)
  generalize Nat.find ends = k at first last_look enough
  obtain ⟨looks, h⟩ := Nat.exists_eq_add_of_lt enough
  have skipped := watchFrom_skip exact (looks + 1) k
    (fun i before => ⟨(first i before).2, .inr (first i before).1⟩) (lookTime_le unlimited k)
  rw [show looks + 1 + k = w.looks start last by omega] at skipped
  rw [watch, skipped]
  cases seen : look (w.lookTime start k) with
  | some a =>
    have ended : w.watchFrom wake look start (looks + 1) (w.lookTime start k) =
        ⟨[w.lookTime start k], .found a (w.lookTime start k)⟩ := by rw [watchFrom, seen]
    refine ⟨k, ?_, first, .inl ⟨a, seen, by rw [ended]⟩⟩
    rw [ended, List.range_succ, List.map_append, List.map_singleton]
  | none =>
    have passed := last_look.resolve_left (not_not.2 seen)
    have limit : w.lookTime start k = start + w.timeout.nanos := by
      rw [lookTime, lookDelay, unlimited, if_neg Bool.false_ne_true, Nat.min_eq_right passed]
    have ended : w.watchFrom wake look start (looks + 1) (w.lookTime start k) =
        ⟨[w.lookTime start k], .timedOut w.timeout (start + w.timeout.nanos)⟩ := by
      rw [watchFrom, seen, limit]
      simp [unlimited]
    refine ⟨k, ?_, first, .inr ⟨seen, passed, by rw [ended]⟩⟩
    rw [ended, List.range_succ, List.map_append, List.map_singleton]

end WaitLimits

/-! ### Waiting until a history is settled -/

namespace Timeline

/-- Whether a history looks settled at a time. -/
def settledAt (t : Timeline) (cache : String) (histories : OrderedSet HistoryKind)
    (checkMembership : Bool) (period : Span) (now : Instant) : Bool :=
  (t.seen now).isSettled cache histories checkMembership period now

/-- Waits until the selected histories are quiet, and keeps the times of the looks. -/
def watchUntilSettled (t : Timeline) (wake : Instant → Span → Instant) (cache : String)
    (histories : OrderedSet HistoryKind) (checkMembership : Bool) (period : Span) (w : WaitLimits)
    (start : Instant) : Watch Unit :=
  w.watch wake
    (fun now => if t.settledAt cache histories checkMembership period now then some () else none)
    start (max (max t.lastChange (t.seen t.lastChange).lastNoted) start + period.nanos)

theorem watchUntilSettled_result (t : Timeline) (wake : Instant → Span → Instant) (cache : String)
    (histories : OrderedSet HistoryKind) (checkMembership : Bool) (period : Span) (w : WaitLimits)
    (start : Instant) :
    (t.watchUntilSettled wake cache histories checkMembership period w start).result =
      t.waitUntilSettled wake cache histories checkMembership period w start :=
  WaitLimits.watch_result

end Timeline

/-- What a wait until something is settled tells, given when it is. -/
structure Watch.Tells (settled : Instant → Bool) (w : WaitLimits) (start : Instant)
    (watch : Watch Unit) : Prop where
  /-- The looks are taken at the start, after every interval, and last at the limit. -/
  looks : ∃ k, (∀ i < k, i * w.interval.nanos < w.timeout.nanos) ∧ watch.looks =
    (List.range (k + 1)).map fun i => start + min (i * w.interval.nanos) w.timeout.nanos
  few : watch.looks.length ≤ ⌈(w.timeout.nanos : ℚ) / w.interval.nanos⌉₊ + 1
  /-- All but the last look find nothing. -/
  first : ∀ time ∈ watch.looks.dropLast, settled time = false
  ends : watch.result ≠ .never
  found : ∀ time, watch.result = .found () time →
    watch.looks.getLast? = some time ∧ settled time = true
  /-- The wait gives up at its limit only, and only if no look found anything. -/
  timedOut : ∀ waited time, watch.result = .timedOut waited time →
    watch.looks.getLast? = some time ∧ time = start + w.timeout.nanos ∧ waited = w.timeout ∧
      ∀ look ∈ watch.looks, settled look = false
  /-- What is settled from some time up to the limit is found within an interval. -/
  soon : ∀ s ≤ start + w.timeout.nanos,
    (∀ now, s ≤ now → now ≤ start + w.timeout.nanos → settled now = true) →
      ∃ time, watch.result = .found () time ∧
        time ≤ min (max s start + w.interval.nanos) (start + w.timeout.nanos)

namespace WaitLimits

variable {w : WaitLimits} {wake : Instant → Span → Instant} {start last : Instant}

theorem tells (settled : Instant → Bool) (limited : 0 < w.timeout.nanos)
    (interval : 0 < w.interval.nanos) (exact : SleepsExactly wake (start + w.timeout.nanos)) :
    (w.watch wake (fun now => if settled now then some () else none) start last).Tells settled w
      start := by
  have delay (i : Nat) : w.lookTime start i =
      start + min (i * w.interval.nanos) w.timeout.nanos := by
    rw [lookTime, lookDelay, Span.not_isZero_iff.2 limited, if_neg Bool.false_ne_true]
  have unsettled {now : Instant} (h : (if settled now then some () else none) = none) :
      settled now = false := by
    cases seen : settled now with
    | false => rfl
    | true => simp [seen] at h
  obtain ⟨k, looks, first, ending⟩ :=
    watch_cases (fun now => if settled now then some () else none) last exact limited interval
  generalize w.watch wake _ start last = watch at looks ending
  have before : watch.looks = (List.range k).map (w.lookTime start) ++ [w.lookTime start k] := by
    rw [looks, List.range_succ, List.map_append, List.map_singleton]
  have last_look : watch.looks.getLast? = some (w.lookTime start k) := by
    rw [before, List.getLast?_concat]
  have none (i : Nat) (less : i < k) : settled (w.lookTime start i) = false :=
    unsettled (first i less).2
  refine
    { looks := ⟨k, fun i less => (first i less).1, ?_⟩
      few := ?_
      first := fun time hm => ?_
      ends := ?_
      found := fun time found => ?_
      timedOut := fun waited time given => ?_
      soon := fun s inTime stays => ?_ }
  · rw [looks]
    exact List.map_congr_left fun i _ => delay i
  · rw [looks, List.length_map, List.length_range]
    refine Nat.succ_le_succ ?_
    cases k with
    | zero => exact Nat.zero_le _
    | succ j =>
      have inside := (first j (Nat.lt_succ_self j)).1
      refine Nat.lt_ceil.2 ((lt_div_iff₀ (by exact_mod_cast interval)).2 ?_)
      exact_mod_cast inside
  · rw [before, List.dropLast_concat] at hm
    obtain ⟨i, hi, rfl⟩ := List.mem_map.1 hm
    exact none i (List.mem_range.1 hi)
  · rcases ending with ⟨a, -, found⟩ | ⟨-, -, given⟩
    · simp [found]
    · simp [given]
  · rcases ending with ⟨a, seen, found'⟩ | ⟨-, -, given⟩
    · cases found.symm.trans found'
      refine ⟨last_look, ?_⟩
      by_contra h
      simp [h] at seen
    · cases found.symm.trans given
  · rcases ending with ⟨a, -, found⟩ | ⟨seen, passed, given'⟩
    · cases given.symm.trans found
    · cases given.symm.trans given'
      have limit : w.lookTime start k = start + w.timeout.nanos := by
        rw [delay, Nat.min_eq_right passed]
      refine ⟨limit ▸ last_look, rfl, rfl, fun time hm => ?_⟩
      rw [before, List.mem_append, List.mem_singleton] at hm
      rcases hm with hm | rfl
      · obtain ⟨i, hi, rfl⟩ := List.mem_map.1 hm
        exact none i (List.mem_range.1 hi)
      · exact unsettled seen
  · rcases ending with ⟨a, -, found⟩ | ⟨seen, passed, -⟩
    · refine ⟨_, found, ?_⟩
      have limit : w.lookTime start k ≤ start + w.timeout.nanos :=
        lookTime_le (Span.not_isZero_iff.2 limited) k
      refine Nat.le_min.2 ⟨?_, limit⟩
      cases k with
      | zero =>
        rw [lookTime_zero]
        exact Nat.le_trans (Nat.le_max_right s start) (Nat.le_add_right _ _)
      | succ j =>
        -- the look before found nothing, and so came before the history was settled
        have early : w.lookTime start j < s := by
          by_contra late
          have := stays _ (Nat.le_of_not_lt late)
            (lookTime_le (Span.not_isZero_iff.2 limited) j)
          rw [none j (Nat.lt_succ_self j)] at this
          cases this
        have next : w.lookTime start (j + 1) ≤ w.lookTime start j + w.interval.nanos := by
          rw [delay, delay, Nat.succ_mul, Nat.add_assoc]
          delta Instant at *
          omega
        have bound : w.lookTime start j ≤ max s start :=
          Nat.le_trans (Nat.le_of_lt early) (Nat.le_max_left s start)
        exact Nat.le_trans next (Nat.add_le_add_right bound _)
    · have := stays (start + w.timeout.nanos) inTime (Nat.le_refl _)
      rw [← Nat.min_eq_right passed, ← delay, unsettled seen] at this
      cases this

end WaitLimits

/-- **Waiting until a history is settled**, with a time limit and on a clock where sleeps last as
long as asked for.  The wait looks at its start and after every interval, and last at the limit.  If
it ends well, the history is settled at its last look; if it gives up, that is at the limit, and the
history was not settled at any look.  A history that is settled from some time up to the limit is
found within an interval. -/
theorem Timeline.watchUntilSettled_tells (t : Timeline) (wake : Instant → Span → Instant)
    (cache : String) (histories : OrderedSet HistoryKind) (checkMembership : Bool) (period : Span)
    (w : WaitLimits) (start : Instant) (limited : 0 < w.timeout.nanos)
    (interval : 0 < w.interval.nanos) (exact : SleepsExactly wake (start + w.timeout.nanos)) :
    let watch := t.watchUntilSettled wake cache histories checkMembership period w start
    watch.result = t.waitUntilSettled wake cache histories checkMembership period w start ∧
      watch.Tells (t.settledAt cache histories checkMembership period) w start :=
  ⟨watchUntilSettled_result .., WaitLimits.tells _ limited interval exact⟩

/-- A rehash that ends after three seconds is over for two seconds at the fourth look. -/
theorem Timeline.watchUntilSettled_tells_fourth :
    let t : Timeline := ⟨.empty, [(0, .event "default" .rehash .start 2 none),
      (3000000000, .event "default" .rehash .finish 2 none)], by decide⟩
    let histories : OrderedSet HistoryKind := .ofList [.rehash]
    let w : WaitLimits := ⟨.ofSeconds 7, .ofSeconds 2⟩
    let watch := t.watchUntilSettled Clock.exact.wake "default" histories false (.ofSeconds 2) w 0
    0 < w.timeout.nanos ∧ 0 < w.interval.nanos ∧
      SleepsExactly Clock.exact.wake (0 + w.timeout.nanos) ∧
      watch.looks = [0, 2000000000, 4000000000, 6000000000] ∧
      watch.result = .found () 6000000000 ∧
      t.settledAt "default" histories false (.ofSeconds 2) 6000000000 = true := by
  intro t histories w watch
  have exact : SleepsExactly Clock.exact.wake (0 + w.timeout.nanos) :=
    Clock.exact_sleepsExactly (by decide)
  obtain ⟨-, tells⟩ := t.watchUntilSettled_tells Clock.exact.wake "default" histories false
    (.ofSeconds 2) w 0 (by decide) (by decide) exact
  have found : watch.result = .found () 6000000000 := by decide
  exact ⟨by decide, by decide, exact, by decide, found, (tells.found _ found).2⟩

end LoadFleet
