import LoadFleet.Proofs.Arrivals
import LoadFleet.Proofs.Polling
/-!
# Waiting for an event

`Timeline.waitForEvent_earliest`: on a clock where sleeps last as long as asked for, a wait for an
event finds the earliest event that it is for, whatever its interval is, or ends at its time limit.

What a look finds depends only on whether the earliest event has arrived
(`Timeline.find?_of_none_arrived`, `Timeline.find?_of_earliest`), and what stays to be found is
found within an interval (`WaitLimits.poll_arrival`).
-/

namespace LoadFleet

namespace Timeline

variable {t : Timeline} {q : TopologyHistory.EventQuery} {e : TopologyEvent} {arrival : Instant}

/-- A wait finds the earliest event that it is for, unless its time limit is up before. -/
theorem waitForEvent_found {wake : Instant → Span → Instant} {w : WaitLimits}
    {start horizon : Instant} (h : t.Earliest q e arrival) (exact : SleepsExactly wake horizon)
    (interval : 0 < w.interval.nanos)
    (reach : w.timeout.isZero = true ∧ max arrival start + w.interval.nanos ≤ horizon ∨
      w.timeout.isZero = false ∧ arrival < start + w.timeout.nanos ∧
        start + w.timeout.nanos ≤ horizon) :
    ∃ time, t.waitForEvent wake q w start = .found e time ∧
      max arrival start ≤ time ∧ time ≤ max arrival start + w.interval.nanos ∧
      (w.timeout.isZero = false → time ≤ start + w.timeout.nanos) :=
  WaitLimits.poll_arrival exact interval
    (fun _ early => find?_of_none_arrived (h.none_arrived early))
    (fun _ due => find?_of_earliest h due)
    (reach.imp (fun ⟨unlimited, far⟩ => ⟨unlimited, h.le_lastChange, far⟩) id)

/-- **The wait for an event.** On a clock where sleeps last as long as asked for, a wait that looks
once in an interval finds the earliest event that it is for: within an interval of its arrival, or
of the start if it arrived before, and not after the time limit.  If there is none until the limit,
the wait ends there.  Without a limit it never gives up. -/
theorem waitForEvent_earliest (t : Timeline) (q : TopologyHistory.EventQuery)
    (wake : Instant → Span → Instant) (start : Instant) (timeout : Span) :
    (0 < timeout.nanos → SleepsExactly wake (start + timeout.nanos) →
      ((∀ e arrival, t.Earliest q e arrival → arrival < start + timeout.nanos →
        ∀ interval : Span, 0 < interval.nanos →
          ∃ time, t.waitForEvent wake q ⟨timeout, interval⟩ start = .found e time ∧
            max arrival start ≤ time ∧ time ≤ max arrival start + interval.nanos ∧
            time ≤ start + timeout.nanos) ∧
      ((∀ x ∈ t.arrivals, x.1 ≤ start + timeout.nanos → ¬ q.Matches x.2) →
        ∀ interval : Span, 0 < interval.nanos →
          t.waitForEvent wake q ⟨timeout, interval⟩ start =
            .timedOut timeout (start + timeout.nanos)) ∧
      ∀ interval : Span, 0 < interval.nanos → ∀ waited time,
        t.waitForEvent wake q ⟨timeout, interval⟩ start = .timedOut waited time →
          waited = timeout ∧ time = start + timeout.nanos)) ∧
    (timeout.nanos = 0 →
      (∀ interval waited time,
        t.waitForEvent wake q ⟨timeout, interval⟩ start ≠ .timedOut waited time) ∧
      ∀ e arrival, t.Earliest q e arrival → ∀ interval : Span, 0 < interval.nanos →
        SleepsExactly wake (max arrival start + interval.nanos) →
          ∃ time, t.waitForEvent wake q ⟨timeout, interval⟩ start = .found e time ∧
            max arrival start ≤ time ∧ time ≤ max arrival start + interval.nanos) := by
  refine ⟨fun limited exact => ⟨?_, ?_, ?_⟩, fun unlimited => ⟨?_, ?_⟩⟩
  · intro e arrival h inTime interval positive
    have limited := Span.not_isZero_iff.2 limited
    obtain ⟨time, found, late, soon, limit⟩ :=
      waitForEvent_found (w := ⟨timeout, interval⟩) h exact positive
        (.inr ⟨limited, inTime, Nat.le_refl _⟩)
    exact ⟨time, found, late, soon, limit limited⟩
  · intro h interval positive
    refine WaitLimits.poll_timedOut (w := ⟨timeout, interval⟩) exact limited positive fun i => ?_
    have inside : WaitLimits.lookTime ⟨timeout, interval⟩ start i ≤ start + timeout.nanos :=
      WaitLimits.lookTime_le (Span.not_isZero_iff.2 limited) i
    exact find?_of_none_arrived fun x hx due => h x hx (Nat.le_trans due inside)
  · intro interval positive waited time h
    exact (WaitLimits.poll_eq_timedOut (w := ⟨timeout, interval⟩) exact limited positive h).2
  · intro interval waited time
    exact WaitLimits.poll_unlimited unlimited waited time
  · intro e arrival h interval positive exact
    obtain ⟨time, found, late, soon, -⟩ :=
      waitForEvent_found (w := ⟨timeout, interval⟩) h exact positive
        (.inl ⟨Span.isZero_iff.2 unlimited, Nat.le_refl _⟩)
    exact ⟨time, found, late, soon⟩

/-- The end of a rehash arrives three seconds after the start, just behind its beginning: a wait of
ten seconds finds it, one of two seconds does not, and one without a limit finds it. -/
theorem waitForEvent_earliest_late :
    let t : Timeline := ⟨.empty, [(3000000000, .event "default" .rehash .start 2 none),
      (3000000000, .event "default" .rehash .finish 2 none)], by decide⟩
    let q : TopologyHistory.EventQuery := ⟨"default", .rehash, .finish, 2, 10, none⟩
    let e : TopologyEvent := ⟨1, "default", .rehash, .finish, 3000000000, 2⟩
    let interval := Span.ofSeconds 1
    (∃ time, t.waitForEvent Clock.exact.wake q ⟨.ofSeconds 10, interval⟩ 0 = .found e time ∧
      time ≤ 4000000000) ∧
    t.waitForEvent Clock.exact.wake q ⟨.ofSeconds 2, interval⟩ 0 =
      .timedOut (.ofSeconds 2) 2000000000 ∧
    ∃ time, t.waitForEvent Clock.exact.wake q ⟨.zero, interval⟩ 0 = .found e time := by
  intro t q e interval
  have positive : 0 < interval.nanos := by decide
  have earliest : t.Earliest q e 3000000000 := by
    refine ⟨[(3000000000, ⟨0, "default", .rehash, .start, 3000000000, 2⟩)], [], rfl, ?_, ?_⟩
    · exact ⟨rfl, rfl, nofun, .inr (.inr ⟨rfl, rfl⟩), by decide, by decide⟩
    · intro x hx
      obtain rfl := List.mem_singleton.1 hx
      exact fun matched => absurd matched.phase (by decide)
  have late : ∀ x ∈ t.arrivals, ¬ x.1 ≤ 0 + (Span.ofSeconds 2).nanos := by decide
  obtain ⟨found, -, -⟩ := (t.waitForEvent_earliest q Clock.exact.wake 0 (.ofSeconds 10)).1
    (by decide) (Clock.exact_sleepsExactly (by decide))
  obtain ⟨-, gives_up, -⟩ := (t.waitForEvent_earliest q Clock.exact.wake 0 (.ofSeconds 2)).1
    (by decide) (Clock.exact_sleepsExactly (by decide))
  obtain ⟨-, waits⟩ := (t.waitForEvent_earliest q Clock.exact.wake 0 .zero).2 (by decide)
  refine ⟨?_, ?_, ?_⟩
  · obtain ⟨time, result, -, soon, -⟩ :=
      found e 3000000000 earliest (by decide) interval positive
    exact ⟨time, result, Nat.le_trans soon (by decide)⟩
  · exact gives_up (fun x hx due => absurd due (late x hx)) interval positive
  · obtain ⟨time, result, -⟩ :=
      waits e 3000000000 earliest interval positive (Clock.exact_sleepsExactly (by decide))
    exact ⟨time, result⟩

end Timeline

end LoadFleet
