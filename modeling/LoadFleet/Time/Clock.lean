import LoadFleet.Time.Span
/-!
# Clocks with alarms

A stage sleeps, and gives up waiting, when an alarm of its clock goes off. Alarms go off at whole
multiples of the step of the clock: never early, and late by less than a step. On the exact clock,
whose step is one nanosecond, they go off just when they are set for.

* `Clock.le_roundUp`, `Clock.roundUp_lt`: an alarm is never early, and late by less than a step.
-/

namespace LoadFleet

/-- A clock whose alarms go off at multiples of a step. -/
structure Clock where
  step : Nat
  positive : 0 < step

namespace Clock

/-- The clock whose alarms go off just when they are set for. -/
def exact : Clock := ⟨1, by decide⟩

/-- The clock whose alarms go off at whole milliseconds. -/
def milliseconds : Clock := ⟨1000000, by decide⟩

/-- When an alarm that is set for a reading goes off. -/
def roundUp (c : Clock) (t : Instant) : Instant := (t + (c.step - 1)) / c.step * c.step

/-- When an alarm goes off that is set for a span from now, if the clock can represent that. -/
def alarm? (c : Clock) (now : Instant) (span : Span) : Option Instant :=
  (now.after? span).map c.roundUp

/-- When a sleep ends. One that would end beyond what the clock can represent lasts very long. -/
def wake (c : Clock) (now : Instant) (span : Span) : Instant :=
  (c.alarm? now span).getD (now + Instant.farAway)

theorem le_roundUp (c : Clock) (t : Instant) : t ≤ c.roundUp t := by
  have h : c.roundUp t + (t + (c.step - 1)) % c.step = t + (c.step - 1) := Nat.div_add_mod' _ _
  have hm : (t + (c.step - 1)) % c.step < c.step := Nat.mod_lt _ c.positive
  generalize c.roundUp t = r at *
  generalize (t + (c.step - 1)) % c.step = m at *
  delta Instant at *
  omega

theorem roundUp_lt (c : Clock) (t : Instant) : c.roundUp t < t + c.step := by
  have h : c.roundUp t ≤ t + (c.step - 1) := Nat.div_mul_le_self _ _
  have hp : 0 < c.step := c.positive
  generalize c.roundUp t = r at *
  delta Instant at *
  omega

theorem alarm?_of_lt {c : Clock} {now : Instant} {span : Span}
    (h : now + span.nanos < Instant.limit) :
    c.alarm? now span = some (c.roundUp (now + span.nanos)) := by
  simp [alarm?, Instant.after?, h]

theorem alarm?_of_le {c : Clock} {now : Instant} {span : Span}
    (h : Instant.limit ≤ now + span.nanos) : c.alarm? now span = none := by
  simp [alarm?, Instant.after?, Nat.not_lt.2 h]

theorem alarm?_bounds {c : Clock} {now t : Instant} {span : Span}
    (h : c.alarm? now span = some t) :
    now + span.nanos ≤ t ∧ t < now + span.nanos + c.step := by
  rcases Nat.lt_or_ge (now + span.nanos) Instant.limit with near | far
  · rw [alarm?_of_lt near] at h
    cases h
    exact ⟨c.le_roundUp _, c.roundUp_lt _⟩
  · rw [alarm?_of_le far] at h
    cases h

@[simp] theorem roundUp_exact (t : Instant) : exact.roundUp t = t := by
  simp [roundUp, exact]

end Clock

end LoadFleet
