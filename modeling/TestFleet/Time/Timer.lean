import TestFleet.Time.Duration

/-!
# Timers

A timer ticks when it is started, and then again whenever its period has passed since the tick
before. A late tick delays those after it, so ticks never pile up.

* `start?_isSome_iff`, `start?_of_zero`: only a timer without a period does not start.
-/

namespace TestFleet

/-- A running timer. -/
structure Timer where
  period : Duration
  /-- When it ticks next. -/
  due : Instant
  period_pos : 0 < period.nanoseconds

namespace Timer

/-- A timer whose first tick is over. -/
def start? (period : Duration) (now : Instant) : Option Timer :=
  if h : 0 < period.nanoseconds then some ⟨period, now.after period, h⟩ else none

/-- The timer after its tick, if it ticks by now. -/
def tick? (t : Timer) (now : Instant) : Option Timer :=
  if t.due.nanoseconds ≤ now.nanoseconds then some { t with due := now.after t.period } else none

theorem start?_isSome_iff {period : Duration} {now : Instant} :
    (start? period now).isSome ↔ 0 < period.nanoseconds := by
  simp only [start?]
  split <;> simp_all

theorem start?_of_zero {period : Duration} {now : Instant} (zero : period.nanoseconds = 0) :
    start? period now = none :=
  dif_neg (Nat.not_lt.2 (Nat.le_of_eq zero))

end Timer

end TestFleet
