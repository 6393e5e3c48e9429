/-!
# Durations and points in time

Durations are whole nanoseconds below 2⁶⁴ seconds. The queue measures time by instants of a clock
that never goes back, counted in nanoseconds from a start of its own; reports carry timestamps of
the wall clock, in milliseconds since the epoch.
-/

namespace TestFleet

/-- How many nanoseconds a second has. -/
def nanosPerSecond : Nat := 1000000000

/-- A length of time. -/
structure Duration where
  nanoseconds : Nat
  inRange : nanoseconds < UInt64.size * nanosPerSecond := by decide
  deriving DecidableEq, Repr

namespace Duration

/-- No time at all. -/
def zero : Duration := ⟨0, by decide⟩

instance : Inhabited Duration := ⟨zero⟩

/-- A duration of so many nanoseconds, or the longest one if that is too long. -/
def ofNanos (n : Nat) : Duration :=
  if h : n < UInt64.size * nanosPerSecond then ⟨n, h⟩
  else ⟨UInt64.size * nanosPerSecond - 1, by decide⟩

/-- Whole seconds. -/
def ofSeconds (s : UInt64) : Duration :=
  ⟨s.toNat * nanosPerSecond, Nat.mul_lt_mul_of_pos_right s.toNat_lt (by decide)⟩

/-- Whole milliseconds. -/
def ofMillis (ms : UInt64) : Duration :=
  ⟨ms.toNat * 1000000, by
    have := s_lt ms
    simp only [nanosPerSecond]
    omega⟩
where
  s_lt (ms : UInt64) : ms.toNat < UInt64.size := ms.toNat_lt_size

/-- The whole seconds of a duration. -/
def seconds (d : Duration) : Nat := d.nanoseconds / nanosPerSecond

/-- What is left of a duration beyond its whole seconds. -/
def subsecondNanos (d : Duration) : Nat := d.nanoseconds % nanosPerSecond

/-- A duration of seconds and nanoseconds, if it is not too long. -/
def ofParts? (secs nanos : Nat) : Option Duration :=
  if h : secs * nanosPerSecond + nanos < UInt64.size * nanosPerSecond then some ⟨_, h⟩ else none

/-- So many times a duration, if it is not too long. -/
def times? (d : Duration) (n : Nat) : Option Duration :=
  if h : d.nanoseconds * n < UInt64.size * nanosPerSecond then some ⟨_, h⟩ else none

/-- The shorter of two durations. -/
def min (a b : Duration) : Duration := if b.nanoseconds < a.nanoseconds then b else a

end Duration

/-- A reading of the clock that the queue measures time by. -/
structure Instant where
  nanoseconds : Nat
  deriving DecidableEq, Repr, Inhabited

namespace Instant

/-- How many nanoseconds have passed since `earlier`; none if `earlier` is later. -/
def since (now earlier : Instant) : Nat := now.nanoseconds - earlier.nanoseconds

/-- Whether more than `d` has passed since `earlier`. -/
def isBeyond (now earlier : Instant) (d : Duration) : Bool := d.nanoseconds < now.since earlier

/-- The instant so much later. -/
def after (now : Instant) (d : Duration) : Instant := ⟨now.nanoseconds + d.nanoseconds⟩

end Instant

/-- A reading of the wall clock, in milliseconds since the epoch. -/
structure Timestamp where
  millis : UInt64
  deriving DecidableEq, Repr, Inhabited

namespace Timestamp

/-- The time from `earlier` to `later`, or none at all if `earlier` is later. -/
def since (later earlier : Timestamp) : Duration :=
  Duration.ofMillis (UInt64.ofNat (later.millis.toNat - earlier.millis.toNat))

end Timestamp

end TestFleet
