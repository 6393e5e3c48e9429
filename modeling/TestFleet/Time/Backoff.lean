import TestFleet.Time.Duration

/-!
# Backoff

The pauses between attempts form an endless sequence: it starts at a given pause, grows by a fixed
factor with every step, and stops growing at a cap. The cap does not bound the pause it starts at.
-/

namespace TestFleet

/-- A sequence of pauses and the place reached in it. -/
structure Backoff where
  /-- The pause that comes next. -/
  pause : Duration
  /-- The factor from one pause to the next. -/
  factor : Nat
  /-- The pause beyond which the sequence does not grow. -/
  cap : Duration
  /-- The pause it starts at. -/
  start : Duration
  deriving DecidableEq, Repr

namespace Backoff

/-- Always the same pause. -/
def constant (pause : Duration) : Backoff := ⟨pause, 1, pause, pause⟩

/-- Pauses that double until they reach `cap`. -/
def doubling (start cap : Duration) : Backoff := ⟨start, 2, cap, start⟩

/-- The next pause and the sequence after it, unless the pause that follows is too long for a
duration. -/
def next? (b : Backoff) : Option (Duration × Backoff) :=
  (b.pause.times? b.factor).map fun grown => (b.pause, { b with pause := b.cap.min grown })

/-- The sequence from its start. -/
def reset (b : Backoff) : Backoff := { b with pause := b.start }

/-- The next `n` pauses, as far as the sequence goes. -/
def take (b : Backoff) : Nat → List Duration
  | 0 => []
  | n + 1 =>
    match b.next? with
    | none => []
    | some (pause, b) => pause :: b.take n

end Backoff

end TestFleet
