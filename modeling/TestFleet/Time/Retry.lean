/-!
# Trying again

An operation that may fail is tried until it succeeds or a number of attempts has failed. Attempts
are numbered from one, and there is always a first one. The state that the operation works on is
carried from each attempt to the next. There is a pause between two attempts, and if that fails,
there are no more.
-/

namespace TestFleet

variable {σ ε α : Type}

/-- Tries `operation` from attempt `attempt` on, with `left` more attempts allowed after it, and with
a `pause` between two attempts. -/
def retryFrom (operation : Nat → σ → Except ε α × σ) (pause : Nat → σ → Except ε Unit × σ)
    (attempt : Nat) : Nat → σ → Except ε α × σ
  | 0, s => operation attempt s
  | left + 1, s =>
    match operation attempt s with
    | (.ok a, s) => (.ok a, s)
    | (.error _, s) =>
      match pause attempt s with
      | (.error e, s) => (.error e, s)
      | (.ok (), s) => retryFrom operation pause (attempt + 1) left s

/-- Tries `operation` until it succeeds or `attempts` attempts have failed. -/
def retry (attempts : Nat) (operation : Nat → σ → Except ε α × σ)
    (pause : Nat → σ → Except ε Unit × σ) (s : σ) : Except ε α × σ :=
  retryFrom operation pause 1 (attempts - 1) s

end TestFleet
