import TestFleet.Concurrency.Broadcast

/-!
# Shutting down

The tasks of a server listen for the signal to stop. It is given once, and one that begins to listen
after that does not get it. A retired server goes on with what it has and takes on nothing new;
every task can see that at any time.
-/

namespace TestFleet

/-- Why a shutdown fails. -/
inductive ShutdownFault where
  | nobodyListens
  deriving DecidableEq, Repr

/-- The explanation shown to a user. -/
def ShutdownFault.message : ShutdownFault → String
  | nobodyListens => "no task is listening for shutdown"

/-- How far a server is shut down, and who listens for it. -/
structure Shutdown where
  isRetired : Bool := false
  isShutDown : Bool := false
  signal : Broadcast Unit := { room := 1 }

namespace Shutdown

/-- One more task listens. -/
def listen (s : Shutdown) : Shutdown := { s with signal := s.signal.subscribe }

/-- A server with one task. -/
def pair : Shutdown := listen {}

/-- Takes on nothing new from now on. -/
def retire (s : Shutdown) : Shutdown := { s with isRetired := true }

/-- Gives the signal: the number of tasks that get it. A second time there is nobody left who would
need it. -/
def shutdown (s : Shutdown) : Except ShutdownFault Nat × Shutdown :=
  if s.isShutDown then (.ok 0, s)
  else
    let n := s.signal.listeners
    (if n = 0 then .error .nobodyListens else .ok n,
      { s with isShutDown := true, signal := s.signal.post () })

/-- Whether the signal is there for a task; it takes the signal with it. -/
def receive? (s : Shutdown) (task : Nat) : Option (Bool × Shutdown) :=
  (s.signal.next? task).map fun (post, signal) => (post.isSome, { s with signal := signal })

/-- A task does not listen any more. -/
def leave? (s : Shutdown) (task : Nat) : Option Shutdown :=
  (s.signal.leave? task).map fun signal => { s with signal := signal }

end Shutdown

end TestFleet
