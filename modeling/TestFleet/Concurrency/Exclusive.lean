/-!
# Exclusive tasks

A task that is done again and again, and never twice at a time: it is skipped while it is still
being done.
-/

namespace TestFleet

/-- A task, and whether it is being done. -/
structure Exclusive where
  isRunning : Bool := false
  /-- How many times it was begun. -/
  begun : Nat := 0

namespace Exclusive

/-- Begins the task; whether it was. -/
def start (e : Exclusive) : Bool × Exclusive :=
  if e.isRunning then (false, e) else (true, ⟨true, e.begun + 1⟩)

/-- Ends the task; whether it was being done. -/
def finish (e : Exclusive) : Bool × Exclusive := (e.isRunning, { e with isRunning := false })

end Exclusive

end TestFleet
