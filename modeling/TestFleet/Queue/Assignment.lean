import TestFleet.Sorting
import TestFleet.Identity

/-!
# Which workers a job prefers

A job may prefer some of the workers. Preferences only steer which job a worker is given work of:
no worker goes idle because no job prefers it.
-/

namespace TestFleet

/-- The workers that jobs prefer. -/
abbrev Preferences := Directory JobId (List WorkerId)

/-- How preferences are found. -/
inductive Assignment where
  /-- As listed; workers that are not there are left out. -/
  | fixed (mapping : Preferences)
  /-- The workers are dealt out to the jobs in turn. -/
  | spread

namespace Assignment

/-- The workers listed for a job, as far as they are there. -/
def listed (mapping : Preferences) (workers : List WorkerId) (job : JobId) : List WorkerId :=
  ((mapping.get? job).getD []).filter fun w => workers.contains w

/-- Adds a worker that is not there yet. -/
def addWorker (w : WorkerId) (ws : List WorkerId) : List WorkerId :=
  if ws.contains w then ws else ws ++ [w]

/-- The jobs in the order of their ids. -/
def inOrder (jobs : List JobId) : List JobId := sortBy (fun a b => a.text ≤ b.text) jobs

/-- Deals out one worker: turn `i` goes around the jobs and around the workers. -/
def dealTurn (workers : List WorkerId) (jobs : List JobId) (p : Preferences) (i : Nat) :
    Preferences :=
  match jobs[i % jobs.length]?, workers[i % workers.length]? with
  | some j, some w => p.modify j (addWorker w)
  | _, _ => p

/-- The preferences of `jobs` among `workers`. -/
def preferences (a : Assignment) (workers : List WorkerId) (jobs : List JobId) : Preferences :=
  match a with
  | fixed mapping => Directory.ofList (jobs.map fun j => (j, listed mapping workers j))
  | spread =>
    (List.range (max jobs.length workers.length)).foldl (dealTurn workers (inOrder jobs))
      (Directory.ofList (jobs.map fun j => (j, [])))

end Assignment

end TestFleet
