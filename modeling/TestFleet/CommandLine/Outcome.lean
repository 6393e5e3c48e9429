import TestFleet.Protocol.Message
import TestFleet.Text.Decimal

/-!
# The outcome of a job in words

A line for each result, a line that sums up the job, and the exit code that tells whether every test
succeeded.
-/

namespace TestFleet

/-- The first reason that the last run of a failed test gives. -/
def EntryResult.reason? (r : EntryResult) : Option String := do
  let run ← r.runs.getLast?
  let exception ← run.exceptions.head?
  some exception.reason

/-- The line of a result: its verdict, its test, how many runs there were if there were several, and
why it failed. -/
def EntryResult.line (r : EntryResult) : String :=
  let verdict := if r.succeeded then "PASS " else "FAIL "
  let runs :=
    if 1 < r.runs.length then " (" ++ Text.decimal r.runs.length ++ " runs)" else ""
  let why := match r.reason? with
    | some reason => if r.succeeded then "" else ": " ++ reason
    | none => ""
  verdict ++ r.entry.shown ++ runs ++ why

/-- The line that sums up a job. -/
def JobState.summary (s : JobState) : String :=
  let failed := (s.results.filter (!·.succeeded)).length
  "job " ++ s.job.text ++ ": " ++ Text.decimal s.results.length ++ " results (" ++
    Text.decimal failed ++ " failed), " ++ Text.decimal s.enqueued.toNat ++
    " buckets enqueued, " ++ Text.decimal s.dequeued.toNat ++ " in flight"

/-- How a command ends. -/
inductive ExitCode where
  | success
  /-- Some test failed. -/
  | failure
  /-- The command itself failed. -/
  | error
  deriving DecidableEq, Repr

/-- The number that the system is told. -/
def ExitCode.number : ExitCode → Nat
  | success => 0
  | failure => 1
  | error => 101

/-- Whether every test of a job succeeded. -/
def JobState.exitCode (s : JobState) : ExitCode :=
  if s.results.all EntryResult.succeeded then .success else .failure

end TestFleet
