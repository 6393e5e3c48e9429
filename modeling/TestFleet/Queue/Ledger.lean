import TestFleet.Report

/-!
# The ledger of results

The final results of every job, in the order in which they were accepted.
-/

namespace TestFleet

/-- What was recorded for a job. -/
structure JobRecord where
  results : List EntryResult := []
  /-- The buckets whose reports were recorded. -/
  buckets : List BucketId := []
  deriving DecidableEq, Repr, Inhabited

/-- What was recorded for every job. -/
structure Ledger where
  jobs : Directory JobId JobRecord

namespace Ledger

/-- A ledger without records. -/
def empty : Ledger := ⟨∅⟩

/-- What was recorded for a job; for one that the ledger does not know, nothing. -/
def record (l : Ledger) (j : JobId) : JobRecord := (l.jobs.get? j).getD {}

/-- Records the final results of a bucket. -/
def add (l : Ledger) (j : JobId) (b : BucketId) (results : List EntryResult) : Ledger :=
  let r := l.record j
  ⟨l.jobs.insert j ⟨r.results ++ results, r.buckets ++ [b]⟩⟩

/-- The results recorded for a job. -/
def results (l : Ledger) (j : JobId) : List EntryResult := (l.record j).results

/-- The buckets recorded for a job. -/
def buckets (l : Ledger) (j : JobId) : List BucketId := (l.record j).buckets

/-- Forgets a job. -/
def remove (l : Ledger) (j : JobId) : Ledger := ⟨l.jobs.erase j⟩

end Ledger

end TestFleet
