import TestFleet.Sorting
import TestFleet.Protocol.Message

/-!
# Which job comes first

When a worker asks for a bucket, the jobs that have one are ranked, and the first is asked.
-/

namespace TestFleet

/-- A job with work to hand out, as the worker that asks sees it. -/
structure Candidate where
  job : JobId
  priority : JobPriority
  /-- How many buckets of the job are in flight. -/
  dequeued : Nat
  /-- How many buckets of the job wait. -/
  enqueued : Nat
  /-- Whether the job prefers the worker that asks. -/
  isPreferred : Bool
  /-- The place of the job in the order in which jobs were created. -/
  sequence : Nat
  deriving DecidableEq, Repr

/-- A rule that ranks candidates; the first is the one that compares less. -/
abbrev Precedence := Candidate → Candidate → Ordering

namespace Precedence

/-- The greater priority first, then jobs that prefer the worker, then the job with the fewest
buckets in flight, then the oldest job. -/
def priorityThenFairness : Precedence := fun a b =>
  (compare b.priority.rank.toNat a.priority.rank.toNat).then <|
    (compare b.isPreferred.toNat a.isPreferred.toNat).then <|
      (compare a.dequeued b.dequeued).then <| compare a.sequence b.sequence

/-- The candidates in their order of rank. -/
def rank (p : Precedence) (cs : List Candidate) : List Candidate :=
  sortBy (fun a b => p a b != .gt) cs

end Precedence

end TestFleet
