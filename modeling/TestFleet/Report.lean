import TestFleet.Test
import TestFleet.Time.Duration

/-!
# Reports on tests

A worker reports, for each entry of a bucket, the runs of its test. An entry without a run is lost:
nothing was ever heard of it. A run that stands in for a lost one is a failure without duration.
-/

namespace TestFleet

/-- Something that went wrong in a run. -/
structure TestException where
  reason : String
  file : String
  line : UInt32
  deriving DecidableEq, Repr

/-- One execution of one test. -/
structure TestRun where
  succeeded : Bool
  exceptions : List TestException
  duration : Duration
  start : Timestamp
  host : String
  simulator : String
  deriving DecidableEq, Repr

/-- A failed run of no duration that stands for one that never was. -/
def TestRun.failed (start : Timestamp) (host simulator : String) (e : TestException) : TestRun :=
  ⟨false, [e], .zero, start, host, simulator⟩

/-- The runs of the test of one entry. -/
structure EntryResult where
  entry : TestEntry
  runs : List TestRun
  deriving DecidableEq, Repr

namespace EntryResult

/-- The reason given for a test that nothing was heard of. -/
def didNotRunReason : String := "test did not run"

/-- A single failed run that stands for an entry nothing was heard of. -/
def didNotRun (start : Timestamp) (host simulator : String) (e : TestEntry) : EntryResult :=
  ⟨e, [.failed start host simulator ⟨didNotRunReason, "", 0⟩]⟩

/-- Whether nothing was heard of an entry. -/
def isLost (r : EntryResult) : Bool := r.runs.isEmpty

/-- Whether some run of the entry's test succeeded. -/
def succeeded (r : EntryResult) : Bool := r.runs.any TestRun.succeeded

end EntryResult

/-- What a worker reports for a bucket that it ran. -/
structure BucketReport where
  bucket : BucketId
  destination : TestDestination
  results : List EntryResult
  deriving DecidableEq, Repr

end TestFleet
