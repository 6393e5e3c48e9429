import TestFleet.Test

/-!
# Rejected reports

Why the queue does not take in a worker's report on a bucket.
-/

namespace TestFleet

/-- Why a report is rejected. -/
inductive Rejection where
  /-- The bucket is not in flight: it was never handed out, was taken back, or its report was
  accepted already. -/
  | bucketNotFound
  /-- The bucket is in flight with another worker. -/
  | workerDoesNotOwnBucket (owner : WorkerId)
  /-- The report names tests that the bucket does not hold. -/
  | resultsDoNotMatchRequest (unexpected : List TestEntry)
  deriving DecidableEq, Repr

/-- The explanation shown to a user. -/
def Rejection.message : Rejection → String
  | bucketNotFound => "bucket not found"
  | workerDoesNotOwnBucket owner => "bucket is owned by worker " ++ owner.text
  | resultsDoNotMatchRequest unexpected =>
    "results contain " ++ Text.decimal unexpected.length ++ " unrequested tests"

end TestFleet
