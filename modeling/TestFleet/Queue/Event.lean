import TestFleet.Queue.Rejection

/-!
# Events of the queue

What happens on the queue, in the order in which it happens.
-/

namespace TestFleet

/-- Something that happened on the queue. -/
inductive Event where
  | jobEnqueued (job : JobId) (buckets : Nat)
  | bucketDequeued (job : JobId) (bucket : BucketId) (worker : WorkerId)
  | resultAccepted (job : JobId) (bucket : BucketId) (worker : WorkerId) (retry : Option BucketId)
  | resultRejected (bucket : BucketId) (worker : WorkerId) (reason : Rejection)
  | bucketReclaimed (job : JobId) (bucket : BucketId) (worker : WorkerId)
  /-- A job was cancelled while the bucket was in flight. -/
  | bucketCancelled (job : JobId) (bucket : BucketId) (worker : WorkerId)
  | workerSilent (worker : WorkerId)
  | workerBlocked (worker : WorkerId) (reason : String)
  | jobDeleted (job : JobId)
  | jobCancelled (job : JobId)
  deriving DecidableEq, Repr

end TestFleet
