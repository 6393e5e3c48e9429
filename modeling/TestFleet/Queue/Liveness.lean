import TestFleet.Identity

/-!
# How alive a worker is

What the queue thinks of a worker, as it tells others.
-/

namespace TestFleet

/-- The standing of a worker with the queue. -/
inductive Liveness where
  | notRegistered
  /-- The worker has announced itself and is not yet cleared for work. -/
  | registering
  | alive
  /-- The worker holds buckets and was not heard from for too long. -/
  | silent (buckets : List BucketId)
  /-- The worker gets no work until it is unblocked. -/
  | blocked
  deriving DecidableEq, Repr

namespace Liveness

def isBlocked : Liveness → Bool
  | blocked => true
  | _ => false

def isSilent : Liveness → Bool
  | silent _ => true
  | _ => false

end Liveness

end TestFleet
