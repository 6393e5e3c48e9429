import TestFleet.Sorting
import TestFleet.Report
import TestFleet.Queue.Event
import TestFleet.Queue.Roster

/-!
# The queue of one job

The buckets of a job wait in a line, are in flight with a worker, or are done. A report on a bucket
in flight is accepted from the worker that holds it; tests that failed while attempts are left go
back to the front of the line as a bucket of their own, and all other results are final. Buckets of
workers that are gone, and buckets in flight for too long, are taken back to the front of the line
in the order in which they were handed out.
-/

namespace TestFleet

/-- A bucket that waits for a worker. -/
structure WaitingBucket where
  bucket : Bucket
  enqueuedAt : Instant

/-- A bucket in flight with a worker. -/
structure InFlightBucket where
  waiting : WaitingBucket
  worker : WorkerId
  dequeuedAt : Instant

namespace InFlightBucket

/-- The bucket that is in flight. -/
def bucket (d : InFlightBucket) : Bucket := d.waiting.bucket

/-- The id of the bucket that is in flight. -/
def id (d : InFlightBucket) : BucketId := d.waiting.bucket.id

end InFlightBucket

/-- Which bucket's tests a bucket runs again, and for the how-manieth time. -/
structure Lineage where
  root : BucketId
  attempt : Nat
  deriving DecidableEq, Repr

namespace Lineage

/-- The lineage of the bucket that runs the failed tests again. -/
def next (l : Lineage) : Lineage := { l with attempt := l.attempt + 1 }

/-- The id of a bucket that runs tests again. -/
def bucketId (l : Lineage) : BucketId :=
  ⟨l.root.text ++ "-retry-" ++ Text.decimal l.attempt⟩

end Lineage

/-- The buckets of a job. -/
structure JobQueue where
  /-- The buckets that wait, the next one to be handed out first. -/
  waiting : List WaitingBucket
  inFlight : Directory BucketId InFlightBucket
  /-- The id of every bucket that was ever waiting. -/
  known : Directory BucketId Unit
  /-- Where the buckets that run failed tests again come from. -/
  lineages : Directory BucketId Lineage

/-- A bucket whose id the queue knows already, or that is given twice. -/
structure DuplicateBucket where
  bucket : BucketId
  deriving DecidableEq, Repr

/-- The explanation shown to a user. -/
def DuplicateBucket.message (e : DuplicateBucket) : String :=
  "bucket " ++ e.bucket.text ++ " is already known to the queue"

/-- What the acceptance of a report yields. -/
structure Acceptance where
  /-- The bucket that was in flight. -/
  taken : InFlightBucket
  /-- The results that are final: all but those of failed tests that are run again. -/
  results : List EntryResult
  /-- The bucket that runs failed tests again. -/
  retry : Option BucketId

namespace JobQueue

/-- A queue that never held a bucket. -/
def empty : JobQueue := ⟨[], ∅, ∅, ∅⟩

/-- How many buckets wait. -/
def enqueuedCount (q : JobQueue) : Nat := q.waiting.length

/-- How many buckets are in flight. -/
def dequeuedCount (q : JobQueue) : Nat := q.inFlight.size

/-- Whether no bucket waits or is in flight. -/
def isDepleted (q : JobQueue) : Bool := q.waiting.isEmpty && q.inFlight.isEmpty

/-- The ids of the buckets that wait, in their order. -/
def waitingIds (q : JobQueue) : List BucketId := q.waiting.map (·.bucket.id)

/-- The first of a list of ids that `taken` holds or that the list gave before. -/
def firstDuplicate? (taken : BucketId → Bool) : List BucketId → List BucketId → Option BucketId
  | _, [] => none
  | before, b :: bs =>
    if taken b || before.contains b then some b else firstDuplicate? taken (b :: before) bs

/-! ## Handing out -/

/-- Puts buckets at the end of the line, all of them or none. -/
def enqueue (q : JobQueue) (buckets : List Bucket) (now : Instant) :
    Except DuplicateBucket JobQueue :=
  let ids := buckets.map (·.id)
  match firstDuplicate? q.known.contains [] ids with
  | some b => .error ⟨b⟩
  | none => .ok { q with
      waiting := q.waiting ++ buckets.map fun b => ⟨b, now⟩
      known := ids.foldl (fun known b => known.insert b ()) q.known }

/-- The next bucket of a line that is not in flight already, and the line behind it. -/
def nextWaiting? (inFlight : Directory BucketId InFlightBucket) :
    List WaitingBucket → Option WaitingBucket × List WaitingBucket
  | [] => (none, [])
  | b :: bs =>
    if inFlight.contains b.bucket.id then nextWaiting? inFlight bs else (some b, bs)

/-- Hands the bucket at the front of the line to a worker. -/
def dequeue (q : JobQueue) (w : WorkerId) (now : Instant) : Option InFlightBucket × JobQueue :=
  match nextWaiting? q.inFlight q.waiting with
  | (none, rest) => (none, { q with waiting := rest })
  | (some b, rest) =>
    let taken : InFlightBucket := ⟨b, w, now⟩
    (some taken, { q with waiting := rest, inFlight := q.inFlight.insert b.bucket.id taken })

/-! ## Reports -/

/-- The runs that a report holds for an entry, in the order of the report. -/
def reportedRuns (results : List EntryResult) (e : TestEntry) : List TestRun :=
  (results.filter fun r => r.entry = e).flatMap EntryResult.runs

/-- One result for each entry of a bucket. An entry that is listed again takes part in the runs no
more, and an entry without runs did not run. -/
def mergeResults (wall : Timestamp) (results : List EntryResult) :
    List TestEntry → List TestEntry → List EntryResult
  | _, [] => []
  | before, e :: es =>
    let runs := if before.contains e then [] else reportedRuns results e
    (if runs.isEmpty then EntryResult.didNotRun wall "" "" e else ⟨e, runs⟩) ::
      mergeResults wall results (e :: before) es

/-- The entries of a report that a bucket does not hold, each once, in the order of the report. -/
def unexpectedEntries (b : Bucket) (results : List EntryResult) : List TestEntry :=
  results.foldl (fun found r =>
    if b.entries.contains r.entry || found.contains r.entry then found else found ++ [r.entry]) []

/-- Where a bucket comes from; one that runs no failed tests again is a root. -/
def lineageOf (q : JobQueue) (b : BucketId) : Lineage := (q.lineages.get? b).getD ⟨b, 0⟩

/-- Puts the failed tests of a bucket back to the front of the line if attempts are left, and
yields the results that are final. If the id of the bucket that would run them is known already,
the failures are final too. -/
def splitOffRetries (q : JobQueue) (b : Bucket) (merged : List EntryResult) (now : Instant) :
    List EntryResult × Option BucketId × JobQueue :=
  let lineage := q.lineageOf b.id
  if b.retries.toNat ≤ lineage.attempt then (merged, none, q)
  else
    let passed := merged.filter EntryResult.succeeded
    let failed := merged.filter fun r => !r.succeeded
    let next := lineage.next
    if failed.isEmpty then (passed, none, q)
    else if q.known.contains next.bucketId then (passed ++ failed, none, q)
    else (passed, some next.bucketId, { q with
      waiting := ⟨⟨next.bucketId, failed.map (·.entry), b.configuration⟩, now⟩ :: q.waiting
      known := q.known.insert next.bucketId ()
      lineages := q.lineages.insert next.bucketId next })

/-- Takes in a worker's report on a bucket, or says why it is rejected. -/
def accept (q : JobQueue) (b : BucketId) (w : WorkerId) (report : BucketReport) (now : Instant)
    (wall : Timestamp) : Except Rejection (Acceptance × JobQueue) :=
  match q.inFlight.get? b with
  | none => .error .bucketNotFound
  | some taken =>
    if taken.worker ≠ w then .error (.workerDoesNotOwnBucket taken.worker)
    else
      let unexpected := unexpectedEntries taken.bucket report.results
      if !unexpected.isEmpty then .error (.resultsDoNotMatchRequest unexpected)
      else
        let merged := mergeResults wall report.results [] taken.bucket.entries
        let (results, retry, q) :=
          { q with inFlight := q.inFlight.erase b }.splitOffRetries taken.bucket merged now
        .ok (⟨taken, results, retry⟩, q)

/-! ## Taking back -/

/-- Whether a bucket in flight is stuck: its worker is gone, or it is in flight for longer than
`maximum`. -/
def isStuck (roster : Roster) (maximum : Duration) (now : Instant) (d : InFlightBucket) : Bool :=
  (match roster.liveness d.worker with
    | .silent _ | .blocked | .notRegistered => true
    | .registering | .alive => false) ||
    now.isBeyond d.dequeuedAt maximum

/-- The buckets that are stuck, by the time they were handed out, and of one time by their id. -/
def stuck (q : JobQueue) (roster : Roster) (maximum : Duration) (now : Instant) :
    List InFlightBucket :=
  sortBy (fun a b => a.dequeuedAt.nanoseconds ≤ b.dequeuedAt.nanoseconds)
    (q.inFlight.filter fun _ d => isStuck roster maximum now d).values

/-- Takes the stuck buckets back to the front of the line. -/
def reclaim (q : JobQueue) (roster : Roster) (maximum : Duration) (now : Instant) :
    List InFlightBucket × JobQueue × Roster :=
  let taken := q.stuck roster maximum now
  (taken,
    { q with
      waiting := taken.map (·.waiting) ++ q.waiting
      inFlight := q.inFlight.filter fun _ d => !isStuck roster maximum now d },
    taken.foldl (fun r d => r.release d.worker d.id) roster)

/-- Drops the buckets that wait, and gives up those in flight, in the order of their ids. -/
def cancel (q : JobQueue) : List InFlightBucket × JobQueue :=
  (q.inFlight.values, { q with waiting := [], inFlight := ∅ })

/-- What happens when a job's buckets are taken back. -/
def reclaimEvents (job : JobId) (taken : List InFlightBucket) : List Event :=
  taken.map fun d => .bucketReclaimed job d.id d.worker

end JobQueue

end TestFleet
