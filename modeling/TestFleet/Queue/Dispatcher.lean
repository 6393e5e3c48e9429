import TestFleet.Queue.JobQueue
import TestFleet.Queue.Ledger
import TestFleet.Queue.Precedence
import TestFleet.Queue.Assignment

/-!
# The dispatcher

The dispatcher holds the queues of all live jobs, the roster of workers, the results, and an index
that says which job a bucket belongs to. It decides which job a worker's next bucket comes from,
routes reports to the job they belong to, and takes stuck buckets back. Every operation yields the
events that it causes, in order.
-/

namespace TestFleet

/-- What a dispatcher is set up with. -/
structure DispatcherConfig where
  /-- How long a bucket may be in flight. -/
  maximumInFlight : Duration := .ofSeconds 900
  /-- How many buckets a worker may hold at once. -/
  bucketsPerWorker : Nat := 1
  /-- When a worker that gets nothing is to ask again. -/
  checkAgainAfter : Duration := .ofSeconds 2
  precedence : Precedence := .priorityThenFairness

/-- A live job. -/
structure Job where
  priority : JobPriority
  /-- The place of the job in the order in which jobs were created. -/
  sequence : Nat
  queue : JobQueue

/-- Everything that the queue keeps. -/
structure Dispatcher where
  config : DispatcherConfig
  roster : Roster
  jobs : Directory JobId Job
  /-- The job that a bucket of a live job belongs to. -/
  owners : Directory BucketId JobId
  ledger : Ledger
  preferences : Preferences
  nextSequence : Nat

/-- What a worker that asks for work gets. -/
inductive Handout where
  | bucket (taken : InFlightBucket)
  /-- Nothing for this worker now, but there may be something later. -/
  | checkAgainLater (after : Duration)
  /-- No job has any work left. -/
  | queueIsEmpty (after : Duration)

/-- Why a worker gets no work. -/
inductive DequeueError where
  | workerBlocked (worker : WorkerId)
  | workerNotRegistered (worker : WorkerId)
  deriving DecidableEq, Repr

/-- The explanation shown to a user. -/
def DequeueError.message : DequeueError → String
  | workerBlocked w => "worker " ++ w.text ++ " is blocked"
  | workerNotRegistered w => "worker " ++ w.text ++ " is not registered"

/-- Why a job is not removed. -/
inductive RemovalError where
  | notFound (job : JobId)
  | bucketsStillInFlight (job : JobId) (enqueued dequeued : Nat)
  deriving DecidableEq, Repr

/-- The explanation shown to a user. -/
def RemovalError.message : RemovalError → String
  | notFound j => "job " ++ j.text ++ " not found"
  | bucketsStillInFlight j enqueued dequeued =>
    "job " ++ j.text ++ " still has " ++ Text.decimal enqueued ++ " enqueued and " ++
      Text.decimal dequeued ++ " dequeued buckets"

/-- A job whose report was accepted, and the bucket that runs failed tests again. -/
structure Routed where
  job : JobId
  retry : Option BucketId
  deriving DecidableEq, Repr

/-- What a job has left to do, and the results so far. -/
structure JobSnapshot where
  enqueued : Nat
  dequeued : Nat
  results : List EntryResult

namespace Dispatcher

/-- A dispatcher without jobs and workers. -/
def new (config : DispatcherConfig) (silence : Duration) : Dispatcher where
  config := config
  roster := .new silence
  jobs := ∅
  owners := ∅
  ledger := .empty
  preferences := ∅
  nextSequence := 0

/-- Changes the roster. -/
def withRoster (d : Dispatcher) (f : Roster → Roster) : Dispatcher :=
  { d with roster := f d.roster }

/-- Changes the queue of a job. -/
def withQueue (d : Dispatcher) (j : JobId) (q : JobQueue) : Dispatcher :=
  { d with jobs := d.jobs.modify j fun job => { job with queue := q } }

/-- Blocks a worker. -/
def blockWorker (d : Dispatcher) (w : WorkerId) (reason : String) (now : Instant) :
    List Event × Dispatcher :=
  ([.workerBlocked w reason], d.withRoster (·.block w now))

/-! ## Work comes in -/

/-- The job that buckets are added to; a new one is created with the given priority. -/
def jobFor (d : Dispatcher) (j : JobId) (priority : JobPriority) : Job × Dispatcher :=
  match d.jobs.get? j with
  | some job => (job, d)
  | none =>
    let job : Job := ⟨priority, d.nextSequence, .empty⟩
    (job, { d with jobs := d.jobs.insert j job, nextSequence := d.nextSequence + 1 })

/-- Adds buckets to a job, all of them or none. A live job keeps its priority. -/
def enqueue (d : Dispatcher) (j : JobId) (buckets : List Bucket) (priority : JobPriority)
    (now : Instant) : Except DuplicateBucket Unit × List Event × Dispatcher :=
  let ids := buckets.map (·.id)
  match JobQueue.firstDuplicate? d.owners.contains [] ids with
  | some b => (.error ⟨b⟩, [], d)
  | none =>
    let owned := ids.foldl (fun owners b => owners.insert b j) d.owners
    let (job, d) := { d with owners := owned }.jobFor j priority
    match job.queue.enqueue buckets now with
    | .error e =>
      (.error e, [], { d with owners := ids.foldl (fun owners b => owners.erase b) d.owners })
    | .ok q => (.ok (), [.jobEnqueued j buckets.length], d.withQueue j q)

/-! ## Work goes out -/

/-- A job as a candidate for a worker. -/
def candidate (d : Dispatcher) (w : WorkerId) (j : JobId) (job : Job) : Candidate where
  job := j
  priority := job.priority
  dequeued := job.queue.dequeuedCount
  enqueued := job.queue.enqueuedCount
  isPreferred := ((d.preferences.get? j).getD []).contains w
  sequence := job.sequence

/-- The jobs that have work to hand out. -/
def candidates (d : Dispatcher) (w : WorkerId) : List Candidate :=
  (d.jobs.entries.map fun (j, job) => d.candidate w j job).filter fun c => 0 < c.enqueued

/-- Whether some job has a bucket in flight. -/
def anyInFlight (d : Dispatcher) : Bool := d.jobs.values.any fun job => 0 < job.queue.dequeuedCount

/-- Hands out a bucket of the first candidate that has one. -/
def handOut (d : Dispatcher) (w : WorkerId) (now clock : Instant) :
    List Candidate → Handout × List Event × Dispatcher
  | [] => (.checkAgainLater d.config.checkAgainAfter, [], d)
  | c :: cs =>
    match d.jobs.get? c.job with
    | none => d.handOut w now clock cs
    | some job =>
      match job.queue.dequeue w now with
      | (none, q) => (d.withQueue c.job q).handOut w now clock cs
      | (some taken, q) => (.bucket taken, [.bucketDequeued c.job taken.id w],
          (d.withQueue c.job q).withRoster (·.didDequeue w taken.id clock))

/-- Hands out work to a worker that may have it. -/
def handOutWork (d : Dispatcher) (w : WorkerId) (now clock : Instant) :
    Handout × List Event × Dispatcher :=
  let later := d.config.checkAgainAfter
  if d.config.bucketsPerWorker ≤ (d.roster.held w).length then (.checkAgainLater later, [], d)
  else
    let cs := d.candidates w
    if cs.isEmpty then
      (if d.anyInFlight then .checkAgainLater later else .queueIsEmpty later, [], d)
    else d.handOut w now clock (d.config.precedence.rank cs)

/-- Answers a worker that asks for work. The bucket counts as handed out at `now`, while `clock`
tells when the worker showed a sign of life. -/
def dequeue (d : Dispatcher) (w : WorkerId) (now clock : Instant) :
    Except DequeueError Handout × List Event × Dispatcher :=
  match d.roster.liveness w with
  | .blocked => (.error (.workerBlocked w), [], d)
  | .notRegistered | .registering => (.error (.workerNotRegistered w), [], d)
  | .silent _ =>
    let (h, events, d) := (d.withRoster (·.setAlive w clock)).handOutWork w now clock
    (.ok h, events, d)
  | .alive =>
    let (h, events, d) := d.handOutWork w now clock
    (.ok h, events, d)

/-! ## Reports -/

/-- Rejects a report, which still is a sign of life. -/
def reject (d : Dispatcher) (b : BucketId) (w : WorkerId) (reason : Rejection) (now : Instant) :
    Except Rejection Routed × List Event × Dispatcher :=
  (.error reason, [.resultRejected b w reason], d.withRoster (·.setAlive w now))

/-- Notes that a bucket belongs to a job. -/
def own (d : Dispatcher) (j : JobId) : Option BucketId → Dispatcher
  | none => d
  | some b => { d with owners := d.owners.insert b j }

/-- Takes in a worker's report for the job that the bucket belongs to. -/
def accept (d : Dispatcher) (b : BucketId) (w : WorkerId) (report : BucketReport) (now : Instant)
    (wall : Timestamp) : Except Rejection Routed × List Event × Dispatcher :=
  match d.owners.get? b with
  | none => d.reject b w .bucketNotFound now
  | some j =>
    match d.jobs.get? j with
    | none => d.reject b w .bucketNotFound now
    | some job =>
      match job.queue.accept b w report now wall with
      | .error reason => d.reject b w reason now
      | .ok (accepted, q) =>
        let d := { d with ledger := d.ledger.add j b accepted.results }
        let d := (d.withQueue j q).withRoster (·.didReceive w b now)
        (.ok ⟨j, accepted.retry⟩, [.resultAccepted j b w accepted.retry], d.own j accepted.retry)

/-- A job's counts and results at this moment. -/
def snapshot? (d : Dispatcher) (j : JobId) : Option JobSnapshot :=
  (d.jobs.get? j).map fun job =>
    ⟨job.queue.enqueuedCount, job.queue.dequeuedCount, d.ledger.results j⟩

/-! ## Removing jobs -/

/-- Removes all that is kept about a job, whose queue is given. -/
def forget (d : Dispatcher) (j : JobId) (q : JobQueue) : Dispatcher :=
  { d with
    jobs := d.jobs.erase j
    owners := q.known.keys.foldl (fun owners b => owners.erase b) d.owners
    ledger := d.ledger.remove j
    preferences := d.preferences.erase j }

/-- Removes a job that is done. -/
def delete (d : Dispatcher) (j : JobId) : Except RemovalError Unit × List Event × Dispatcher :=
  match d.jobs.get? j with
  | none => (.error (.notFound j), [], d)
  | some job =>
    let q := job.queue
    if !q.isDepleted then
      (.error (.bucketsStillInFlight j q.enqueuedCount q.dequeuedCount), [], d)
    else (.ok (), [.jobDeleted j], d.forget j q)

/-- Removes a job whatever is left of it, and yields the buckets that were in flight. -/
def cancel (d : Dispatcher) (j : JobId) :
    Except RemovalError (List InFlightBucket) × List Event × Dispatcher :=
  match d.jobs.get? j with
  | none => (.error (.notFound j), [], d)
  | some job =>
    let (taken, q) := job.queue.cancel
    let d := d.withRoster fun r => taken.foldl (fun r f => r.release f.worker f.id) r
    (.ok taken, taken.map (fun f => .bucketCancelled j f.id f.worker) ++ [.jobCancelled j],
      d.forget j q)

/-! ## Sweeps and preferences -/

/-- Takes the stuck buckets of the listed jobs back, job by job. -/
def reclaimJobs (d : Dispatcher) (now : Instant) :
    List JobId → List (JobId × InFlightBucket) × Dispatcher
  | [] => ([], d)
  | j :: js =>
    match d.jobs.get? j with
    | none => d.reclaimJobs now js
    | some job =>
      let (taken, q, roster) := job.queue.reclaim d.roster d.config.maximumInFlight now
      let (more, d) := { d.withQueue j q with roster := roster }.reclaimJobs now js
      (taken.map (fun f => (j, f)) ++ more, d)

/-- Marks quiet workers silent, then takes the stuck buckets of all jobs back. -/
def reclaim (d : Dispatcher) (now : Instant) :
    List (JobId × InFlightBucket) × List Event × Dispatcher :=
  let quiet := d.roster.quietWorkers now
  let d := d.withRoster (·.markQuietSilent now)
  let (taken, d) := d.reclaimJobs now d.jobs.keys
  (taken, quiet.map .workerSilent ++
    taken.map (fun (j, f) => .bucketReclaimed j f.id f.worker), d)

/-- The live jobs, the oldest first. -/
def activeJobs (d : Dispatcher) : List JobId :=
  (sortBy (fun a b => a.2.sequence ≤ b.2.sequence) d.jobs.entries).map (·.1)

/-- Finds out anew which workers each job prefers. -/
def rebalance (d : Dispatcher) (a : Assignment) : Dispatcher :=
  { d with preferences := a.preferences d.roster.usable d.activeJobs }

end Dispatcher

end TestFleet
