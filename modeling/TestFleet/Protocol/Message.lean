import TestFleet.Report
import TestFleet.Queue.Strategy
import TestFleet.Queue.Liveness
import TestFleet.Queue.Rejection

/-!
# Messages between the queue and its parties

A party sends a request, and the queue answers it with the reply that belongs to the request's
message. Workers announce themselves, ask for buckets, report on them and send heartbeats; clients
submit jobs, ask about them and remove them.
-/

namespace TestFleet

/-- The version of the protocol that this library speaks. -/
def protocolVersion : String := "0.1.0"

/-- How urgent a job is; the greater runs first. -/
structure JobPriority where
  rank : UInt32
  deriving DecidableEq, Repr, Inhabited

/-- A job as a client submits it. -/
structure Submission where
  job : JobId
  priority : JobPriority
  strategy : SplitStrategy
  tests : List ConfiguredTest

/-- What a party asks of the queue. -/
inductive Message where
  | healthCheck
  /-- A worker announces itself and the version it speaks. -/
  | registerWorker (worker : WorkerId) (version : String)
  | dequeueBucket (worker : WorkerId)
  | bucketResult (worker : WorkerId) (report : BucketReport)
  /-- A worker is alive and still runs the buckets it holds. -/
  | heartbeat (worker : WorkerId)
  | scheduleTests (submission : Submission)
  | jobState (job : JobId)
  /-- Removes a job whose work is done. -/
  | deleteJob (job : JobId)
  /-- Removes a job whatever work is left. -/
  | cancelJob (job : JobId)
  | workerAliveness
  | activeJobs

/-- A message and who sends it. -/
structure Request where
  sender : Party
  message : Message

/-! ## Replies -/

inductive RegisterReply where
  | registered
  | blocked (reason : String)
  deriving DecidableEq, Repr

inductive DequeueReply where
  | bucket (bucket : Bucket)
  /-- There is nothing for this worker now, but there may be later. -/
  | checkAgainLater (after : Duration)
  /-- No job has work to hand out. -/
  | queueIsEmpty (after : Duration)
  | workerBlocked
  | workerNotRegistered

inductive ReportReply where
  | accepted
  | rejected (reason : Rejection)
  deriving DecidableEq, Repr

inductive HeartbeatReply where
  | acknowledged
  | workerBlocked
  | workerNotRegistered
  deriving DecidableEq, Repr

inductive ScheduleReply where
  | scheduled (buckets : UInt64)
  | rejected (reason : String)
  deriving DecidableEq, Repr

/-- A job at one moment: what waits, what is in flight, and the results so far. -/
structure JobState where
  job : JobId
  enqueued : UInt64
  dequeued : UInt64
  results : List EntryResult
  deriving DecidableEq, Repr

/-- Whether every bucket of the job has been reported on. -/
def JobState.isDepleted (s : JobState) : Bool := s.enqueued == 0 && s.dequeued == 0

inductive JobStateReply where
  | state (state : JobState)
  | notFound
  deriving DecidableEq, Repr

inductive DeleteReply where
  | deleted
  | notFound
  | stillInFlight (enqueued dequeued : UInt64)
  deriving DecidableEq, Repr

inductive CancelReply where
  | cancelled (inFlight : UInt64)
  | notFound
  deriving DecidableEq, Repr

structure AlivenessReply where
  aliveness : Directory WorkerId Liveness
  deriving DecidableEq

structure ActiveJobsReply where
  jobs : List JobId
  deriving DecidableEq, Repr

structure Health where
  isHealthy : Bool
  version : String
  deriving DecidableEq, Repr

/-- The health of a queue that answers. -/
def Health.good : Health := ⟨true, protocolVersion⟩

/-- The answer to a request. -/
inductive Reply where
  | health (h : Health)
  | register (r : RegisterReply)
  | dequeue (r : DequeueReply)
  | report (r : ReportReply)
  | heartbeat (r : HeartbeatReply)
  | schedule (r : ScheduleReply)
  | jobState (r : JobStateReply)
  | delete (r : DeleteReply)
  | cancel (r : CancelReply)
  | aliveness (r : AlivenessReply)
  | activeJobs (r : ActiveJobsReply)

end TestFleet
