import TestFleet.Wire.Report
import TestFleet.Wire.Strategy
import TestFleet.Protocol.Message

/-!
# Requests and replies on the wire

How messages are written as JSON, and read back.
-/

namespace TestFleet

open Json (Reader Fields)

/-! ## Requests -/

namespace JobPriority

def toJson (p : JobPriority) : Json := .natural p.rank.toNat

def reader : Reader JobPriority := Reader.uint32.map JobPriority.mk

end JobPriority

namespace Submission

def toJson (s : Submission) : Json := .object [
  ("job_id", s.job.toJson),
  ("priority", s.priority.toJson),
  ("strategy", s.strategy.toJson),
  ("tests", .ofList ConfiguredTest.toJson s.tests)]

def fields : Fields Submission := Submission.mk
  <$> .required "job_id" JobId.reader
  <*> .required "priority" JobPriority.reader
  <*> .required "strategy" SplitStrategy.reader
  <*> .required "tests" (Reader.list ConfiguredTest.reader)

def reader : Reader Submission := .record fields

end Submission

namespace Message

def toJson : Message → Json
  | healthCheck => .string "HealthCheck"
  | registerWorker w version => .object [("RegisterWorker",
      .object [("worker_id", w.toJson), ("version", .string version)])]
  | dequeueBucket w => .object [("DequeueBucket", .object [("worker_id", w.toJson)])]
  | bucketResult w report => .object [("BucketResult",
      .object [("worker_id", w.toJson), ("testing_result", report.toJson)])]
  | heartbeat w => .object [("Heartbeat", .object [("worker_id", w.toJson)])]
  | scheduleTests s => .object [("ScheduleTests", s.toJson)]
  | jobState j => .object [("JobState", j.toJson)]
  | deleteJob j => .object [("DeleteJob", j.toJson)]
  | cancelJob j => .object [("CancelJob", j.toJson)]
  | workerAliveness => .string "WorkerAliveness"
  | activeJobs => .string "ActiveJobs"

/-- The field that names a worker. -/
def workerField : Fields WorkerId := .required "worker_id" WorkerId.reader

def reader : Reader Message := Reader.oneOf [
  ("HealthCheck", .nothing healthCheck),
  ("RegisterWorker", .record
    (registerWorker <$> workerField <*> .required "version" Reader.text)),
  ("DequeueBucket", .record (dequeueBucket <$> workerField)),
  ("BucketResult", .record
    (bucketResult <$> workerField <*> .required "testing_result" BucketReport.reader)),
  ("Heartbeat", .record (heartbeat <$> workerField)),
  ("ScheduleTests", .one (Submission.reader.map scheduleTests)),
  ("JobState", .one (JobId.reader.map jobState)),
  ("DeleteJob", .one (JobId.reader.map deleteJob)),
  ("CancelJob", .one (JobId.reader.map cancelJob)),
  ("WorkerAliveness", .nothing workerAliveness),
  ("ActiveJobs", .nothing activeJobs)]

end Message

namespace Request

def toJson (r : Request) : Json :=
  .object [("entity", r.sender.toJson), ("message", r.message.toJson)]

def fields : Fields Request := Request.mk
  <$> .required "entity" Party.reader
  <*> .required "message" Message.reader

def reader : Reader Request := .record fields

end Request

/-! ## Replies -/

namespace Liveness

def toJson : Liveness → Json
  | notRegistered => .object [("status", .string "not_registered")]
  | registering => .object [("status", .string "registering")]
  | alive => .object [("status", .string "alive")]
  | silent buckets =>
    .object [("status", .string "silent"), ("bucket_ids", .ofList BucketId.toJson buckets)]
  | blocked => .object [("status", .string "blocked")]

def reader : Reader Liveness := Reader.among [
  ("not_registered", .nothing notRegistered),
  ("registering", .nothing registering),
  ("alive", .nothing alive),
  ("silent", .record (silent <$> .required "bucket_ids" (Reader.list BucketId.reader))),
  ("blocked", .nothing blocked)] "status"

end Liveness

namespace RegisterReply

def toJson : RegisterReply → Json
  | registered => .string "Registered"
  | blocked reason => .object [("Blocked", .object [("reason", .string reason)])]

def reader : Reader RegisterReply := Reader.oneOf [
  ("Registered", .nothing registered),
  ("Blocked", .record (blocked <$> .required "reason" Reader.text))]

end RegisterReply

namespace DequeueReply

def toJson : DequeueReply → Json
  | bucket b => .object [("Bucket", b.toJson)]
  | checkAgainLater after => .object [("CheckAgainLater", .object [("after", after.toJson)])]
  | queueIsEmpty after => .object [("QueueIsEmpty", .object [("after", after.toJson)])]
  | workerBlocked => .string "WorkerBlocked"
  | workerNotRegistered => .string "WorkerNotRegistered"

/-- The field that says when to ask again. -/
def afterField : Fields Duration := .required "after" Duration.reader

def reader : Reader DequeueReply := Reader.oneOf [
  ("Bucket", .one (Bucket.reader.map bucket)),
  ("CheckAgainLater", .record (checkAgainLater <$> afterField)),
  ("QueueIsEmpty", .record (queueIsEmpty <$> afterField)),
  ("WorkerBlocked", .nothing workerBlocked),
  ("WorkerNotRegistered", .nothing workerNotRegistered)]

end DequeueReply

namespace Rejection

def toJson : Rejection → Json
  | bucketNotFound => .string "BucketNotFound"
  | workerDoesNotOwnBucket owner =>
    .object [("WorkerDoesNotOwnBucket", .object [("owner", owner.toJson)])]
  | resultsDoNotMatchRequest unexpected => .object [("ResultsDoNotMatchRequest",
      .object [("unexpected", .ofList TestEntry.toJson unexpected)])]

def reader : Reader Rejection := Reader.oneOf [
  ("BucketNotFound", .nothing bucketNotFound),
  ("WorkerDoesNotOwnBucket", .record
    (workerDoesNotOwnBucket <$> .required "owner" WorkerId.reader)),
  ("ResultsDoNotMatchRequest", .record
    (resultsDoNotMatchRequest <$> .required "unexpected" (Reader.list TestEntry.reader)))]

end Rejection

namespace ReportReply

def toJson : ReportReply → Json
  | accepted => .string "Accepted"
  | rejected reason => .object [("Rejected", reason.toJson)]

def reader : Reader ReportReply := Reader.oneOf [
  ("Accepted", .nothing accepted),
  ("Rejected", .one (Rejection.reader.map rejected))]

end ReportReply

namespace HeartbeatReply

def toJson : HeartbeatReply → Json
  | acknowledged => .string "Acknowledged"
  | workerBlocked => .string "WorkerBlocked"
  | workerNotRegistered => .string "WorkerNotRegistered"

def reader : Reader HeartbeatReply := Reader.named [
  ("Acknowledged", acknowledged),
  ("WorkerBlocked", workerBlocked),
  ("WorkerNotRegistered", workerNotRegistered)]

end HeartbeatReply

namespace ScheduleReply

def toJson : ScheduleReply → Json
  | scheduled n => .object [("Scheduled", .object [("number_of_buckets", .natural n.toNat)])]
  | rejected reason => .object [("Rejected", .object [("reason", .string reason)])]

def reader : Reader ScheduleReply := Reader.oneOf [
  ("Scheduled", .record (scheduled <$> .required "number_of_buckets" Reader.uint64)),
  ("Rejected", .record (rejected <$> .required "reason" Reader.text))]

end ScheduleReply

namespace JobState

def toJson (s : JobState) : Json := .object [
  ("job_id", s.job.toJson),
  ("enqueued_count", .natural s.enqueued.toNat),
  ("dequeued_count", .natural s.dequeued.toNat),
  ("results", .ofList EntryResult.toJson s.results)]

def fields : Fields JobState := JobState.mk
  <$> .required "job_id" JobId.reader
  <*> .required "enqueued_count" Reader.uint64
  <*> .required "dequeued_count" Reader.uint64
  <*> .required "results" (Reader.list EntryResult.reader)

def reader : Reader JobState := .record fields

end JobState

namespace JobStateReply

def toJson : JobStateReply → Json
  | state s => .object [("State", s.toJson)]
  | notFound => .string "NotFound"

def reader : Reader JobStateReply := Reader.oneOf [
  ("State", .one (JobState.reader.map state)),
  ("NotFound", .nothing notFound)]

end JobStateReply

namespace DeleteReply

def toJson : DeleteReply → Json
  | deleted => .string "Deleted"
  | notFound => .string "NotFound"
  | stillInFlight enqueued dequeued => .object [("BucketsStillInFlight", .object [
      ("enqueued_count", .natural enqueued.toNat),
      ("dequeued_count", .natural dequeued.toNat)])]

def reader : Reader DeleteReply := Reader.oneOf [
  ("Deleted", .nothing deleted),
  ("NotFound", .nothing notFound),
  ("BucketsStillInFlight", .record (stillInFlight
    <$> .required "enqueued_count" Reader.uint64
    <*> .required "dequeued_count" Reader.uint64))]

end DeleteReply

namespace CancelReply

def toJson : CancelReply → Json
  | cancelled n => .object [("Cancelled", .object [("cancelled_in_flight", .natural n.toNat)])]
  | notFound => .string "NotFound"

def reader : Reader CancelReply := Reader.oneOf [
  ("Cancelled", .record (cancelled <$> .required "cancelled_in_flight" Reader.uint64)),
  ("NotFound", .nothing notFound)]

end CancelReply

namespace AlivenessReply

def toJson (r : AlivenessReply) : Json := .object [("aliveness",
  .object (r.aliveness.entries.map fun (w, l) => (w.text, l.toJson)))]

def fields : Fields AlivenessReply := .map
  (fun ls => ⟨Directory.ofList (ls.map fun (w, l) => (⟨w⟩, l))⟩)
  (.required "aliveness" (Reader.pairs Liveness.reader))

def reader : Reader AlivenessReply := .record fields

end AlivenessReply

namespace ActiveJobsReply

def toJson (r : ActiveJobsReply) : Json := .object [("job_ids", .ofList JobId.toJson r.jobs)]

def fields : Fields ActiveJobsReply :=
  ActiveJobsReply.mk <$> .required "job_ids" (Reader.list JobId.reader)

def reader : Reader ActiveJobsReply := .record fields

end ActiveJobsReply

namespace Health

def toJson (h : Health) : Json :=
  .object [("healthy", .bool h.isHealthy), ("version", .string h.version)]

def fields : Fields Health := Health.mk
  <$> .required "healthy" Reader.bool
  <*> .required "version" Reader.text

def reader : Reader Health := .record fields

end Health

/-- A reply is written as the reply to its message, without a mark of which message that was. -/
def Reply.toJson : Reply → Json
  | health h => h.toJson
  | register r => r.toJson
  | dequeue r => r.toJson
  | report r => r.toJson
  | heartbeat r => r.toJson
  | schedule r => r.toJson
  | jobState r => r.toJson
  | delete r => r.toJson
  | cancel r => r.toJson
  | aliveness r => r.toJson
  | activeJobs r => r.toJson

/-- Reads the reply that belongs to a message. -/
def Reply.reader : Message → Reader Reply
  | .healthCheck => Health.reader.map health
  | .registerWorker _ _ => RegisterReply.reader.map register
  | .dequeueBucket _ => DequeueReply.reader.map dequeue
  | .bucketResult _ _ => ReportReply.reader.map report
  | .heartbeat _ => HeartbeatReply.reader.map heartbeat
  | .scheduleTests _ => ScheduleReply.reader.map schedule
  | .jobState _ => JobStateReply.reader.map jobState
  | .deleteJob _ => DeleteReply.reader.map delete
  | .cancelJob _ => CancelReply.reader.map cancel
  | .workerAliveness => AlivenessReply.reader.map aliveness
  | .activeJobs => ActiveJobsReply.reader.map activeJobs

end TestFleet
