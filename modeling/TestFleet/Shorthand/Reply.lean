import TestFleet.Protocol.Message
import TestFleet.Shorthand.Report

/-!
# A shorthand for replies

The replies of a queue in as few words as they can be told in.
-/

namespace TestFleet.Shorthand

def registerReply : RegisterReply → Json
  | .registered => .string "Registered"
  | .blocked reason => .object [("blocked", .string reason)]

def dequeueReply : DequeueReply → Json
  | .bucket b => bucket b
  | .checkAgainLater after => .object [("check_again_later", duration after)]
  | .queueIsEmpty after => .object [("queue_is_empty", duration after)]
  | .workerBlocked => .string "WorkerBlocked"
  | .workerNotRegistered => .string "WorkerNotRegistered"

def reportReply : ReportReply → Json
  | .accepted => .string "Accepted"
  | .rejected reason => rejection reason

def heartbeatReply : HeartbeatReply → Json
  | .acknowledged => .string "Acknowledged"
  | .workerBlocked => .string "WorkerBlocked"
  | .workerNotRegistered => .string "WorkerNotRegistered"

def scheduleReply : ScheduleReply → Json
  | .scheduled n => .object [("scheduled", .natural n.toNat)]
  | .rejected reason => .object [("rejected", .string reason)]

def jobState (now : Timestamp) (s : JobState) : Json :=
  .array [.string s.job.text, .natural s.enqueued.toNat, .natural s.dequeued.toNat,
    results now s.results]

def jobStateReply (now : Timestamp) : JobStateReply → Json
  | .state s => jobState now s
  | .notFound => .string "NotFound"

def deleteReply : DeleteReply → Json
  | .deleted => .string "Deleted"
  | .notFound => .string "NotFound"
  | .stillInFlight enqueued dequeued =>
    .object [("still_in_flight", .array [.natural enqueued.toNat, .natural dequeued.toNat])]

def cancelReply : CancelReply → Json
  | .cancelled n => .object [("cancelled", .natural n.toNat)]
  | .notFound => .string "NotFound"

/-- A reply; `now` is the time that stands for every one read off a clock. -/
def reply (now : Timestamp) : Reply → Json
  | .health h => .array [.bool h.isHealthy, .string h.version]
  | .register r => registerReply r
  | .dequeue r => dequeueReply r
  | .report r => reportReply r
  | .heartbeat r => heartbeatReply r
  | .schedule r => scheduleReply r
  | .jobState r => jobStateReply now r
  | .delete r => deleteReply r
  | .cancel r => cancelReply r
  | .aliveness r => .object (r.aliveness.entries.map fun (w, l) => (w.text, liveness l))
  | .activeJobs r => texts (r.jobs.map (·.text))

end TestFleet.Shorthand
