import TestFleet.Protocol.Message
import TestFleet.Queue.Dispatcher
import TestFleet.Queue.Split

/-!
# Handling requests

The server answers requests one at a time. Workers that speak another version than the server's are
blocked when they announce themselves, and a server that is retired takes no new jobs.

Every operation is given the time, and yields the events that it causes.
-/

namespace TestFleet

/-- The queue as it is offered to workers and clients. -/
structure Server where
  /-- The version that workers have to speak. -/
  version : String := protocolVersion
  /-- How many workers jobs are split for. Without a number it is that of the usable workers. -/
  workersHint : Option Nat := none
  /-- A retired server serves the jobs it has and takes no new ones. -/
  isRetired : Bool := false
  dispatcher : Dispatcher

namespace Server

/-- Changes the dispatcher. -/
def withDispatcher (s : Server) (d : Dispatcher) : Server := { s with dispatcher := d }

/-- Changes the roster. -/
def withRoster (s : Server) (f : Roster → Roster) : Server :=
  s.withDispatcher (s.dispatcher.withRoster f)

/-- Takes no new jobs from now on. -/
def retire (s : Server) : Server := { s with isRetired := true }

/-- Why a worker of another version is blocked. -/
def versionMismatch (theirs ours : String) : String :=
  "worker version " ++ theirs ++ " does not match queue version " ++ ours

/-- Lets a worker join, unless it speaks another version or is blocked. -/
def register (s : Server) (w : WorkerId) (version : String) (now : Instant) :
    RegisterReply × List Event × Server :=
  let s := s.withRoster (·.beginRegistration w now)
  if version = s.version then
    let s := s.withRoster (·.register w now)
    if (s.dispatcher.roster.liveness w).isBlocked then (.blocked "worker is blocked", [], s)
    else (.registered, [], s)
  else
    let reason := versionMismatch version s.version
    let (events, d) := s.dispatcher.blockWorker w reason now
    (.blocked reason, events, s.withDispatcher d)

/-- Answers a worker that asks for work. -/
def dequeue (s : Server) (w : WorkerId) (now : Instant) : DequeueReply × List Event × Server :=
  let (handout, events, d) := s.dispatcher.dequeue w now now
  let reply : DequeueReply := match handout with
    | .ok (.bucket taken) => .bucket taken.bucket
    | .ok (.checkAgainLater after) => .checkAgainLater after
    | .ok (.queueIsEmpty after) => .queueIsEmpty after
    | .error (.workerBlocked _) => .workerBlocked
    | .error (.workerNotRegistered _) => .workerNotRegistered
  (reply, events, s.withDispatcher d)

/-- Takes in a worker's report. -/
def report (s : Server) (w : WorkerId) (r : BucketReport) (now : Instant) (wall : Timestamp) :
    ReportReply × List Event × Server :=
  let (answer, events, d) := s.dispatcher.accept r.bucket w r now wall
  let reply : ReportReply := match answer with
    | .ok _ => .accepted
    | .error reason => .rejected reason
  (reply, events, s.withDispatcher d)

/-- Notes that a worker is alive. -/
def heartbeat (s : Server) (w : WorkerId) (now : Instant) : HeartbeatReply × Server :=
  let s := s.withRoster (·.setAlive w now)
  let reply : HeartbeatReply := match s.dispatcher.roster.liveness w with
    | .blocked => .workerBlocked
    | .notRegistered => .workerNotRegistered
    | _ => .acknowledged
  (reply, s)

/-- Why a retired server takes no job. -/
def retiredReason : String := "queue is retired and accepts no new jobs"

/-- How many workers a job is split for. -/
def workers (s : Server) : Nat :=
  s.workersHint.getD (max s.dispatcher.roster.usable.length 1)

/-- Splits a job and enqueues its buckets, all of them or none. -/
def schedule (s : Server) (job : Submission) (now : Instant) :
    ScheduleReply × List Event × Server :=
  if s.isRetired then (.rejected retiredReason, [], s)
  else match split job.job job.strategy s.workers job.tests with
    | .error e => (.rejected e.message, [], s)
    | .ok buckets =>
      match s.dispatcher.enqueue job.job buckets job.priority now with
      | (.ok (), events, d) =>
        (.scheduled (UInt64.ofNat buckets.length), events, s.withDispatcher d)
      | (.error e, events, d) => (.rejected e.message, events, s.withDispatcher d)

/-- The state of a job. -/
def jobState (s : Server) (j : JobId) : JobStateReply :=
  match s.dispatcher.snapshot? j with
  | none => .notFound
  | some state =>
    .state ⟨j, UInt64.ofNat state.enqueued, UInt64.ofNat state.dequeued, state.results⟩

/-- Removes a job that is done. -/
def deleteJob (s : Server) (j : JobId) : DeleteReply × List Event × Server :=
  let (answer, events, d) := s.dispatcher.delete j
  let reply : DeleteReply := match answer with
    | .ok () => .deleted
    | .error (.notFound _) => .notFound
    | .error (.bucketsStillInFlight _ enqueued dequeued) =>
      .stillInFlight (UInt64.ofNat enqueued) (UInt64.ofNat dequeued)
  (reply, events, s.withDispatcher d)

/-- Removes a job whatever is left of it. -/
def cancelJob (s : Server) (j : JobId) : CancelReply × List Event × Server :=
  let (answer, events, d) := s.dispatcher.cancel j
  let reply : CancelReply := match answer with
    | .ok taken => .cancelled (UInt64.ofNat taken.length)
    | .error _ => .notFound
  (reply, events, s.withDispatcher d)

/-- Answers a message. -/
def handle (s : Server) (now : Instant) (wall : Timestamp) :
    Message → Reply × List Event × Server
  | .healthCheck => (.health .good, [], s)
  | .registerWorker w version =>
    let (r, events, s) := s.register w version now
    (.register r, events, s)
  | .dequeueBucket w =>
    let (r, events, s) := s.dequeue w now
    (.dequeue r, events, s)
  | .bucketResult w report =>
    let (r, events, s) := s.report w report now wall
    (.report r, events, s)
  | .heartbeat w =>
    let (r, s) := s.heartbeat w now
    (.heartbeat r, [], s)
  | .scheduleTests job =>
    let (r, events, s) := s.schedule job now
    (.schedule r, events, s)
  | .jobState j => (.jobState (s.jobState j), [], s)
  | .deleteJob j =>
    let (r, events, s) := s.deleteJob j
    (.delete r, events, s)
  | .cancelJob j =>
    let (r, events, s) := s.cancelJob j
    (.cancel r, events, s)
  | .workerAliveness => (.aliveness ⟨s.dispatcher.roster.livenesses⟩, [], s)
  | .activeJobs => (.activeJobs ⟨s.dispatcher.activeJobs⟩, [], s)

/-! ## Periodic work -/

/-- Takes stuck buckets back. -/
def sweep (s : Server) (now : Instant) : List Event × Server :=
  let (_, events, d) := s.dispatcher.reclaim now
  (events, s.withDispatcher d)

/-- Finds out anew which workers each job prefers. -/
def rebalance (s : Server) (a : Assignment) : Server :=
  s.withDispatcher (s.dispatcher.rebalance a)

end Server

end TestFleet
