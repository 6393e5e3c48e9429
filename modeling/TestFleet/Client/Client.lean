import TestFleet.Protocol.Connection
import TestFleet.Time.Backoff
import TestFleet.Time.Fault

/-!
# Clients of a queue

One function for each message that a party may send, and one that waits until a job is done.
-/

namespace TestFleet

/-- A party with a way to a queue. -/
structure Client (σ : Type) where
  connection : Connection σ
  party : Party

/-- Why a client does not get what it asks for. -/
inductive ClientError where
  | link (fault : LinkFault)
  | jobNotFound (job : JobId)
  | timedOut (job : JobId)
  | brokeDown (fault : TimeFault)
  deriving DecidableEq, Repr

/-- The explanation shown to a user. -/
def ClientError.message : ClientError → String
  | link fault => fault.message
  | jobNotFound j => "job " ++ j.text ++ " not found"
  | timedOut j => "timed out waiting for job " ++ j.text
  | brokeDown fault => fault.message

namespace Client

variable {σ α : Type}

/-- Sends a message in the client's name. -/
def ask (c : Client σ) (m : Message) (kind : Reply → Option α) (s : σ) :
    Except LinkFault α × σ :=
  c.connection.ask c.party m kind s

/-- Asks how the queue is. -/
def health (c : Client σ) : σ → Except LinkFault Health × σ :=
  c.ask .healthCheck fun
    | .health h => some h
    | _ => none

/-- Announces a worker. -/
def register (c : Client σ) (w : WorkerId) (version : String) :
    σ → Except LinkFault RegisterReply × σ :=
  c.ask (.registerWorker w version) fun
    | .register r => some r
    | _ => none

/-- Asks for a bucket. -/
def dequeue (c : Client σ) (w : WorkerId) : σ → Except LinkFault DequeueReply × σ :=
  c.ask (.dequeueBucket w) fun
    | .dequeue r => some r
    | _ => none

/-- Reports on a bucket. -/
def report (c : Client σ) (w : WorkerId) (r : BucketReport) :
    σ → Except LinkFault ReportReply × σ :=
  c.ask (.bucketResult w r) fun
    | .report r => some r
    | _ => none

/-- Gives a sign of life. -/
def heartbeat (c : Client σ) (w : WorkerId) : σ → Except LinkFault HeartbeatReply × σ :=
  c.ask (.heartbeat w) fun
    | .heartbeat r => some r
    | _ => none

/-- Submits a job. -/
def schedule (c : Client σ) (job : Submission) : σ → Except LinkFault ScheduleReply × σ :=
  c.ask (.scheduleTests job) fun
    | .schedule r => some r
    | _ => none

/-- Asks for the state of a job. -/
def jobState (c : Client σ) (j : JobId) : σ → Except LinkFault JobStateReply × σ :=
  c.ask (.jobState j) fun
    | .jobState r => some r
    | _ => none

/-- Removes a job that is done. -/
def deleteJob (c : Client σ) (j : JobId) : σ → Except LinkFault DeleteReply × σ :=
  c.ask (.deleteJob j) fun
    | .delete r => some r
    | _ => none

/-- Removes a job whatever is left of it. -/
def cancelJob (c : Client σ) (j : JobId) : σ → Except LinkFault CancelReply × σ :=
  c.ask (.cancelJob j) fun
    | .cancel r => some r
    | _ => none

/-- Asks for the liveness of all workers. -/
def aliveness (c : Client σ) : σ → Except LinkFault (Directory WorkerId Liveness) × σ :=
  c.ask .workerAliveness fun
    | .aliveness r => some r.aliveness
    | _ => none

/-- Asks for the live jobs, the oldest first. -/
def activeJobs (c : Client σ) : σ → Except LinkFault (List JobId) × σ :=
  c.ask .activeJobs fun
    | .activeJobs r => some r.jobs
    | _ => none

/-! ## Waiting for a job -/

/-- The pauses between two looks at a job. -/
def waitPauses : Backoff := .doubling (.ofMillis 50) (.ofMillis 2000)

/-- Looks at a job, at most `looks` times, until it is done: its last state, if it is done by then.
No pause is begun that would end after the deadline. -/
def waitForJob (c : Client σ) (j : JobId) (deadline : Option Instant) :
    Nat → Backoff → σ → Except ClientError (Option JobState) × σ
  | 0, _, s => (.ok none, s)
  | looks + 1, pauses, s =>
    match c.jobState j s with
    | (.error fault, s) => (.error (.link fault), s)
    | (.ok .notFound, s) => (.error (.jobNotFound j), s)
    | (.ok (.state state), s) =>
      if state.isDepleted then (.ok (some state), s)
      else
        match pauses.next? with
        | none => (.error (.brokeDown .pauseTooLong), s)
        | some (pause, pauses) =>
          let wake := (c.connection.now s).after pause
          if deadline.any fun d => d.nanoseconds < wake.nanoseconds then (.error (.timedOut j), s)
          else c.waitForJob j deadline looks pauses (c.connection.wait pause s)

end Client

end TestFleet
