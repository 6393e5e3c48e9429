import TestFleet.Queue.Event
import TestFleet.Text.Quoted
import TestFleet.Worker.Revival

/-!
# Log records

A record says how important it is, what happened, and the particulars, each under a name. What
happens on the queue and in a runner is logged as one record each; that a test has started is not
logged at all.
-/

namespace TestFleet

inductive LogLevel where
  | error
  | warning
  | info
  | debug
  deriving DecidableEq, Repr

/-- The name of a level. -/
def LogLevel.name : LogLevel → String
  | error => "ERROR"
  | warning => "WARN"
  | info => "INFO"
  | debug => "DEBUG"

/-- One entry of the log. -/
structure LogRecord where
  level : LogLevel
  message : String
  particulars : List (String × String) := []
  deriving DecidableEq, Repr

namespace LogRecord

/-- Everything in a record by name, the message among the rest. -/
def fields (r : LogRecord) : Directory String String :=
  Directory.ofList (r.particulars ++ [("message", r.message)])

def job (j : JobId) : String × String := ("job_id", j.text)

def bucket (b : BucketId) : String × String := ("bucket_id", b.text)

def worker (w : WorkerId) : String × String := ("worker_id", w.text)

def count (n : Nat) : String × String := ("count", Text.decimal n)

/-- The bucket that failed tests are put into, if there is one. -/
def retryBucket (b : Option BucketId) : String × String :=
  ("retry_bucket", match b with
    | none => "None"
    | some b => "Some(BucketId(" ++ Text.quoted b.text ++ "))")

end LogRecord

open LogRecord (job bucket worker count retryBucket)

/-- How an event of the queue is logged. -/
def Event.record : Event → LogRecord
  | jobEnqueued j n =>
    ⟨.info, "job enqueued", [job j, ("number_of_buckets", Text.decimal n)]⟩
  | bucketDequeued j b w => ⟨.debug, "bucket dequeued", [job j, bucket b, worker w]⟩
  | resultAccepted j b w r =>
    ⟨.debug, "bucket result accepted", [job j, bucket b, worker w, retryBucket r]⟩
  | resultRejected b w reason =>
    ⟨.warning, "bucket result rejected", [bucket b, worker w, ("reason", reason.message)]⟩
  | bucketReclaimed j b w => ⟨.warning, "bucket reclaimed", [job j, bucket b, worker w]⟩
  | bucketCancelled j b w => ⟨.info, "in-flight bucket cancelled", [job j, bucket b, worker w]⟩
  | workerSilent w => ⟨.warning, "worker went silent", [worker w]⟩
  | workerBlocked w reason => ⟨.warning, "worker blocked", [worker w, ("reason", reason)]⟩
  | jobDeleted j => ⟨.info, "job deleted", [job j]⟩
  | jobCancelled j => ⟨.info, "job cancelled", [job j]⟩

/-- How an event of a runner is logged, if it is. -/
def RunEvent.record? : RunEvent → Option LogRecord
  | willRun entries simulator =>
    some ⟨.debug, "will run tests", [count entries.length, ("simulator_id", simulator)]⟩
  | started _ => none
  | finished e succeeded =>
    some ⟨.debug, "test finished",
      [("test_entry", e.shown), ("succeeded", if succeeded then "true" else "false")]⟩
  | didRun results =>
    let lost := (results.filter EntryResult.isLost).length
    some ⟨.debug, "did run tests", [count results.length, ("lost", Text.decimal lost)]⟩

end TestFleet
