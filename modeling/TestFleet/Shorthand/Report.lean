import TestFleet.Queue.Event
import TestFleet.Queue.Roster
import TestFleet.Shorthand.Test
import TestFleet.Worker.Rehearsal
import TestFleet.Worker.Revival

/-!
# A shorthand for reports and events

Runs, results, rejections and events in a few words each, and what rehearsed runners are told in the
same words. A time that was read off a clock says nothing about a run, so a run that started at such
a time is written without its times.
-/

namespace TestFleet.Shorthand

open Json (Draft Query)

/-! ## Results -/

def exception (e : TestException) : Json :=
  .array [.string e.reason, .string e.file, .natural e.line.toNat]

def readException (d : Draft) : Query TestException := do
  match d.asItems? with
  | some [r, f, l] =>
    pure ⟨← .orBad "exception" r.asText?, ← .orBad "exception" f.asText?,
      UInt32.ofNat (← .orBad "exception" (l.asBelow? UInt32.size))⟩
  | _ => throw "exception"

/-- A run; `now` is the time that stands for every one read off a clock. -/
def run (now : Timestamp) (r : TestRun) : Json :=
  let isRead := r.start == now
  .array [.bool r.succeeded, .array (r.exceptions.map exception),
    if isRead then .null else duration r.duration,
    if isRead then .string "now" else .natural r.start.millis.toNat,
    .string r.host, .string r.simulator]

/-- A run; whether it succeeded may stand for all of it. -/
def readRun (d : Draft) : Query TestRun := do
  match d with
  | .bool b => pure ⟨b, [], .ofMillis 10, ⟨1000⟩, "host", "sim"⟩
  | _ => match d.asItems? with
    | some [ok, es, d, start, host, sim] =>
      let ok ← .orBad "run" ok.asBool?
      let es ← (← .orBad "run" es.asItems?).mapM readException
      let d ← .orBad "run" d.asDuration?
      let start ← .orBad "run" start.asNatural?
      pure ⟨ok, es, d, ⟨UInt64.ofNat start⟩, ← .orBad "run" host.asText?,
        ← .orBad "run" sim.asText?⟩
    | _ => throw "run"

def result (now : Timestamp) (r : EntryResult) : Json :=
  .object [("e", entry r.entry), ("runs", .array (r.runs.map (run now)))]

def results (now : Timestamp) (rs : List EntryResult) : Json := .array (rs.map (result now))

def readResult (d : Draft) : Query EntryResult := do
  let e ← readEntry (← d.need some "e")
  pure ⟨e, ← (← d.items "runs").mapM readRun⟩

def readResults (d : Draft) : Query (List EntryResult) := do
  (← d.items "results").mapM readResult

/-! ## Workers and their reports -/

def liveness : Liveness → Json
  | .notRegistered => .string "not_registered"
  | .registering => .string "registering"
  | .alive => .string "alive"
  | .silent bs => .object [("silent", bucketIds bs)]
  | .blocked => .string "blocked"

/-- All workers, each with the buckets that it holds. -/
def roster (r : Roster) : Json :=
  .object (r.workers.entries.map fun (w, s) =>
    (w.text, .array [liveness s.liveness, bucketIds s.buckets.keys]))

def rejectionItems : Rejection → Json
  | .bucketNotFound => .array [.string "BucketNotFound"]
  | .workerDoesNotOwnBucket w => .array [.string "WorkerDoesNotOwnBucket", .string w.text]
  | .resultsDoNotMatchRequest es => .array [.string "ResultsDoNotMatchRequest", entries es]

def rejection (r : Rejection) : Json :=
  .object [("rejected", rejectionItems r), ("message", .string r.message)]

/-! ## Events -/

def event : Event → Json
  | .jobEnqueued j n => .array [.string "JobEnqueued", .string j.text, .natural n]
  | .bucketDequeued j b w => texts ["BucketDequeued", j.text, b.text, w.text]
  | .resultAccepted j b w r =>
    .array [.string "ResultAccepted", .string j.text, .string b.text, .string w.text,
      optionalBucketId r]
  | .resultRejected b w r =>
    .array [.string "ResultRejected", .string b.text, .string w.text, rejectionItems r]
  | .bucketReclaimed j b w => texts ["BucketReclaimed", j.text, b.text, w.text]
  | .bucketCancelled j b w => texts ["BucketCancelled", j.text, b.text, w.text]
  | .workerSilent w => texts ["WorkerSilent", w.text]
  | .workerBlocked w r => texts ["WorkerBlocked", w.text, r]
  | .jobDeleted j => texts ["JobDeleted", j.text]
  | .jobCancelled j => texts ["JobCancelled", j.text]

def events (es : List Event) : Json := .array (es.map event)

def runEvent (now : Timestamp) : RunEvent → Json
  | .willRun es sim => .array [.string "WillRun", entries es, .string sim]
  | .started e => .array [.string "TestStarted", entry e]
  | .finished e ok => .array [.string "TestFinished", entry e, .bool ok]
  | .didRun rs => .array [.string "DidRun", results now rs]

/-! ## What rehearsed runners are told -/

def readSignal (d : Draft) : Query Signal := do
  match d.asItems? with
  | some [act, c, m] =>
    match act.asText? with
    | some "start" => pure (.started (← readName c m))
    | _ => throw "calls"
  | some [act, c, m, outcome, ms, es, start] =>
    let test ← readName c m
    let outcome ← match outcome.asText? with
      | some "success" => pure Outcome.passed
      | some "failure" => pure .failed
      | some "lost" => pure .lost
      | _ => throw "calls"
    let ms ← .orBad "calls" ms.asNatural?
    let es ← (← .orBad "calls" es.asItems?).mapM readException
    let start ← .orBad "calls" start.asNatural?
    match act.asText? with
    | some "stop" =>
      pure (.stopped ⟨test, outcome, .ofMillis (UInt64.ofNat ms), es, ⟨UInt64.ofNat start⟩⟩)
    | _ => throw "calls"
  | _ => throw "calls"

def readFault (d : Draft) : Query RunnerFault := do
  match d.asItems? with
  | some [kind, m] =>
    let m ← .orBad "error" m.asText?
    match kind.asText? with
    | some "crashed" => pure (.crashed m)
    | some "io" => pure (.system m)
    | _ => throw "error"
  | _ => throw "error"

def readPerformance (d : Draft) : Query Performance := do
  let signals ← (← d.itemsOr "calls").mapM readSignal
  let fault ← match d.field? "error" with
    | none => pure none
    | some e => some <$> readFault e
  pure ⟨signals, fault⟩

def readCue (d : Draft) : Query Runner.Cue :=
  match d.asText? with
  | some "pass" => .ok .pass
  | some "fail" => .ok .fail
  | some "silent" => .ok .silent
  | some "crash" => .ok .crash
  | _ => .error "script"

def readScript (d : Draft) : Query Runner.Script := do
  let cues ← (← .orBad "script" d.asPairs?).mapM fun (method, cues) => do
    pure (method, ← (← .orBad "script" cues.asItems?).mapM readCue)
  pure { cues := Directory.ofList cues }

end TestFleet.Shorthand
