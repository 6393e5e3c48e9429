import TestFleet.Client.Client
import TestFleet.Time.Retry
import TestFleet.Time.Timer
import TestFleet.Worker.Revival

/-!
# A worker's shift

A worker announces itself, and then asks for buckets, runs them and reports on them, one after the
other. While there is nothing to do it waits, ever longer, though no longer than the queue asks it
to. It leaves when it is told to, when the queue blocks it, when the queue cannot be reached, or,
if it is set up so, when the queue is empty. It breaks down over a bucket if the timer of its signs
of life does not start, and over a pause if the one after it is too long.

The one who tells it to leave is the caller, by the number of times that the worker may ask for
work.
-/

namespace TestFleet

/-- How a worker is set up. -/
structure WorkerConfig where
  id : WorkerId
  /-- The version that it says it speaks. -/
  version : String := protocolVersion
  host : String := "localhost"
  /-- How often it gives a sign of life while a bucket runs. -/
  heartbeatEvery : Duration := .ofSeconds 5
  /-- Whether it leaves when the queue is empty. -/
  leavesWhenEmpty : Bool := false
  /-- Its waits while there is nothing to do. -/
  checkAgain : Backoff := .doubling (.ofMillis 100) (.ofMillis 10000)
  /-- How many times it sends a request that does not get through. -/
  attempts : Nat := 3
  /-- Its waits between two of these times. -/
  retryPauses : Backoff := .doubling (.ofMillis 200) (.ofMillis 2000)

/-- The timer of its signs of life, which is started over each bucket, if it starts. -/
def WorkerConfig.heartbeatTimer? (c : WorkerConfig) (now : Instant) : Option Timer :=
  Timer.start? c.heartbeatEvery now

/-- Why a worker leaves though it was not told to. -/
inductive WorkerError where
  | blocked (reason : String)
  | link (fault : LinkFault)
  | brokeDown (fault : TimeFault)
  deriving DecidableEq, Repr

/-- The explanation shown to a user. -/
def WorkerError.message : WorkerError → String
  | blocked reason => "worker was blocked by the queue: " ++ reason
  | link fault => fault.message
  | brokeDown fault => fault.message

/-- How a shift ends. -/
inductive WorkerExit where
  | queueEmpty
  /-- It was told to leave. -/
  | shutdown
  deriving DecidableEq, Repr

/-- A worker at work: its setting, its way to the queue and its runner. -/
structure Worker (σ ρ : Type) where
  config : WorkerConfig
  connection : Connection σ
  runner : TestRunner ρ
  /-- How many events could be watched of the run of a bucket by each heartbeat during it. -/
  heartbeats : Bucket → List Nat := fun _ => []

/-- What a shift changes: the world, the runner, and the events so far. -/
structure Shift (σ ρ : Type) where
  world : σ
  runner : ρ
  events : List RunEvent := []

namespace Worker

variable {σ ρ α : Type}

/-- The worker as a client of the queue. -/
def client (w : Worker σ ρ) : Client σ := ⟨w.connection, .worker w.config.id⟩

/-- Sends a request again while it does not get through. -/
def persist (w : Worker σ ρ) (request : σ → Except LinkFault α × σ) (s : Shift σ ρ) :
    Except WorkerError α × Shift σ ρ :=
  let again (_ : Nat) (s : σ × Backoff) : Except WorkerError α × σ × Backoff :=
    let (r, world) := request s.1
    (r.mapError .link, world, s.2)
  let pause (_ : Nat) (s : σ × Backoff) : Except WorkerError Unit × σ × Backoff :=
    match s.2.next? with
    | none => (.error (.brokeDown .pauseTooLong), s)
    | some (pause, pauses) => (.ok (), w.connection.wait pause s.1, pauses)
  let (r, world, _) := retry w.config.attempts again pause (s.world, w.config.retryPauses)
  (r, { s with world := world })

/-- Announces the worker. -/
def register (w : Worker σ ρ) (s : Shift σ ρ) : Except WorkerError Unit × Shift σ ρ :=
  match w.persist (w.client.register w.config.id w.config.version) s with
  | (.error e, s) => (.error e, s)
  | (.ok (.blocked reason), s) => (.error (.blocked reason), s)
  | (.ok .registered, s) => (.ok (), s)

/-- Gives a sign of life at each of these moments of a run, up to the one at which the worker learns
that it is blocked, if it does. One that does not get through does no harm. -/
def beat (w : Worker σ ρ) : List Nat → Shift σ ρ → Option Nat × Shift σ ρ
  | [], s => (none, s)
  | moment :: later, s =>
    match w.client.heartbeat w.config.id s.world with
    | (.ok .workerBlocked, world) => (some moment, { s with world := world })
    | (_, world) => w.beat later { s with world := world }

/-- Where the tests of a bucket run. -/
def context (w : Worker σ ρ) (b : Bucket) : RunContext where
  environment := b.configuration.behavior.environment
  destination := b.configuration.destination
  host := w.config.host
  simulator := w.config.id.text

/-- The report on a bucket with these results. -/
def report (b : Bucket) (results : List EntryResult) : BucketReport :=
  ⟨b.id, b.configuration.destination, results⟩

/-- The shift once the run of a bucket was dropped, when so much of it could be watched. -/
def dropped (w : Worker σ ρ) (b : Bucket) (events : List RunEvent) (s : Shift σ ρ) : Shift σ ρ :=
  { s with
    runner := Runner.stateAfter w.runner (w.context b) events s.runner
    events := s.events ++ events }

/-- Runs a bucket and reports on it. Nothing is run without a timer for the signs of life. If the
worker learns that it is blocked, the run is dropped where it is. Whether the report is accepted
makes no difference to the worker. -/
def runBucket (w : Worker σ ρ) (wall : Timestamp) (b : Bucket) (s : Shift σ ρ) :
    Except WorkerError Unit × Shift σ ρ :=
  match w.config.heartbeatTimer? (w.connection.now s.world) with
  | none => (.error (.brokeDown .noPeriod), s)
  | some _ =>
    let (results, events, r) := Runner.run w.runner wall (w.context b) b.entries s.runner
    match w.beat (w.heartbeats b) s with
    | (some moment, s) =>
      (.error (.blocked "blocked while running a bucket"), w.dropped b (events.take moment) s)
    | (none, s) =>
      let s := { s with runner := r, events := s.events ++ events }
      let (answer, s) := w.persist (w.client.report w.config.id (report b results)) s
      (answer.map fun _ => (), s)

/-- Waits for as long as it is the worker's turn to, and no longer than `after`. -/
def idle (w : Worker σ ρ) (after : Duration) (pauses : Backoff) (s : Shift σ ρ) :
    Except WorkerError Backoff × Shift σ ρ :=
  match pauses.next? with
  | none => (.error (.brokeDown .pauseTooLong), s)
  | some (pause, pauses) =>
    (.ok pauses, { s with world := w.connection.wait (pause.min after) s.world })

/-- Asks for work, at most so many times. -/
def loop (w : Worker σ ρ) (wall : Timestamp) :
    Nat → Backoff → Shift σ ρ → Except WorkerError WorkerExit × Shift σ ρ
  | 0, _, s => (.ok .shutdown, s)
  | n + 1, pauses, s =>
    match w.persist (w.client.dequeue w.config.id) s with
    | (.error e, s) => (.error e, s)
    | (.ok (.bucket b), s) =>
      match w.runBucket wall b s with
      | (.error e, s) => (.error e, s)
      | (.ok (), s) => w.loop wall n pauses.reset s
    | (.ok (.checkAgainLater after), s) =>
      match w.idle after pauses s with
      | (.error e, s) => (.error e, s)
      | (.ok pauses, s) => w.loop wall n pauses s
    | (.ok (.queueIsEmpty after), s) =>
      if w.config.leavesWhenEmpty then (.ok .queueEmpty, s)
      else
        match w.idle after pauses s with
        | (.error e, s) => (.error e, s)
        | (.ok pauses, s) => w.loop wall n pauses s
    | (.ok .workerBlocked, s) => (.error (.blocked "blocked while dequeueing"), s)
    | (.ok .workerNotRegistered, s) =>
      match w.register s with
      | (.error e, s) => (.error e, s)
      | (.ok (), s) => w.loop wall n pauses s

/-- A whole shift, in which the worker asks for work at most so many times. -/
def work (w : Worker σ ρ) (wall : Timestamp) (polls : Nat) (s : Shift σ ρ) :
    Except WorkerError WorkerExit × Shift σ ρ :=
  match w.register s with
  | (.error e, s) => (.error e, s)
  | (.ok (), s) => w.loop wall polls w.config.checkAgain s

end Worker

end TestFleet
