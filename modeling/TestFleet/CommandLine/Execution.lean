import TestFleet.CommandLine.Arguments
import TestFleet.CommandLine.Outcome
import TestFleet.CommandLine.Settings
import TestFleet.Wire.Message
import TestFleet.Worker.Command
import TestFleet.Worker.Rehearsal

/-!
# Carrying out subcommands

What each subcommand does at the site where it is given: which messages it sends, which lines it
prints, and how it ends. The address of the queue is that of the command line, or else that of the
settings.

* `Subcommand.execute`: all subcommands but the one that serves a queue;
* `QueueSettings.overridden`: the settings of that one.
-/

namespace TestFleet

/-- Where a subcommand is carried out, in a world of states `σ`. -/
structure Site (σ : Type) where
  connect : SocketAddress → Connection σ
  /-- What a file holds, if it can be read. -/
  file : String → Option (List UInt8)
  machine : Machine
  cores : Nat
  hostName : Option String
  wall : Timestamp
  /-- The number that this process goes by at the queue. -/
  client : ClientId
  /-- A name for a job or a worker that is given none. -/
  freshName : String
  /-- How many times a job is looked at, and how many times a worker asks for work. -/
  patience : Nat

/-- Why a subcommand is not carried out. -/
inductive CommandFault where
  | noQueue
  | testsUnreadable (path : String)
  | testsMalformed (path : String)
  | client (error : ClientError)
  | rejected (job : JobId) (reason : String)
  | jobNotFound (job : JobId)
  deriving DecidableEq, Repr

/-- The explanation shown to a user. -/
def CommandFault.message : CommandFault → String
  | noQueue => "no queue address; pass --queue-addr or set worker.queue_addr in the config file"
  | testsUnreadable path => "could not read tests from " ++ path
  | testsMalformed path => "invalid tests in " ++ path
  | client error => error.message
  | rejected job reason => "queue rejected job " ++ job.text ++ ": " ++ reason
  | jobNotFound job => "job " ++ job.text ++ " not found"

/-- What a subcommand leaves: how it ended, the lines it printed, and the world. -/
structure Executed (σ : Type) where
  ending : Except CommandFault ExitCode
  lines : List String := []
  world : σ

namespace Site

variable {σ : Type}

/-- This process as a client of the queue at an address. -/
def clientOf (site : Site σ) (queue : SocketAddress) : Client σ :=
  ⟨site.connect queue, .client site.client⟩

/-- The tests that a file lists. -/
def tests (site : Site σ) (path : String) : Except CommandFault (List ConfiguredTest) :=
  match site.file path >>= Text.ofUtf8? with
  | none => .error (.testsUnreadable path)
  | some text =>
    match (Json.Reader.list ConfiguredTest.reader).ofText text with
    | .error _ => .error (.testsMalformed path)
    | .ok tests => .ok tests

/-- Waits for a job, tells its results, and removes it. That it cannot be removed does no harm. -/
def await (site : Site σ) (c : Client σ) (job : JobId) (lines : List String) (world : σ) :
    Executed σ :=
  match c.waitForJob job none site.patience Client.waitPauses world with
  | (.error e, world) => ⟨.error (.client e), lines, world⟩
  | (.ok none, world) => ⟨.error (.client (.timedOut job)), lines, world⟩
  | (.ok (some state), world) =>
    let lines := lines ++ state.results.map EntryResult.line ++ [state.summary]
    match c.deleteJob job world with
    | (.error fault, world) => ⟨.error (.client (.link fault)), lines, world⟩
    | (.ok _, world) => ⟨.ok state.exitCode, lines, world⟩

/-- Submits a job. -/
def submit (site : Site σ) (queue : SocketAddress) (a : SubmitArguments) (world : σ) :
    Executed σ :=
  match site.tests a.tests with
  | .error e => ⟨.error e, [], world⟩
  | .ok tests =>
    let job := a.job.getD ⟨site.freshName⟩
    let c := site.clientOf queue
    match c.schedule ⟨job, a.priority, a.strategy, tests⟩ world with
    | (.error fault, world) => ⟨.error (.client (.link fault)), [], world⟩
    | (.ok (.rejected reason), world) => ⟨.error (.rejected job reason), [], world⟩
    | (.ok (.scheduled n), world) =>
      let lines :=
        ["Scheduled job " ++ job.text ++ " as " ++ Text.decimal n.toNat ++ " buckets"]
      if a.waits then site.await c job lines world else ⟨.ok .success, lines, world⟩

/-- Tells how far a job is. -/
def status (site : Site σ) (queue : SocketAddress) (job : JobId) (world : σ) : Executed σ :=
  match (site.clientOf queue).jobState job world with
  | (.error fault, world) => ⟨.error (.client (.link fault)), [], world⟩
  | (.ok .notFound, world) => ⟨.error (.jobNotFound job), [], world⟩
  | (.ok (.state state), world) => ⟨.ok .success, [state.summary], world⟩

/-- Tells the liveness of every worker. -/
def aliveness (site : Site σ) (queue : SocketAddress) (world : σ) : Executed σ :=
  match (site.clientOf queue).aliveness world with
  | (.error fault, world) => ⟨.error (.client (.link fault)), [], world⟩
  | (.ok workers, world) =>
    ⟨.ok .success, workers.entries.map fun (w, l) => w.text ++ "\t" ++ l.toJson.text, world⟩

/-- The runner of workers that are given the words of a program. Without any, every test passes. -/
def runner (site : Site σ) (words : List String) : TestRunner Unit :=
  match Command.ofWords? words with
  | some c => c.runner site.machine site.wall
  | none => Runner.echo site.wall

/-- Lets workers work, one after the other; whether none failed. -/
def workAll (site : Site σ) (connection : Connection σ) (runner : TestRunner Unit) :
    List WorkerConfig → σ → Bool × σ
  | [], world => (true, world)
  | config :: configs, world =>
    let (exit, s) := Worker.work ⟨config, connection, runner, fun _ => []⟩ site.wall site.patience
      ⟨world, (), []⟩
    let (others, world) := site.workAll connection runner configs s.world
    (exit.isOk && others, world)

/-- Starts workers. -/
def work (site : Site σ) (settings : WorkerSettings) (queue : SocketAddress) (a : WorkArguments)
    (world : σ) : Executed σ :=
  let base := (a.worker.or (settings.worker.map WorkerId.mk)).getD ⟨site.freshName⟩
  let configs := (base.numbered (a.count.on site.cores)).map fun w =>
    let config := settings.config w site.hostName
    { config with leavesWhenEmpty := config.leavesWhenEmpty || a.leavesWhenEmpty }
  let (wentWell, world) := site.workAll (site.connect queue) (site.runner a.runner) configs world
  ⟨.ok (if wentWell then .success else .error), [], world⟩

end Site

namespace Subcommand

/-- The queue that a subcommand names, if it needs one. -/
def queue? : Subcommand → Option SocketAddress
  | start _ _ _ => none
  | work a => a.queue
  | submit a => a.queue
  | status queue _ => queue
  | aliveness queue => queue

/-- Carries out a subcommand. One that serves a queue does nothing here. -/
def execute {σ : Type} (site : Site σ) (settings : WorkerSettings) (c : Subcommand) (world : σ) :
    Executed σ :=
  match c, c.queue?.or settings.queue with
  | start _ _ _, _ => ⟨.ok .success, [], world⟩
  | _, none => ⟨.error .noQueue, [], world⟩
  | work a, some queue => site.work settings queue a world
  | submit a, some queue => site.submit queue a world
  | status _ job, some queue => site.status queue job world
  | aliveness _, some queue => site.aliveness queue world

end Subcommand

/-- The settings of a queue under what the command line says. -/
def QueueSettings.overridden (s : QueueSettings) (bind : Option SocketAddress)
    (workers bucketsPerWorker : Option Nat) : QueueSettings :=
  { s with
    bind := bind.getD s.bind
    workersHint := workers.or s.workersHint
    bucketsPerWorker := bucketsPerWorker.getD s.bucketsPerWorker }

end TestFleet
