import TestFleet.CommandLine.Usage
import TestFleet.CommandLine.WorkerCount
import TestFleet.Net.Address
import TestFleet.Protocol.Message

/-!
# What a command line asks for

The subcommands and the options of each. Some options may stand before and behind the subcommand;
of both, the one behind it counts.

* `Invocation.ofWords`: reads a command line.
-/

namespace TestFleet

inductive LogFormat where
  | text
  | json
  deriving DecidableEq, Repr

/-- How workers are started. -/
structure WorkArguments where
  queue : Option SocketAddress := none
  worker : Option WorkerId := none
  count : WorkerCount := .fixed 1
  leavesWhenEmpty : Bool := false
  /-- The words of the program that runs a test; without any, tests pass. -/
  runner : List String := []
  deriving DecidableEq, Repr

/-- How a job is submitted. -/
structure SubmitArguments where
  queue : Option SocketAddress := none
  job : Option JobId := none
  priority : JobPriority := ⟨0⟩
  strategy : SplitStrategy := .individual
  /-- The file that lists the tests. -/
  tests : String
  /-- Whether to wait until the job is done. -/
  waits : Bool := false
  deriving DecidableEq, Repr

/-- What is to be done. -/
inductive Subcommand where
  /-- Serves a queue. -/
  | start (bind : Option SocketAddress) (workers bucketsPerWorker : Option Nat)
  | work (arguments : WorkArguments)
  | submit (arguments : SubmitArguments)
  | status (queue : Option SocketAddress) (job : JobId)
  | aliveness (queue : Option SocketAddress)
  deriving DecidableEq, Repr

/-- A command line. -/
structure Invocation where
  /-- The configuration file, if it is not the one at the usual place. -/
  config : Option String := none
  logFormat : LogFormat := .text
  logFile : Option String := none
  subcommand : Subcommand
  deriving DecidableEq, Repr

/-! ## Options -/

/-- The setting that an option makes. -/
inductive Setting where
  | config (path : String)
  | logFormat (format : LogFormat)
  | logFile (path : String)
  | bind (address : SocketAddress)
  | numberOfWorkers (n : Nat)
  | bucketsPerWorker (n : Nat)
  | queue (address : SocketAddress)
  | worker (id : WorkerId)
  | count (n : WorkerCount)
  | leavesWhenEmpty
  | job (id : JobId)
  | priority (p : JobPriority)
  | strategy (s : SplitStrategy)
  | tests (path : String)
  | waits

namespace Setting

/-- A value of its option's kind, or a fault. -/
def orBad {α : Type} (make : α → Setting) : Option α → Except UsageFault Setting
  | some a => .ok (make a)
  | none => .error .badValue

/-- A path; there is none without a name. -/
def path (make : String → Setting) (s : String) : Except UsageFault Setting :=
  if s = "" then .error .invalidValue else .ok (make s)

/-- The name of a log format. -/
def format (s : String) : Except UsageFault Setting :=
  match s with
  | "text" => .ok (.logFormat .text)
  | "json" => .ok (.logFormat .json)
  | _ => .error .invalidValue

/-- A numeral of 32 bits, which may have a sign. -/
def signed32? (s : String) : Option UInt32 :=
  match s.toList with
  | '-' :: '+' :: _ => none
  | '-' :: cs => match Text.readUInt32 (String.ofList cs) with
    | .ok 0 => some 0
    | _ => none
  | _ => (Text.readUInt32 s).toOption

/-- The options that may stand anywhere. -/
def shared : List (CommandOption Setting) := [
  { long := "config", kind := .value (path config) },
  { long := "log-format", kind := .value format },
  { long := "log-file", kind := .value (path logFile) },
  { long := "help", short := 'h', kind := .help }]

/-- The option that names the queue's address. -/
def queueOption : CommandOption Setting where
  long := "queue-addr"
  kind := .value fun s => orBad queue (SocketAddress.ofText? s)

/-- What may stand before the subcommand. -/
def top : Usage Setting where
  options := shared ++ [{ long := "version", short := 'V', kind := .version }]
  subcommands := ["start", "work", "submit", "status", "aliveness", "help"]

def start : Usage Setting where
  options := shared ++ [
    { long := "bind", kind := .value fun s => orBad bind (SocketAddress.ofText? s) },
    { long := "number-of-workers"
      kind := .value fun s => orBad numberOfWorkers (WorkerCount.positive? s) },
    { long := "max-buckets-per-worker"
      kind := .value fun s => orBad bucketsPerWorker (WorkerCount.positive? s) }]

def work : Usage Setting where
  options := shared ++ [
    queueOption,
    { long := "worker-id", kind := .value fun s => .ok (worker ⟨s⟩) },
    { long := "num", short := 'n'
      kind := .value fun s => orBad count (WorkerCount.ofText s).toOption },
    { long := "exit-when-queue-empty", kind := .flag leavesWhenEmpty }]
  operands := .trailing

def submit : Usage Setting where
  options := shared ++ [
    queueOption,
    { long := "job-id", kind := .value fun s => .ok (job ⟨s⟩) },
    { long := "priority", kind := .value fun s => orBad (priority ⟨·⟩) (signed32? s) },
    { long := "strategy"
      kind := .value fun s => orBad strategy (SplitStrategy.ofText s).toOption },
    { long := "tests", kind := .value (path tests) },
    { long := "wait", kind := .flag waits }]

def status : Usage Setting where
  options := shared ++ [queueOption]
  operands := .one

def aliveness : Usage Setting where
  options := shared ++ [queueOption]

end Setting

/-! ## Reading a command line -/

namespace Invocation

/-- The first setting of a kind. -/
def pick {α : Type} (g : Given Setting) (kind : Setting → Option α) : Option α :=
  g.settings.findSome? fun s => kind s.2

/-- The address of the queue, if one was given. -/
def queueOf (g : Given Setting) : Option SocketAddress :=
  pick g fun
    | .queue a => some a
    | _ => none

/-- What may stand behind a subcommand. -/
def usageOf : String → Option (Usage Setting)
  | "start" => some Setting.start
  | "work" => some Setting.work
  | "submit" => some Setting.submit
  | "status" => some Setting.status
  | "aliveness" => some Setting.aliveness
  | _ => none

/-- The subcommand of a name, with what was given for it. -/
def subcommandOf (name : String) (g : Given Setting) : Except UsageFault Subcommand :=
  match name with
  | "start" =>
    let bind := pick g fun
      | .bind a => some a
      | _ => none
    let workers := pick g fun
      | .numberOfWorkers n => some n
      | _ => none
    let buckets := pick g fun
      | .bucketsPerWorker n => some n
      | _ => none
    .ok (.start bind workers buckets)
  | "work" =>
    let worker := pick g fun
      | .worker w => some w
      | _ => none
    let count := pick g fun
      | .count n => some n
      | _ => none
    let leaves := pick g fun
      | .leavesWhenEmpty => some true
      | _ => none
    .ok (.work {
      queue := queueOf g, worker := worker, count := count.getD (.fixed 1)
      leavesWhenEmpty := leaves.getD false, runner := g.operands })
  | "submit" =>
    let job := pick g fun
      | .job j => some j
      | _ => none
    let priority := pick g fun
      | .priority p => some p
      | _ => none
    let strategy := pick g fun
      | .strategy s => some s
      | _ => none
    let tests := pick g fun
      | .tests path => some path
      | _ => none
    let waits := pick g fun
      | .waits => some true
      | _ => none
    match tests with
    | none => .error .missingArgument
    | some path => .ok (.submit {
      queue := queueOf g, job := job, priority := priority.getD ⟨0⟩
      strategy := strategy.getD .individual, tests := path, waits := waits.getD false })
  | "status" =>
    match g.operands with
    | [] => .error .missingArgument
    | job :: _ => .ok (.status (queueOf g) ⟨job⟩)
  | "aliveness" => .ok (.aliveness (queueOf g))
  | _ => .error .unknownSubcommand

/-- What comes of asking for help, in the words behind it. -/
def helpOn : List String → UsageFault
  | [] => .helpAsked
  | [name] => if Setting.top.subcommands.contains name then .helpAsked else .unknownSubcommand
  | _ => .unknownSubcommand

/-- Puts together what was given before and behind the subcommand. -/
def join (before behind : Given Setting) (subcommand : Subcommand) : Invocation :=
  let both := { behind with settings := behind.settings ++ before.settings }
  let config := pick both fun
    | .config path => some path
    | _ => none
  let logFormat := pick both fun
    | .logFormat f => some f
    | _ => none
  let logFile := pick both fun
    | .logFile path => some path
    | _ => none
  { config := config, logFormat := logFormat.getD .text, logFile := logFile
    subcommand := subcommand }

/-- Reads a command line. -/
def ofWords (words : List String) : Except UsageFault Invocation := do
  match ← Setting.top.read {} false words with
  | (before, none) =>
    let before ← before.settle
    if before.settings.isEmpty then .error .nothingGiven else .error .missingSubcommand
  | (before, some (name, words)) =>
    match usageOf name with
    | none => .error (helpOn words)
    | some usage =>
      let (behind, _) ← usage.read {} false words
      let behind ← behind.settle
      let subcommand ← subcommandOf name behind
      let before ← before.settle
      .ok (join before behind subcommand)

end Invocation

end TestFleet
