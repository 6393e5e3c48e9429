import TestFleet.CommandLine.Arguments
import TestFleet.Shorthand.Settings

/-!
# A shorthand for command lines

A command line as it was read, with what it leaves out filled in where there is a usual value.
-/

namespace TestFleet.Shorthand

def optionalAddress (a : Option SocketAddress) : Json := .ofOption address a

def workerCount : WorkerCount → Json
  | .perCore => .string WorkerCount.perCoreText
  | .fixed n => .natural n

def logFormat : LogFormat → Json
  | .text => .string "Text"
  | .json => .string "Json"

def subcommand : Subcommand → String × List (String × Json)
  | .start bind workers buckets => ("start", [
      ("bind", optionalAddress bind),
      ("number_of_workers", optionalNatural workers),
      ("max_buckets_per_worker", optionalNatural buckets)])
  | .work a => ("work", [
      ("queue_addr", optionalAddress a.queue),
      ("worker_id", optionalText (a.worker.map (·.text))),
      ("num", workerCount a.count),
      ("exit_when_queue_empty", .bool a.leavesWhenEmpty),
      ("runner_command", texts a.runner)])
  | .submit a => ("submit", [
      ("queue_addr", optionalAddress a.queue),
      ("job_id", optionalText (a.job.map (·.text))),
      ("priority", .natural a.priority.rank.toNat),
      ("strategy", .string a.strategy.shown),
      ("tests", .string a.tests),
      ("wait", .bool a.waits)])
  | .status queue job => ("status", [
      ("queue_addr", optionalAddress queue),
      ("job_id", .string job.text)])
  | .aliveness queue => ("aliveness", [("queue_addr", optionalAddress queue)])

def invocation (i : Invocation) : Json :=
  let (name, fields) := subcommand i.subcommand
  .object [
    ("config", optionalText i.config),
    ("log_file", optionalText i.logFile),
    ("log_format", logFormat i.logFormat),
    ("command", .object [(name, .object fields)])]

end TestFleet.Shorthand
