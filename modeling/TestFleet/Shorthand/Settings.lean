import TestFleet.CommandLine.Settings
import TestFleet.Shorthand.Test

/-!
# A shorthand for settings

Settings under the names that they have in a file, and what servers and workers are started with in
terms of times and pauses.
-/

namespace TestFleet.Shorthand

def address (a : SocketAddress) : Json := .string a.shown

def optionalText (s : Option String) : Json := .ofOption .string s

def optionalNatural (n : Option Nat) : Json := .ofOption .natural n

def word (n : UInt64) : Json := .natural n.toNat

def queueSettings (s : QueueSettings) : Json :=
  .object [
    ("bind", address s.bind),
    ("version", optionalText s.version),
    ("sweep_interval_secs", word s.sweepInterval),
    ("silence_threshold_secs", word s.silenceThreshold),
    ("maximum_time_since_dequeue_secs", word s.maximumInFlight),
    ("max_buckets_per_worker", .natural s.bucketsPerWorker),
    ("check_again_after_ms", word s.checkAgainAfterMillis),
    ("number_of_workers_hint", optionalNatural s.workersHint),
    ("rebalance_interval_secs", word s.rebalanceInterval),
    ("spread_workers", .bool s.spreadsWorkers),
    ("workers_to_utilize",
      .object (s.workersToUtilize.entries.map fun (job, workers) => (job, texts workers)))]

def workerSettings (s : WorkerSettings) : Json :=
  .object [
    ("queue_addr", .ofOption address s.queue),
    ("worker_id", optionalText s.worker),
    ("host_name", optionalText s.host),
    ("heartbeat_interval_secs", word s.heartbeatInterval),
    ("exit_when_queue_empty", .bool s.leavesWhenEmpty),
    ("network_retry_attempts", .natural s.attempts)]

def settings (s : Settings) : Json :=
  .object [("queue", queueSettings s.queue), ("worker", workerSettings s.worker)]

def serverSetup (s : ServerSetup) : Json :=
  .object [
    ("bind", address s.address),
    ("version", .string s.version),
    ("max_time", duration s.dispatcher.maximumInFlight),
    ("max_buckets", .natural s.dispatcher.bucketsPerWorker),
    ("check_again", duration s.dispatcher.checkAgainAfter),
    ("silence", duration s.silence),
    ("sweep", duration s.sweepEvery),
    ("hint", optionalNatural s.workersHint),
    ("rebalance", duration s.rebalanceEvery),
    ("has_service", .bool s.assignment.isSome)]

/-- A worker that asks the queue at an address, with the first of its pauses. -/
def workerConfig (queue : SocketAddress) (c : WorkerConfig) : Json :=
  .object [
    ("queue_addr", address queue),
    ("worker_id", .string c.id.text),
    ("version", .string c.version),
    ("host_name", .string c.host),
    ("heartbeat", duration c.heartbeatEvery),
    ("exit_when_queue_empty", .bool c.leavesWhenEmpty),
    ("check_again", .array ((c.checkAgain.take 9).map duration)),
    ("attempts", .natural c.attempts),
    ("retry", .array ((c.retryPauses.take 6).map duration))]

def preferences (p : Preferences) : Json :=
  .object (p.entries.map fun (job, workers) => (job.text, workerIds workers))

end TestFleet.Shorthand
