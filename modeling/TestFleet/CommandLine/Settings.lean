import TestFleet.Server.Setup
import TestFleet.Text.Utf8
import TestFleet.Toml.Parser
import TestFleet.Worker.Shift

/-!
# The settings file

What may be set up once for all subcommands: one group of settings for the queue and one for
workers. Everything has a usual value, and a name that is no setting is an error. A group may also
be an array, which sets its first members.

* `Settings.ofBytes`: reads a file;
* `QueueSettings.setup`, `WorkerSettings.config`: what a server and a worker are started with.
-/

namespace TestFleet

/-- Settings of the queue. Times are in seconds, if their names do not say otherwise. -/
structure QueueSettings where
  bind : SocketAddress := .anywhere
  /-- The version that workers have to speak, if it is not that of this program. -/
  version : Option String := none
  sweepInterval : UInt64 := 5
  silenceThreshold : UInt64 := 30
  maximumInFlight : UInt64 := 900
  bucketsPerWorker : Nat := 1
  checkAgainAfterMillis : UInt64 := 2000
  workersHint : Option Nat := none
  rebalanceInterval : UInt64 := 30
  /-- Whether workers are dealt out to jobs, if no job has workers of its own. -/
  spreadsWorkers : Bool := false
  /-- The workers that jobs have of their own. -/
  workersToUtilize : Directory String (List String) := ∅
  deriving DecidableEq

/-- Settings of workers. -/
structure WorkerSettings where
  queue : Option SocketAddress := none
  worker : Option String := none
  host : Option String := none
  /-- In seconds. -/
  heartbeatInterval : UInt64 := 5
  leavesWhenEmpty : Bool := false
  attempts : Nat := 3
  deriving DecidableEq

structure Settings where
  queue : QueueSettings := {}
  worker : WorkerSettings := {}
  deriving DecidableEq

/-- Why a settings file is of no use. -/
inductive SettingsFault where
  | unreadable
  | malformed
  deriving DecidableEq, Repr

/-- The explanation shown to a user. -/
def SettingsFault.message : SettingsFault → String
  | unreadable => "could not read the config file"
  | malformed => "invalid config file"

/-! ## Reading -/

namespace Toml.Value

/-- The members of a group, by name, of whom `names` lists all in their order. -/
def members? (names : List String) : Value → Option (String → Option Value)
  | table _ fields =>
    if fields.all fun f => names.contains f.1 then some fun name => fields.lookup name else none
  | array items => some fun name => items[names.idxOf name]?
  | tables items => some fun name => (items[names.idxOf name]?).map (.table .header)
  | _ => none

def string? : Value → Option String
  | string s => some s
  | _ => none

def boolean? : Value → Option Bool
  | boolean b => some b
  | _ => none

def natural? : Value → Option Nat
  | integer (.ofNat n) => some n
  | _ => none

def word? (v : Value) : Option UInt64 := v.natural?.map UInt64.ofNat

def positive? (v : Value) : Option Nat := v.natural?.filter (0 < ·)

def address? (v : Value) : Option SocketAddress := v.string? >>= SocketAddress.ofText?

def strings? : Value → Option (List String)
  | array items => items.mapM string?
  | _ => none

/-- A table of lists of strings. -/
def lists? : Value → Option (Directory String (List String))
  | table _ fields =>
    (fields.mapM fun ((name, v) : String × Value) => (strings? v).map (name, ·)).map
      Directory.ofList
  | _ => none

/-- A member of a group, or its usual value if the group does not have it. -/
def setting {α : Type} (member : Option Value) (read : Value → Option α) (usual : α) : Option α :=
  match member with
  | none => some usual
  | some v => read v

end Toml.Value

open Toml.Value (setting)

namespace QueueSettings

/-- The names of the settings. -/
def names : List String := ["bind", "version", "sweep_interval_secs", "silence_threshold_secs",
  "maximum_time_since_dequeue_secs", "max_buckets_per_worker", "check_again_after_ms",
  "number_of_workers_hint", "rebalance_interval_secs", "spread_workers", "workers_to_utilize"]

def ofToml? (v : Toml.Value) : Option QueueSettings := do
  let usual : QueueSettings := {}
  let member ← v.members? names
  some {
    bind := ← setting (member "bind") Toml.Value.address? usual.bind
    version := ← setting (member "version") (·.string?.map some) none
    sweepInterval := ← setting (member "sweep_interval_secs") Toml.Value.word? usual.sweepInterval
    silenceThreshold :=
      ← setting (member "silence_threshold_secs") Toml.Value.word? usual.silenceThreshold
    maximumInFlight :=
      ← setting (member "maximum_time_since_dequeue_secs") Toml.Value.word? usual.maximumInFlight
    bucketsPerWorker :=
      ← setting (member "max_buckets_per_worker") Toml.Value.positive? usual.bucketsPerWorker
    checkAgainAfterMillis :=
      ← setting (member "check_again_after_ms") Toml.Value.word? usual.checkAgainAfterMillis
    workersHint := ← setting (member "number_of_workers_hint") (·.positive?.map some) none
    rebalanceInterval :=
      ← setting (member "rebalance_interval_secs") Toml.Value.word? usual.rebalanceInterval
    spreadsWorkers := ← setting (member "spread_workers") Toml.Value.boolean? false
    workersToUtilize := ← setting (member "workers_to_utilize") Toml.Value.lists? ∅ }

end QueueSettings

namespace WorkerSettings

/-- The names of the settings. -/
def names : List String := ["queue_addr", "worker_id", "host_name", "heartbeat_interval_secs",
  "exit_when_queue_empty", "network_retry_attempts"]

def ofToml? (v : Toml.Value) : Option WorkerSettings := do
  let usual : WorkerSettings := {}
  let member ← v.members? names
  some {
    queue := ← setting (member "queue_addr") (·.address?.map some) none
    worker := ← setting (member "worker_id") (·.string?.map some) none
    host := ← setting (member "host_name") (·.string?.map some) none
    heartbeatInterval :=
      ← setting (member "heartbeat_interval_secs") Toml.Value.word? usual.heartbeatInterval
    leavesWhenEmpty := ← setting (member "exit_when_queue_empty") Toml.Value.boolean? false
    attempts := ← setting (member "network_retry_attempts") Toml.Value.natural? usual.attempts }

end WorkerSettings

namespace Settings

def ofToml? (v : Toml.Value) : Option Settings := do
  let member ← v.members? ["queue", "worker"]
  some {
    queue := ← setting (member "queue") QueueSettings.ofToml? {}
    worker := ← setting (member "worker") WorkerSettings.ofToml? {} }

/-- The settings that a text writes. -/
def ofText? (s : String) : Option Settings :=
  Toml.ofText? s >>= fun fields => ofToml? (.table .header fields)

/-- The settings that a file holds. -/
def ofBytes (bytes : List UInt8) : Except SettingsFault Settings :=
  match Text.ofUtf8? bytes with
  | none => .error .unreadable
  | some s =>
    match ofText? s with
    | none => .error .malformed
    | some settings => .ok settings

/-- The settings of a file that has to be there, unless it is the one at the usual place. -/
def load (isUsual : Bool) (file : Option (List UInt8)) : Except SettingsFault Settings :=
  match file with
  | some bytes => ofBytes bytes
  | none => if isUsual then .ok {} else .error .unreadable

/-- The usual place of the settings file in a user's home directory. -/
def usualPath (home : FilePath) : FilePath := (home.join ".bucketq").join "config.toml"

end Settings

/-! ## What they mean -/

namespace QueueSettings

/-- The workers that jobs have of their own come before a spreading of workers. -/
def assignment (s : QueueSettings) : Option Assignment :=
  if !s.workersToUtilize.isEmpty then
    some (.fixed (Directory.ofList (s.workersToUtilize.entries.map fun (job, workers) =>
      (⟨job⟩, workers.map WorkerId.mk))))
  else if s.spreadsWorkers then some .spread
  else none

/-- What a server is started with. -/
def setup (s : QueueSettings) : ServerSetup where
  address := s.bind
  version := s.version.getD protocolVersion
  dispatcher := {
    maximumInFlight := .ofSeconds s.maximumInFlight
    bucketsPerWorker := s.bucketsPerWorker
    checkAgainAfter := .ofMillis s.checkAgainAfterMillis }
  silence := .ofSeconds s.silenceThreshold
  sweepEvery := .ofSeconds s.sweepInterval
  workersHint := s.workersHint
  rebalanceEvery := .ofSeconds s.rebalanceInterval
  assignment := s.assignment

end QueueSettings

namespace WorkerSettings

/-- What a worker is started with, on a host that may have a name. -/
def config (s : WorkerSettings) (worker : WorkerId) (hostName : Option String) : WorkerConfig where
  id := worker
  host := (s.host.or hostName).getD "localhost"
  heartbeatEvery := .ofSeconds s.heartbeatInterval
  leavesWhenEmpty := s.leavesWhenEmpty
  attempts := s.attempts

end WorkerSettings

end TestFleet
