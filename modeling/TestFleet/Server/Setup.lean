import TestFleet.Net.Address
import TestFleet.Server.Handler
import TestFleet.Time.Timer

/-!
# Setting up a server

What a server is started with: where it listens, how its dispatcher works, and how often it takes
stuck buckets back and finds out anew which workers each job prefers.
-/

namespace TestFleet

structure ServerSetup where
  address : SocketAddress := .anywhere
  /-- The version that workers have to speak. -/
  version : String := protocolVersion
  dispatcher : DispatcherConfig := {}
  /-- How long a worker that holds buckets may be quiet. -/
  silence : Duration := .ofSeconds 30
  sweepEvery : Duration := .ofSeconds 5
  /-- How many workers jobs are split for. -/
  workersHint : Option Nat := none
  rebalanceEvery : Duration := .ofSeconds 30
  /-- How jobs come to prefer workers, if they do. -/
  assignment : Option Assignment := none

namespace ServerSetup

/-- The server before its first request. -/
def server (s : ServerSetup) : Server where
  version := s.version
  workersHint := s.workersHint
  dispatcher := Dispatcher.new s.dispatcher s.silence

/-- The timer of the sweeps, if it starts. -/
def sweepTimer? (s : ServerSetup) (now : Instant) : Option Timer := Timer.start? s.sweepEvery now

/-- The timer of the rebalancing, if it starts. -/
def rebalanceTimer? (s : ServerSetup) (now : Instant) : Option Timer :=
  Timer.start? s.rebalanceEvery now

end ServerSetup

end TestFleet
