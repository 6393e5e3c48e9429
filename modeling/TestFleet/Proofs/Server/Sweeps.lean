import TestFleet.Proofs.Queue.Sweeps
import TestFleet.Proofs.Server.Indexes

/-!
# The sweeps of a server

The indexes of a server agree with its queues after every run, so at any time a sweep finds all
buckets that are stuck, and takes back no other.
-/

namespace TestFleet.ServerSetup

/-- After any requests, sweeps and rebalances, a sweep at any time takes back exactly the buckets
that are stuck, and changes nothing else. -/
theorem sweepsExactly_run (setup : ServerSetup) (steps : List Server.Step) (now : Instant) :
    (setup.server.run steps).dispatcher.SweepsExactly now :=
  (setup.indexed_run steps).sweepsExactly now

end TestFleet.ServerSetup
