import TestFleet.Server.Setup
import TestFleet.Server.Stream

/-!
# A running server

Beside answering requests, a running server takes stuck buckets back and finds out anew which
workers each job prefers, each whenever its timer ticks. What has no timer is never done.
-/

namespace TestFleet

structure RunningServer where
  server : Server
  /-- When stuck buckets are taken back. -/
  sweeps : Option Timer
  /-- How jobs come to prefer workers, and when that is found out anew. -/
  rebalancing : Option (Assignment × Timer)

/-- The server that a setup starts. -/
def ServerSetup.start (s : ServerSetup) (now : Instant) : RunningServer where
  server := s.server
  sweeps := s.sweepTimer? now
  rebalancing := s.assignment.bind fun a => (s.rebalanceTimer? now).map (a, ·)

namespace RunningServer

/-- Takes stuck buckets back, if it is time to. -/
def sweep (r : RunningServer) (now : Instant) : List Event × RunningServer :=
  match r.sweeps.bind (·.tick? now) with
  | none => ([], r)
  | some timer =>
    let (events, server) := r.server.sweep now
    (events, { r with server := server, sweeps := some timer })

/-- Finds out anew which workers each job prefers, if it is time to. -/
def rebalance (r : RunningServer) (now : Instant) : RunningServer :=
  match r.rebalancing.bind fun (a, timer) => (timer.tick? now).map (a, ·) with
  | none => r
  | some (a, timer) => { r with server := r.server.rebalance a, rebalancing := some (a, timer) }

/-- Does what it is time for, and then answers the request at the front of a stream, if there is
one: the reply's frame, the events, the server after it, and what is left of the stream. -/
def answer (r : RunningServer) (now : Instant) (wall : Timestamp) (received : List UInt8) :
    Except LinkFault (List UInt8) × List Event × RunningServer × List UInt8 :=
  let (swept, r) := r.sweep now
  let r := r.rebalance now
  let (sent, events, server, rest) := r.server.answer now wall received
  (sent, swept ++ events, { r with server := server }, rest)

end RunningServer

end TestFleet
