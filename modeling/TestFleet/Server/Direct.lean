import TestFleet.Protocol.Connection
import TestFleet.Server.Handler

/-!
# A server next door

The world of a server and its clock, with a connection that hands requests to the server itself. No
request gets lost on the way, and a nanosecond passes for each.
-/

namespace TestFleet

/-- A server, its clocks, and the events so far. -/
structure Hosted where
  server : Server
  now : Instant := ⟨0⟩
  wall : Timestamp
  events : List Event := []

namespace Hosted

/-- Lets the server answer a message. -/
def handle (h : Hosted) (m : Message) : Reply × Hosted :=
  let now : Instant := ⟨h.now.nanoseconds + 1⟩
  let (reply, events, server) := h.server.handle now h.wall m
  (reply, { h with server := server, now := now, events := h.events ++ events })

/-- The connection to the server next door. -/
def connection : Connection Hosted where
  send := fun request h =>
    let (reply, h) := h.handle request.message
    (.ok reply, h)
  wait := fun d h => { h with now := h.now.after d }
  now := Hosted.now

end Hosted

end TestFleet
