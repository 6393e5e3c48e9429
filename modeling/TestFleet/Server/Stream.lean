import TestFleet.Server.Handler
import TestFleet.Wire.Frame
import TestFleet.Wire.Message

/-!
# Serving a stream

What the server makes of the bytes that a party sends it: the frame of the reply, or nothing if they
hold no request. The server reads one request from each connection.
-/

namespace TestFleet.Server

/-- Answers the request at the front of a stream: the reply's frame, the events, the server after
it, and what is left of the stream. What is no request changes nothing. What a request does is done
even if the reply is too long to be sent. -/
def answer (s : Server) (now : Instant) (wall : Timestamp) (received : List UInt8) :
    Except LinkFault (List UInt8) × List Event × Server × List UInt8 :=
  match Frame.read Request.reader received with
  | (.error fault, rest) => (.error fault, [], s, rest)
  | (.ok request, rest) =>
    let (reply, events, s) := s.handle now wall request.message
    (Frame.write reply.toJson, events, s, rest)

end TestFleet.Server
