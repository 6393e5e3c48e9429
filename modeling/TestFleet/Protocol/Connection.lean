import TestFleet.Protocol.Message
import TestFleet.Protocol.Fault
import TestFleet.Time.Duration

/-!
# Connections to a queue

A connection carries one request at a time and brings its reply, or tells why there is none. What is
at the other end, and the time that passes there, is part of a world that every use of the
connection changes.
-/

namespace TestFleet

/-- A way to a queue in a world of states `σ`. -/
structure Connection (σ : Type) where
  send : Request → σ → Except LinkFault Reply × σ
  /-- Lets time pass. -/
  wait : Duration → σ → σ
  now : σ → Instant

namespace Connection

/-- The connection of a host that has no way to any other. Time passes there all the same. -/
def none : Connection Instant where
  send := fun _ s => (.error .unreachable, s)
  wait := fun d s => s.after d
  now := id

/-- Sends a request, and takes only a reply of the kind that belongs to it. -/
def ask {σ α : Type} (c : Connection σ) (sender : Party) (m : Message) (kind : Reply → Option α)
    (s : σ) : Except LinkFault α × σ :=
  match c.send ⟨sender, m⟩ s with
  | (.error e, s) => (.error e, s)
  | (.ok reply, s) =>
    match kind reply with
    | some a => (.ok a, s)
    | Option.none => (.error .badData, s)

end Connection

end TestFleet
