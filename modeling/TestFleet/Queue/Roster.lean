import TestFleet.Queue.Liveness
import TestFleet.Time.Duration

/-!
# The roster of workers

The roster holds every worker that the queue has heard of: its standing, the buckets it holds, and
when it last showed a sign of life. Signs of life are registering, being unblocked, taking a
bucket, reporting on one, and heartbeats; each of them brings a silent worker back. Taking a bucket
away from a worker is none. A worker that is blocked stays so until it is unblocked.
-/

namespace TestFleet

/-- The standing of a worker on the roster. -/
inductive Standing where
  | registering
  | alive
  | silent
  | blocked
  deriving DecidableEq, Repr

/-- What the roster knows of a worker. -/
structure WorkerRecord where
  standing : Standing
  /-- The buckets that the worker holds. -/
  buckets : Directory BucketId Unit
  lastActivity : Instant
  deriving DecidableEq

namespace WorkerRecord

/-- The record of a worker heard of for the first time. -/
def new (standing : Standing) (now : Instant) : WorkerRecord := ⟨standing, ∅, now⟩

/-- Notes a sign of life. -/
def touch (now : Instant) (w : WorkerRecord) : WorkerRecord :=
  { w with
    lastActivity := now
    standing := if w.standing = .silent then .alive else w.standing }

/-- The liveness of a worker with this record. -/
def liveness (w : WorkerRecord) : Liveness :=
  match w.standing with
  | .registering => .registering
  | .alive => .alive
  | .silent => .silent w.buckets.keys
  | .blocked => .blocked

end WorkerRecord

/-- All workers that the queue has heard of. -/
structure Roster where
  /-- How long a worker that holds buckets may stay quiet. -/
  threshold : Duration
  workers : Directory WorkerId WorkerRecord

namespace Roster

/-- A roster without workers. -/
def new (threshold : Duration) : Roster := ⟨threshold, ∅⟩

/-- Changes the record of a worker, if there is one. -/
def modify (r : Roster) (w : WorkerId) (f : WorkerRecord → WorkerRecord) : Roster :=
  { r with workers := r.workers.modify w f }

/-- Sets the record of a worker to what `f` makes of the present one, or of a new one of the given
standing. -/
def enter (r : Roster) (w : WorkerId) (standing : Standing) (now : Instant)
    (f : WorkerRecord → WorkerRecord) : Roster :=
  { r with workers := r.workers.insert w (f ((r.workers.get? w).getD (.new standing now))) }

/-- Clears a worker for work, unless it is blocked. -/
def register (r : Roster) (w : WorkerId) (now : Instant) : Roster :=
  r.enter w .alive now fun s =>
    if s.standing = .blocked then s else { s with standing := .alive, lastActivity := now }

/-- Notes that a worker has announced itself, unless it is blocked. It gets no work yet. -/
def beginRegistration (r : Roster) (w : WorkerId) (now : Instant) : Roster :=
  r.enter w .registering now fun s =>
    if s.standing = .blocked then s else { s with standing := .registering }

/-- Notes that a worker was handed a bucket. -/
def didDequeue (r : Roster) (w : WorkerId) (b : BucketId) (now : Instant) : Roster :=
  r.modify w fun s => { s with buckets := s.buckets.insert b () }.touch now

/-- Notes that a worker reported on a bucket. -/
def didReceive (r : Roster) (w : WorkerId) (b : BucketId) (now : Instant) : Roster :=
  r.modify w fun s => { s with buckets := s.buckets.erase b }.touch now

/-- Notes a sign of life. -/
def setAlive (r : Roster) (w : WorkerId) (now : Instant) : Roster :=
  r.modify w (·.touch now)

/-- Keeps a worker from getting work. The buckets it holds stay noted until they are taken back. -/
def block (r : Roster) (w : WorkerId) (now : Instant) : Roster :=
  r.enter w .blocked now fun s => { s with standing := .blocked }

/-- Clears a blocked worker for work. -/
def unblock (r : Roster) (w : WorkerId) (now : Instant) : Roster :=
  r.modify w fun s =>
    if s.standing = .blocked then { s with standing := .alive, lastActivity := now } else s

/-- Marks a worker silent, unless it is blocked. -/
def markSilent (r : Roster) (w : WorkerId) : Roster :=
  r.modify w fun s =>
    if s.standing = .alive ∨ s.standing = .registering then { s with standing := .silent } else s

/-- Whether a worker is alive and holds buckets, and was quiet for longer than allowed. -/
def isQuiet (r : Roster) (now : Instant) (s : WorkerRecord) : Bool :=
  s.standing = .alive && !s.buckets.isEmpty && now.isBeyond s.lastActivity r.threshold

/-- The workers that were quiet for longer than allowed. -/
def quietWorkers (r : Roster) (now : Instant) : List WorkerId :=
  (r.workers.filter fun _ s => r.isQuiet now s).keys

/-- Marks silent the workers that were quiet for longer than allowed. -/
def markQuietSilent (r : Roster) (now : Instant) : Roster :=
  { r with workers := r.workers.mapValues fun _ s =>
      if r.isQuiet now s then { s with standing := .silent } else s }

/-- Notes that a bucket was taken away from a worker. -/
def release (r : Roster) (w : WorkerId) (b : BucketId) : Roster :=
  r.modify w fun s => { s with buckets := s.buckets.erase b }

/-- The liveness of a worker. -/
def liveness (r : Roster) (w : WorkerId) : Liveness :=
  match r.workers.get? w with
  | some s => s.liveness
  | none => .notRegistered

/-- The liveness of all workers. -/
def livenesses (r : Roster) : Directory WorkerId Liveness :=
  r.workers.mapValues fun _ s => s.liveness

/-- The buckets that a worker holds, in order. -/
def held (r : Roster) (w : WorkerId) : List BucketId :=
  match r.workers.get? w with
  | some s => s.buckets.keys
  | none => []

/-- The workers that may be handed work, in order. -/
def usable (r : Roster) : List WorkerId :=
  (r.workers.filter fun _ s => s.standing = .alive || s.standing = .silent).keys

end Roster

end TestFleet
