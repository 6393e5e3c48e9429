import TestFleet.Proofs.Queue.Queues
import TestFleet.Proofs.Queue.Retries

/-!
# No bucket lists an entry twice

As long as no bucket that is enqueued lists an entry twice, no bucket that a queue holds does, those
that run failed tests again included.

* `JobQueue.Distinct`: no bucket that a queue holds lists an entry twice;
* `JobQueue.Distinct.perform`, `JobQueue.Distinct.run`: operations keep it so;
* `Dispatcher.Composed.distinct`: so it is in all live jobs.
-/

namespace TestFleet

namespace JobQueue

/-- No bucket that the queue holds lists an entry twice. -/
def Distinct (q : JobQueue) : Prop := ∀ b, q.Holds b → b.entries.Nodup

theorem distinct_empty : empty.Distinct := fun b held => absurd held (not_holds_empty b)

namespace Distinct

variable {q q' : JobQueue} {gone : List BucketId}

/-- The tests that run again are some of those of the bucket they failed in. -/
theorem accept (h : q.Distinct) (placed : q.Placed gone) {b : BucketId} {w : WorkerId}
    {report : BucketReport} {now : Instant} {wall : Timestamp} {a : Acceptance}
    (ok : q.accept b w report now wall = .ok (a, q')) : q'.Distinct := by
  obtain ⟨inFlight, -, -, reported⟩ := of_accept_ok ok
  have old (c : Bucket) (held : (q.settled b).Holds c) : c.entries.Nodup :=
    h c (placed.holds_settled (Directory.mem_keys.2 ⟨a.taken, inFlight⟩) held).1
  cases reported with
  | final => exact old
  | again failed entries =>
    have all : a.taken.bucket.entries.Nodup := h _ (.inr ⟨b, a.taken, inFlight, rfl⟩)
    rintro c (⟨d, hd, rfl⟩ | flies)
    · rcases List.mem_cons.1 hd with rfl | hd
      · exact (entries.nodup_iff.2 all).of_append_right
      · exact old d.bucket (.inl ⟨d, hd, rfl⟩)
    · exact old c (.inr flies)

theorem perform (h : q.Distinct) (placed : q.Placed gone) {op : Operation}
    (admitted : op.Admitted fun buckets => ∀ b ∈ buckets, b.entries.Nodup) :
    (q.perform op).Distinct := by
  cases op with
  | enqueue buckets now =>
    rw [JobQueue.perform]
    cases ok : q.enqueue buckets now with
    | error => exact h
    | ok q' =>
      obtain ⟨-, -, rfl⟩ := enqueue_eq_ok_iff.1 ok
      exact fun c held => (holds_appended held).elim (h c) (admitted c)
  | dequeue w now => exact fun c held => h c (placed.holds_dequeue held)
  | accept b w report now wall =>
    rw [JobQueue.perform]
    cases ok : q.accept b w report now wall with
    | error => exact h
    | ok accepted => exact h.accept placed ok
  | reclaim roster maximum now => exact fun c held => h c (placed.holds_reclaim held)
  | cancel => exact fun c held => absurd held (not_holds_cancel c)

theorem run (h : q.Distinct) (placed : q.Placed gone) {ops : List Operation}
    (admitted : ∀ op ∈ ops, op.Admitted fun buckets => ∀ b ∈ buckets, b.entries.Nodup) :
    (q.run ops).Distinct := by
  induction ops generalizing q gone with
  | nil => exact h
  | cons op ops ih =>
    obtain ⟨first, rest⟩ := List.forall_mem_cons.1 admitted
    exact ih (h.perform placed first) (placed.perform op) rest

end Distinct

end JobQueue

theorem Dispatcher.Composed.distinct {d : Dispatcher}
    (h : d.Composed fun _ buckets => ∀ b ∈ buckets, b.entries.Nodup) (j : JobId) :
    (d.queueOf j).Distinct := by
  obtain ⟨ops, admitted, run⟩ := h.queueOf j
  rw [run]
  exact JobQueue.distinct_empty.run JobQueue.placed_empty admitted

end TestFleet
