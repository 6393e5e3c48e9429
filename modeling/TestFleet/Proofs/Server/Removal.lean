import TestFleet.Proofs.Server.Indexes

/-!
# Removed jobs

A job that is deleted or cancelled leaves nothing behind: no owner of a bucket, no bucket with a
worker, no result and no preference, so its buckets may be enqueued anew. Nothing else changes, as
the buckets that the job knows are no other job's. A removal that fails changes nothing at all.

* `Without`: a dispatcher as it was, but for one job of which nothing is left;
* `Indexed.without_forget`: the dispatcher that has forgotten a job;
* `DeletesCleanly`, `CancelsCleanly`: all that deleting and cancelling a job do;
* `removesCleanly_run`: they do so after every run of a server.
-/

namespace TestFleet

namespace Dispatcher

variable {d d' : Dispatcher} {j k : JobId} {b : BucketId} {w : WorkerId}

/-! ## Forgetting a job -/

/-- The dispatcher `d'` is what `d` was without the job `j`. Nothing is left of the job: reports on
its buckets are rejected, and any of them, each once, may be enqueued to any job. Other jobs are
what they were, and a report on a bucket of theirs is answered as before. -/
structure Without (d : Dispatcher) (j : JobId) (d' : Dispatcher) : Prop where
  notLive : d'.jobs.get? j = none
  unowned : ∀ b, d'.owners.get? b ≠ some j
  results : d'.ledger.jobs.get? j = none
  preferences : d'.preferences.get? j = none
  owners : ∀ b, d'.owners.get? b =
    if b ∈ (d.queueOf j).known.keys then none else d.owners.get? b
  held : ∀ w b, b ∈ d'.roster.held w ↔ b ∈ d.roster.held w ∧ b ∉ (d.queueOf j).known.keys
  rejected : ∀ b ∈ (d.queueOf j).known.keys, ∀ w report now wall,
    (d'.accept b w report now wall).1 = .error .bucketNotFound
  again : ∀ buckets : List Bucket, (∀ b ∈ buckets.map (·.id), b ∈ (d.queueOf j).known.keys) →
    (buckets.map (·.id)).Nodup → ∀ k priority now, (d'.enqueue k buckets priority now).1 = .ok ()
  others : ∀ k, k ≠ j → d'.jobs.get? k = d.jobs.get? k ∧
    d'.ledger.jobs.get? k = d.ledger.jobs.get? k ∧ d'.preferences.get? k = d.preferences.get? k
  routed : ∀ b, b ∉ (d.queueOf j).known.keys → ∀ w report now wall,
    (d'.accept b w report now wall).1 = (d.accept b w report now wall).1 ∧
    (d'.accept b w report now wall).2.1 = (d.accept b w report now wall).2.1
  rest : d'.config = d.config ∧ d'.nextSequence = d.nextSequence

theorem accept_of_not_owned (none : d.owners.get? b = none) (w : WorkerId) (report : BucketReport)
    (now : Instant) (wall : Timestamp) :
    d.accept b w report now wall = d.reject b w .bucketNotFound now := by
  rw [accept, none]

/-- The answer to a report depends on the job that the bucket belongs to. -/
theorem accept_congr (owners : d'.owners.get? b = d.owners.get? b)
    (jobs : ∀ k, d.owners.get? b = some k → d'.jobs.get? k = d.jobs.get? k) (w : WorkerId)
    (report : BucketReport) (now : Instant) (wall : Timestamp) :
    (d'.accept b w report now wall).1 = (d.accept b w report now wall).1 ∧
    (d'.accept b w report now wall).2.1 = (d.accept b w report now wall).2.1 := by
  rw [accept, accept, owners]
  cases owner : d.owners.get? b with
  | none => exact ⟨rfl, rfl⟩
  | some k =>
    dsimp only
    rw [jobs k owner]
    cases d.jobs.get? k with
    | none => exact ⟨rfl, rfl⟩
    | some job =>
      dsimp only
      cases job.queue.accept b w report now wall <;> exact ⟨rfl, rfl⟩

theorem get?_owners_forget (d : Dispatcher) (j : JobId) (q : JobQueue) (b : BucketId) :
    (d.forget j q).owners.get? b = if b ∈ q.known.keys then none else d.owners.get? b := by
  rw [forget]
  split
  · rename_i known
    exact Directory.get?_foldl_erase_of_mem _ _ known
  · rename_i unknown
    exact Directory.get?_foldl_erase_of_not_mem _ _ unknown

/-- What workers hold once a job is gone is what they held, but for the buckets of the job. -/
theorem Indexed.held_forget (h : d.Indexed) (h' : d'.Indexed)
    (gone : d'.queueOf j = .empty) (others : ∀ k, k ≠ j → d'.queueOf k = d.queueOf k) :
    b ∈ d'.roster.held w ↔ b ∈ d.roster.held w ∧ b ∉ (d.queueOf j).known.keys := by
  rw [h'.held, h.held]
  constructor
  · rintro ⟨k, f, inFlight, worker⟩
    by_cases e : k = j
    · rw [e, gone] at inFlight
      cases inFlight
    · rw [others k e] at inFlight
      refine ⟨⟨k, f, inFlight, worker⟩, fun known => e ?_⟩
      exact h.eq_of_known known (h.known_of_inFlight (Directory.mem_keys.2 ⟨f, inFlight⟩))
  · rintro ⟨⟨k, f, inFlight, worker⟩, unknown⟩
    have other : k ≠ j := fun e =>
      unknown (e ▸ h.known_of_inFlight (Directory.mem_keys.2 ⟨f, inFlight⟩))
    exact ⟨k, f, by rwa [others k other], worker⟩

/-- The indexes are right before and after the dispatcher forgets a job: nothing is left of it. -/
theorem Indexed.without_forget (h : d.Indexed) {job : Job} (live : d.jobs.get? j = some job)
    {r : Roster} (h' : ({ d with roster := r }.forget j job.queue).Indexed) :
    d.Without j ({ d with roster := r }.forget j job.queue) := by
  have notLive : ({ d with roster := r }.forget j job.queue).jobs.get? j = none :=
    Directory.get?_erase_self _ j
  have gone := queueOf_forget_self { d with roster := r } j job.queue
  have others (k : JobId) (e : k ≠ j) :
      ({ d with roster := r }.forget j job.queue).jobs.get? k = d.jobs.get? k :=
    Directory.get?_erase_of_ne _ e
  have owners (b : BucketId) : ({ d with roster := r }.forget j job.queue).owners.get? b =
      if b ∈ (d.queueOf j).known.keys then none else d.owners.get? b :=
    queueOf_of_live live ▸ get?_owners_forget { d with roster := r } j job.queue b
  have notOwned {b : BucketId} (known : b ∈ (d.queueOf j).known.keys) :
      ({ d with roster := r }.forget j job.queue).owners.get? b = none :=
    (owners b).trans (if_pos known)
  refine ⟨notLive, fun b owned => ?_, Directory.get?_erase_self _ j, Directory.get?_erase_self _ j,
    owners, fun w b => h.held_forget h' gone fun k e => queueOf_congr (others k e),
    fun b known w report now wall => ?_, fun buckets known nodup k priority now => ?_,
    fun k e => ⟨others k e, Directory.get?_erase_of_ne _ e, Directory.get?_erase_of_ne _ e⟩,
    fun b unknown w report now wall => ?_, rfl, rfl⟩
  · have known := (h'.owners b j).1 owned
    rw [gone] at known
    cases known
  · rw [accept_of_not_owned (notOwned known)]
    rfl
  · rw [h'.enqueue_of_fresh (fun b hb => ?_) nodup k priority now]
    exact Directory.get?_eq_none_iff.1 (notOwned (known b hb))
  · refine accept_congr ((owners b).trans (if_neg unknown)) (fun k owner => others k ?_) w report
      now wall
    rintro rfl
    exact unknown ((h.owners b k).1 owner)

/-! ## Removing a job -/

theorem delete_of_none (notLive : d.jobs.get? j = none) :
    d.delete j = (.error (.notFound j), [], d) := by
  rw [delete, notLive]

theorem delete_of_busy {job : Job} (live : d.jobs.get? j = some job)
    (busy : job.queue.isDepleted = false) : d.delete j = (.error (.bucketsStillInFlight j
      job.queue.enqueuedCount job.queue.dequeuedCount), [], d) := by
  rw [delete, live]
  simp [busy]

theorem cancel_of_none (notLive : d.jobs.get? j = none) :
    d.cancel j = (.error (.notFound j), [], d) := by
  rw [cancel, notLive]

/-- What deleting a job does. A job that is not live is not found, and one that still has work is
not deleted; nothing changes then. Otherwise the job is gone without a trace. -/
structure DeletesCleanly (d : Dispatcher) (j : JobId) : Prop where
  stillInFlight : ∀ k enqueued dequeued,
    (d.delete j).1 = .error (.bucketsStillInFlight k enqueued dequeued) ↔
      ∃ job, d.jobs.get? j = some job ∧ job.queue.isDepleted = false ∧ k = j ∧
        enqueued = job.queue.waiting.length ∧ dequeued = job.queue.inFlight.size
  notFound : ∀ k, (d.delete j).1 = .error (.notFound k) ↔ d.jobs.get? j = none ∧ k = j
  unchanged : ∀ e, (d.delete j).1 = .error e → (d.delete j).2 = ([], d)
  deleted : (d.delete j).1 = .ok () → d.Without j (d.delete j).2.2

/-- What cancelling a job does. A job that is not live is not found, and nothing changes. Otherwise
the job is gone without a trace, and who cancelled it is told which of its buckets were in
flight. -/
structure CancelsCleanly (d : Dispatcher) (j : JobId) : Prop where
  notFound : ∀ e, (d.cancel j).1 = .error e ↔ d.jobs.get? j = none ∧ e = .notFound j
  unchanged : ∀ e, (d.cancel j).1 = .error e → (d.cancel j).2 = ([], d)
  cancelled : ∀ taken, (d.cancel j).1 = .ok taken →
    taken = (d.queueOf j).inFlight.values ∧ d.Without j (d.cancel j).2.2

theorem deletesCleanly_of_none (notLive : d.jobs.get? j = none) : d.DeletesCleanly j := by
  have deletes := delete_of_none notLive
  refine ⟨fun k m n => ?_, fun k => ?_, fun e _ => by rw [deletes], fun ok => ?_⟩
  · simp [deletes, notLive]
  · simp [deletes, notLive, eq_comm]
  · rw [deletes] at ok
    cases ok

theorem deletesCleanly_of_busy {job : Job} (live : d.jobs.get? j = some job)
    (busy : job.queue.isDepleted = false) : d.DeletesCleanly j := by
  have deletes := delete_of_busy live busy
  refine ⟨fun k m n => ?_, fun k => ?_, fun e _ => by rw [deletes], fun ok => ?_⟩
  · rw [deletes]
    constructor
    · rintro ⟨⟩
      exact ⟨job, live, busy, rfl, rfl, rfl⟩
    · rintro ⟨job', live', -, rfl, rfl, rfl⟩
      rw [live] at live'
      cases live'
      rfl
  · simp [deletes, live]
  · rw [deletes] at ok
    cases ok

theorem Indexed.deletesCleanly_of_depleted (h : d.Indexed) {job : Job}
    (live : d.jobs.get? j = some job) (depleted : job.queue.isDepleted = true) :
    d.DeletesCleanly j := by
  have deletes := delete_of_depleted live depleted
  refine ⟨fun k m n => ?_, fun k => ?_, fun e failed => ?_, fun _ => ?_⟩
  · simp [deletes, live, depleted]
  · simp [deletes, live]
  · rw [deletes] at failed
    cases failed
  · rw [deletes]
    exact h.without_forget live (r := d.roster) (h.deleted live depleted)

/-- Where the indexes agree with the queues, a job is deleted without a trace. -/
theorem Indexed.deletesCleanly (h : d.Indexed) (j : JobId) : d.DeletesCleanly j := by
  cases live : d.jobs.get? j with
  | none => exact deletesCleanly_of_none live
  | some job =>
    cases depleted : job.queue.isDepleted with
    | false => exact deletesCleanly_of_busy live depleted
    | true => exact h.deletesCleanly_of_depleted live depleted

/-- Where the indexes agree with the queues, a job is cancelled without a trace. -/
theorem Indexed.cancelsCleanly (h : d.Indexed) (j : JobId) : d.CancelsCleanly j := by
  rcases d.cancel_cases j with ⟨notLive, -⟩ | ⟨job, live, cancels⟩
  · have cancels := cancel_of_none notLive
    refine ⟨fun e => ?_, fun e _ => by rw [cancels], fun taken ok => ?_⟩
    · simp [cancels, notLive, eq_comm]
    · rw [cancels] at ok
      cases ok
  · refine ⟨fun e => ?_, fun e failed => ?_, fun taken ok => ?_⟩
    · simp [cancels, live]
    · rw [cancels] at failed
      cases failed
    · rw [cancels] at ok ⊢
      cases ok
      exact ⟨by rw [queueOf_of_live live], h.without_forget live (h.cancelled live)⟩

end Dispatcher

namespace ServerSetup

/-- After any requests, sweeps and rebalances, deleting or cancelling a job fails and changes
nothing, or removes the job without a trace and touches no other. -/
theorem removesCleanly_run (setup : ServerSetup) (steps : List Server.Step) (j : JobId) :
    (setup.server.run steps).dispatcher.DeletesCleanly j ∧
      (setup.server.run steps).dispatcher.CancelsCleanly j :=
  ⟨(setup.indexed_run steps).deletesCleanly j, (setup.indexed_run steps).cancelsCleanly j⟩

end ServerSetup

end TestFleet
