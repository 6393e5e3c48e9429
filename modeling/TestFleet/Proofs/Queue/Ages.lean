import TestFleet.Proofs.Queue.Queues

/-!
# The ages of jobs

Every job has a place in the order in which jobs were created that no other live job has, and keeps
its place and its priority for as long as it lives.

* `Aged`: places are different, and the next job comes last;
* `Kept`: what an operation that creates no job leaves of the live jobs;
* `Aged.run`: the places are different after every run.
-/

namespace TestFleet.Dispatcher

/-- No two live jobs have one place in the order of creation, and the next job comes last. -/
structure Aged (d : Dispatcher) : Prop where
  below : ∀ j job, d.jobs.get? j = some job → job.sequence < d.nextSequence
  distinct : ∀ j k job other, d.jobs.get? j = some job → d.jobs.get? k = some other →
    job.sequence = other.sequence → j = k

/-- The live jobs of `d'` were live in `d` with the same place and priority, and no job was
created. -/
structure Kept (d d' : Dispatcher) : Prop where
  next : d'.nextSequence = d.nextSequence
  jobs : ∀ j job', d'.jobs.get? j = some job' → ∃ job, d.jobs.get? j = some job ∧
    job'.sequence = job.sequence ∧ job'.priority = job.priority

variable {d d' d'' : Dispatcher} {j : JobId}

namespace Kept

theorem of_jobs_eq (jobs : d'.jobs = d.jobs) (next : d'.nextSequence = d.nextSequence) :
    Kept d d' where
  next := next
  jobs _ job' live := ⟨job', jobs ▸ live, rfl, rfl⟩

theorem trans (first : Kept d d') (second : Kept d' d'') : Kept d d'' where
  next := second.next.trans first.next
  jobs j job'' live := by
    obtain ⟨job', live', sequence', priority'⟩ := second.jobs j job'' live
    obtain ⟨job, live, sequence, priority⟩ := first.jobs j job' live'
    exact ⟨job, live, sequence'.trans sequence, priority'.trans priority⟩

/-- Changing the queue of a job leaves its place and priority. -/
theorem withQueue (d : Dispatcher) (j : JobId) (q : JobQueue) : Kept d (d.withQueue j q) where
  next := rfl
  jobs k job' live := by
    by_cases e : k = j
    · subst e
      rw [Dispatcher.withQueue, Directory.get?_modify_self, Option.map_eq_some_iff] at live
      obtain ⟨job, live, rfl⟩ := live
      exact ⟨job, live, rfl, rfl⟩
    · rw [get?_withQueue_of_ne e] at live
      exact ⟨job', live, rfl, rfl⟩

theorem forget (d : Dispatcher) (j : JobId) (q : JobQueue) : Kept d (d.forget j q) where
  next := rfl
  jobs k job' live := by
    by_cases e : k = j
    · rw [Dispatcher.forget, e, Directory.get?_erase_self] at live
      cases live
    · rw [Dispatcher.forget, Directory.get?_erase_of_ne _ e] at live
      exact ⟨job', live, rfl, rfl⟩

/-- Every operation but the one that brings in work keeps the jobs. -/
theorem perform (orderly : d.Orderly) {op : Operation}
    (other : ∀ j buckets priority now, op ≠ .enqueue j buckets priority now) :
    Kept d (d.perform op) := by
  cases op with
  | enqueue j buckets priority now => exact absurd rfl (other j buckets priority now)
  | dequeue w now clock =>
    rw [Dispatcher.perform]
    generalize outcome : d.dequeue w now clock = answer
    cases outcome ▸ d.dequeue_cases orderly w now clock with
    | nothing => exact of_jobs_eq rfl rfl
    | bucket => exact (withQueue d _ _).trans (of_jobs_eq rfl rfl)
  | accept b w report now wall =>
    rw [Dispatcher.perform]
    generalize outcome : d.accept b w report now wall = answer
    cases outcome ▸ d.accept_cases b w report now wall with
    | rejected => exact of_jobs_eq rfl rfl
    | @accepted j job a q =>
      refine (withQueue d j q).trans (of_jobs_eq (settled_jobs ..) ?_)
      rw [settled]
      cases a.retry <;> rfl
  | reclaim now =>
    exact reclaim_induction (P := Kept d) (fun _ h => h.trans (of_jobs_eq rfl rfl))
      (fun d' j job h _ => h.trans ((withQueue d' j _).trans (of_jobs_eq rfl rfl)))
      (of_jobs_eq rfl rfl)
  | delete j =>
    rw [Dispatcher.perform]
    rcases d.delete_cases j with ⟨e, same⟩ | ⟨job, -, -, removed⟩
    · rw [same]
      exact of_jobs_eq rfl rfl
    · rw [removed]
      exact forget d j job.queue
  | cancel j =>
    rw [Dispatcher.perform]
    rcases d.cancel_cases j with ⟨-, e, same⟩ | ⟨job, -, removed⟩
    · rw [same]
      exact of_jobs_eq rfl rfl
    · rw [removed]
      exact (of_jobs_eq rfl rfl : Kept d (d.withRoster _)).trans (forget _ j job.queue)
  | rebalance => exact of_jobs_eq rfl rfl
  | prefer => exact of_jobs_eq rfl rfl
  | roster => exact of_jobs_eq rfl rfl

end Kept

namespace Aged

theorem kept (h : d.Aged) (kept : Kept d d') : d'.Aged := by
  refine ⟨fun j job' live' => ?_, fun j k job' other' live' live'' same => ?_⟩
  · obtain ⟨job, live, sequence, -⟩ := kept.jobs j job' live'
    rw [sequence, kept.next]
    exact h.below j job live
  · obtain ⟨job, live, sequence, -⟩ := kept.jobs j job' live'
    obtain ⟨other, otherLive, sequence', -⟩ := kept.jobs k other' live''
    exact h.distinct j k job other live otherLive
      (sequence.symm.trans (same.trans sequence'))

/-- A job that is new gets the next place. -/
theorem jobFor (h : d.Aged) (j : JobId) (priority : JobPriority) :
    (d.jobFor j priority).2.Aged := by
  cases live : d.jobs.get? j with
  | some job =>
    rw [jobFor_of_live live]
    exact h
  | none =>
    rw [jobFor_of_new live]
    have older (k : JobId) (job : Job) (hk : k ≠ j)
        (live : (d.jobs.insert j ⟨priority, d.nextSequence, .empty⟩).get? k = some job) :
        d.jobs.get? k = some job := by
      rwa [Directory.get?_insert_of_ne _ _ hk] at live
    have youngest (job : Job)
        (live : (d.jobs.insert j ⟨priority, d.nextSequence, .empty⟩).get? j = some job) :
        job.sequence = d.nextSequence := by
      rw [Directory.get?_insert_self] at live
      cases live
      rfl
    refine ⟨fun k job live => ?_, fun k l job other live live' same => ?_⟩
    · by_cases hk : k = j
      · subst hk
        have := youngest job live
        show job.sequence < d.nextSequence + 1
        omega
      · exact Nat.lt_succ_of_lt (h.below k job (older k job hk live))
    · by_cases hk : k = j
      · by_cases hl : l = j
        · rw [hk, hl]
        · subst hk
          have := youngest job live
          have := h.below l other (older l other hl live')
          omega
      · by_cases hl : l = j
        · subst hl
          have := youngest other live'
          have := h.below k job (older k job hk live)
          omega
        · exact h.distinct k l job other (older k job hk live) (older l other hl live') same

theorem enqueued (h : d.Aged) (j : JobId) (buckets : List Bucket) (priority : JobPriority)
    (now : Instant) : (d.enqueued j buckets priority now).Aged := by
  have live : (d.jobFor j priority).2.jobs.get? j = some (d.jobFor j priority).1 := by
    cases live : d.jobs.get? j with
    | some job =>
      rw [jobFor_of_live live]
      exact live
    | none =>
      rw [jobFor_of_new live]
      exact Directory.get?_insert_self _ _ _
  refine (h.jobFor j priority).kept ⟨rfl, fun k job' live' => ?_⟩
  rw [Dispatcher.enqueued] at live'
  dsimp only at live'
  by_cases e : k = j
  · subst e
    rw [Directory.get?_insert_self] at live'
    cases live'
    exact ⟨_, live, rfl, rfl⟩
  · rw [Directory.get?_insert_of_ne _ _ e] at live'
    exact ⟨job', live', rfl, rfl⟩

theorem perform (h : d.Aged) (orderly : d.Orderly) (op : Operation) : (d.perform op).Aged := by
  cases op with
  | enqueue j buckets priority now =>
    rw [Dispatcher.perform]
    rcases d.enqueue_cases j buckets priority now with ⟨e, same⟩ | ⟨-, -, -, added⟩
    · rw [same]
      exact h
    · rw [added]
      exact h.enqueued j buckets priority now
  | _ => exact h.kept (Kept.perform orderly fun _ _ _ _ same => by cases same)

theorem run (h : d.Aged) (orderly : d.Orderly) (ops : List Operation) : (d.run ops).Aged := by
  induction ops generalizing d with
  | nil => exact h
  | cons op ops ih => exact ih (h.perform orderly op) (orderly.perform (admitted_of_forall op))

end Aged

theorem aged_new (config : DispatcherConfig) (silence : Duration) : (new config silence).Aged :=
  ⟨nofun, nofun⟩

end TestFleet.Dispatcher
