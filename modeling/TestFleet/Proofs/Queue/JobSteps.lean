import TestFleet.Proofs.Queue.Sweeps
import TestFleet.Proofs.Queue.Courses

/-!
# What the dispatcher does to one job

The dispatcher as one job sees it. An operation does one thing to the queue of a job, or nothing at
all, and posts the events that say so; whatever else it does and posts is of no concern to the job.

* `posts`, `posted`: the events of one operation, and of a run;
* `JobStep`: the steps that a job's queue may take, each with its events;
* `jobStep_perform`: an operation takes one of these steps with each of the jobs.
-/

namespace TestFleet

variable {j k : JobId}

/-- A step of a job's queue, which is none while the job is not live, and the events that are posted
about it. -/
inductive JobStep (j : JobId) : Option JobQueue → List Event → Option JobQueue → Prop where
  | idle (o : Option JobQueue) : JobStep j o [] o
  | enqueued {o : Option JobQueue} {buckets : List Bucket}
      (unknown : ∀ b ∈ buckets.map (·.id), b ∉ (o.getD .empty).known.keys)
      (nodup : (buckets.map (·.id)).Nodup) (now : Instant) :
      JobStep j o [.jobEnqueued j buckets.length] (some ((o.getD .empty).appended buckets now))
  | handedOut {q : JobQueue} {b : WaitingBucket} {rest : List WaitingBucket}
      (waiting : q.waiting = b :: rest) (w : WorkerId) (now : Instant) :
      JobStep j (some q) [.bucketDequeued j b.bucket.id w] (some (q.handedOut b rest w now))
  | reported {q q' : JobQueue} {b : BucketId} {w : WorkerId} {report : BucketReport}
      {now : Instant} {wall : Timestamp} {a : Acceptance}
      (ok : q.accept b w report now wall = .ok (a, q')) :
      JobStep j (some q) [.resultAccepted j b w a.retry] (some q')
  | takenBack (q : JobQueue) (roster : Roster) (maximum : Duration) (now : Instant) :
      JobStep j (some q) (JobQueue.reclaimEvents j (q.stuck roster maximum now))
        (some (q.takenBack roster maximum now))
  | deleted {q : JobQueue} (depleted : q.isDepleted = true) :
      JobStep j (some q) [.jobDeleted j] none
  | cancelled (q : JobQueue) :
      JobStep j (some q) (q.inFlight.values.map (fun f => .bucketCancelled j f.id f.worker) ++
        [.jobCancelled j]) none

/-- Events that are all of one job tell nothing of another. -/
theorem eventsOf_eq_nil_of_ne {log : List Event} (h : j ≠ k) (all : ∀ e ∈ log, e.job? = some k) :
    eventsOf j log = [] :=
  eventsOf_eq_nil_iff.2 fun e he same => h (Option.some.inj (same.symm.trans (all e he)))

theorem job?_reclaimEvents (j : JobId) (taken : List InFlightBucket) :
    ∀ e ∈ JobQueue.reclaimEvents j taken, e.job? = some j := by
  intro e he
  obtain ⟨f, -, rfl⟩ := List.mem_map.1 he
  rfl

namespace Dispatcher

/-- The queue of a job that is live. -/
def queue? (d : Dispatcher) (j : JobId) : Option JobQueue := (d.jobs.get? j).map Job.queue

/-- The events that an operation posts. News of workers alone are told to the roster without the
reasons that their events give; those events are about no bucket and are left out. -/
def posts (d : Dispatcher) : Operation → List Event
  | .enqueue j buckets priority now => (d.enqueue j buckets priority now).2.1
  | .dequeue w now clock => (d.dequeue w now clock).2.1
  | .accept b w report now wall => (d.accept b w report now wall).2.1
  | .reclaim now => (d.reclaim now).2.1
  | .delete j => (d.delete j).2.1
  | .cancel j => (d.cancel j).2.1
  | .rebalance _ | .prefer _ | .roster _ => []

/-- The events that are posted along a run. -/
def posted (d : Dispatcher) : List Operation → List Event
  | [] => []
  | op :: ops => d.posts op ++ (d.perform op).posted ops

variable {d d' : Dispatcher} {log : List Event}

theorem queue?_of_live {job : Job} (live : d.jobs.get? j = some job) :
    d.queue? j = some job.queue := by
  rw [queue?, live]
  rfl

theorem queue?_of_none (notLive : d.jobs.get? j = none) : d.queue? j = none := by
  rw [queue?, notLive]
  rfl

theorem queue?_eq_none_iff : d.queue? j = none ↔ d.jobs.contains j = false := by
  rw [queue?, Option.map_eq_none_iff, Directory.get?_eq_none_iff, ← Directory.contains_iff_mem_keys,
    Bool.not_eq_true]

theorem getD_queue? (d : Dispatcher) (j : JobId) : (d.queue? j).getD .empty = d.queueOf j := by
  rw [queue?, queueOf]
  cases d.jobs.get? j <;> rfl

theorem queue?_congr (same : d'.jobs.get? j = d.jobs.get? j) : d'.queue? j = d.queue? j := by
  rw [queue?, same, queue?]

/-- A job that keeps its queue, and is not told of, takes no step. -/
theorem jobStep_idle (same : d'.jobs.get? j = d.jobs.get? j) (silent : eventsOf j log = []) :
    JobStep j (d.queue? j) (eventsOf j log) (d'.queue? j) := by
  rw [silent, queue?_congr same]
  exact .idle _

/-- What a sweep tells of a job. -/
theorem eventsOf_stuckOf (d : Dispatcher) (now : Instant) {js : List JobId} (nodup : js.Nodup) :
    eventsOf j ((d.stuckOf now js).map fun (k, f) => .bucketReclaimed k f.id f.worker) =
      if j ∈ js then
        JobQueue.reclaimEvents j ((d.queueOf j).stuck d.roster d.config.maximumInFlight now)
      else [] := by
  induction js with
  | nil => rfl
  | cons k js ih =>
    obtain ⟨notIn, nodup⟩ := List.nodup_cons.1 nodup
    have split : (d.stuckOf now (k :: js)).map (fun (k, f) => .bucketReclaimed k f.id f.worker) =
        JobQueue.reclaimEvents k ((d.queueOf k).stuck d.roster d.config.maximumInFlight now) ++
          (d.stuckOf now js).map fun (k, f) => Event.bucketReclaimed k f.id f.worker := by
      rw [stuckOf, List.flatMap_cons, List.map_append, List.map_map]
      rfl
    rw [split, eventsOf_append, ih nodup]
    by_cases e : j = k
    · subst e
      rw [if_neg notIn, if_pos List.mem_cons_self, List.append_nil,
        eventsOf_eq_self_iff.2 (job?_reclaimEvents j _)]
    · rw [eventsOf_eq_nil_of_ne e (job?_reclaimEvents k _)]
      simp [e]

theorem eventsOf_reclaim (d : Dispatcher) (j : JobId) (now : Instant) :
    eventsOf j (d.reclaim now).2.1 = if j ∈ d.jobs.keys then
      JobQueue.reclaimEvents j
        ((d.queueOf j).stuck (d.marked now).roster d.config.maximumInFlight now)
      else [] := by
  have silenced : eventsOf j ((d.roster.quietWorkers now).map .workerSilent) = [] :=
    eventsOf_eq_nil_iff.2 fun e he => by
      obtain ⟨w, -, rfl⟩ := List.mem_map.1 he
      exact nofun
  rw [reclaim_eq, eventsOf_append, silenced, List.nil_append]
  exact eventsOf_stuckOf (d.marked now) now d.jobs.keys_nodup

theorem jobStep_reclaim (d : Dispatcher) (j : JobId) (now : Instant) :
    JobStep j (d.queue? j) (eventsOf j (d.reclaim now).2.1) ((d.reclaim now).2.2.queue? j) := by
  rw [eventsOf_reclaim, reclaim_state]
  cases live : d.jobs.get? j with
  | none =>
    have notLive : (d.swept now).jobs.get? j = none := by
      rw [swept, get?_tookBackOf, show (d.marked now).jobs.get? j = none from live]
      rfl
    rw [if_neg (Directory.get?_eq_none_iff.1 live), queue?_of_none live, queue?_of_none notLive]
    exact .idle none
  | some job =>
    rw [if_pos (Directory.mem_keys.2 ⟨job, live⟩), queue?_of_live live,
      queue?_of_live (get?_swept live now), queueOf_of_live live]
    exact .takenBack job.queue _ _ now

/-- An operation takes a step with each of the jobs. -/
theorem jobStep_perform (orderly : d.Orderly) (op : Operation) (j : JobId) :
    JobStep j (d.queue? j) (eventsOf j (d.posts op)) ((d.perform op).queue? j) := by
  cases op with
  | enqueue k buckets priority now =>
    rw [perform, posts]
    rcases d.enqueue_cases k buckets priority now with ⟨e, same⟩ | ⟨-, unknown, nodup, added⟩
    · rw [same]
      exact jobStep_idle rfl rfl
    rw [added]
    by_cases e : j = k
    · subst e
      rw [eventsOf_eq_self_iff.2 (List.forall_mem_singleton.2 rfl),
        queue?_of_live (get?_enqueued_self d j buckets priority now), queueOf_jobFor,
        ← getD_queue?]
      rw [queueOf_jobFor, ← getD_queue?] at unknown
      exact .enqueued unknown nodup now
    · exact jobStep_idle (get?_enqueued_of_ne d e buckets priority now)
        (eventsOf_eq_nil_of_ne e (List.forall_mem_singleton.2 rfl))
  | dequeue w now clock =>
    rw [perform, posts]
    generalize outcome : d.dequeue w now clock = answer
    cases outcome ▸ d.dequeue_cases orderly w now clock with
    | nothing => exact jobStep_idle rfl rfl
    | @bucket r _ _ _ k job b rest live waiting =>
      by_cases e : j = k
      · subst e
        have after : ({ d with roster := r }.handedOut j job.queue b rest w now clock).jobs.get? j =
            some { job with queue := job.queue.handedOut b rest w now } :=
          get?_withQueue_self (d := { d with roster := r }) live _
        rw [eventsOf_eq_self_iff.2 (List.forall_mem_singleton.2 rfl), queue?_of_live live,
          queue?_of_live after]
        exact .handedOut waiting w now
      · exact jobStep_idle (get?_withQueue_of_ne (d := { d with roster := r }) e _)
          (eventsOf_eq_nil_of_ne e (List.forall_mem_singleton.2 rfl))
  | accept b w report now wall =>
    rw [perform, posts]
    generalize outcome : d.accept b w report now wall = answer
    cases outcome ▸ d.accept_cases b w report now wall with
    | rejected => exact jobStep_idle rfl rfl
    | @accepted k job a q _ live ok =>
      by_cases e : j = k
      · subst e
        have after : (d.settled j b w a q now).jobs.get? j = some { job with queue := q } := by
          rw [settled_jobs, get?_withQueue_self live]
        rw [eventsOf_eq_self_iff.2 (List.forall_mem_singleton.2 rfl), queue?_of_live live,
          queue?_of_live after]
        exact .reported ok
      · refine jobStep_idle ?_ (eventsOf_eq_nil_of_ne e (List.forall_mem_singleton.2 rfl))
        rw [settled_jobs, get?_withQueue_of_ne e]
  | reclaim now => exact d.jobStep_reclaim j now
  | delete k =>
    rw [perform, posts]
    rcases d.delete_cases k with ⟨e, same⟩ | ⟨job, live, depleted, removed⟩
    · rw [same]
      exact jobStep_idle rfl rfl
    rw [removed]
    by_cases e : j = k
    · subst e
      rw [eventsOf_eq_self_iff.2 (List.forall_mem_singleton.2 rfl), queue?_of_live live, forget,
        queue?_of_none (Directory.get?_erase_self _ j)]
      exact .deleted depleted
    · exact jobStep_idle (Directory.get?_erase_of_ne _ e)
        (eventsOf_eq_nil_of_ne e (List.forall_mem_singleton.2 rfl))
  | cancel k =>
    rw [perform, posts]
    rcases d.cancel_cases k with ⟨-, e, same⟩ | ⟨job, live, removed⟩
    · rw [same]
      exact jobStep_idle rfl rfl
    rw [removed]
    have all : ∀ e ∈ job.queue.inFlight.values.map (fun f => .bucketCancelled k f.id f.worker) ++
        [Event.jobCancelled k], e.job? = some k := by
      intro e he
      simp only [List.mem_append, List.mem_map, List.mem_singleton] at he
      rcases he with ⟨f, -, rfl⟩ | rfl <;> rfl
    by_cases e : j = k
    · subst e
      rw [eventsOf_eq_self_iff.2 all, queue?_of_live live, cancelled, forget,
        queue?_of_none (Directory.get?_erase_self _ j)]
      exact .cancelled job.queue
    · exact jobStep_idle (Directory.get?_erase_of_ne _ e) (eventsOf_eq_nil_of_ne e all)
  | rebalance => exact jobStep_idle rfl rfl
  | prefer => exact jobStep_idle rfl rfl
  | roster => exact jobStep_idle rfl rfl

end Dispatcher

end TestFleet
