import TestFleet.Proofs.Queue.Runs

/-!
# Queues of live jobs

The dispatcher does nothing with the queue of a job but the operations of a queue, so what holds of
every run of a queue holds of the queue of every live job.

* `queueOf`: the queue of a job, which is a new one if the job is not live;
* `Composed.perform`, `composed_run`: every live job's queue is a run of queue operations, in which
  only such buckets are taken in as were enqueued to the job.
-/

namespace TestFleet.Dispatcher

/-- The queue of a job; a job that is not live has none of its own. -/
def queueOf (d : Dispatcher) (j : JobId) : JobQueue := (d.jobs.get? j).elim .empty Job.queue

variable {d d' : Dispatcher} {j k : JobId} {b : BucketId} {w : WorkerId}
  {admits : JobId → List Bucket → Prop}

theorem queueOf_of_live {job : Job} (live : d.jobs.get? j = some job) :
    d.queueOf j = job.queue := by
  rw [queueOf, live]
  rfl

theorem mem_known_queueOf : b ∈ (d.queueOf j).known.keys ↔
    ∃ job, d.jobs.get? j = some job ∧ b ∈ job.queue.known.keys := by
  rw [queueOf]
  cases d.jobs.get? j with
  | none => simp [JobQueue.empty, Directory.mem_keys]
  | some job => simp

theorem inFlight_queueOf_eq_some {f : InFlightBucket} :
    (d.queueOf j).inFlight.get? b = some f ↔
      ∃ job, d.jobs.get? j = some job ∧ job.queue.inFlight.get? b = some f := by
  rw [queueOf]
  cases d.jobs.get? j with
  | none => simp [JobQueue.empty]
  | some job => simp

theorem queueOf_congr (same : d'.jobs.get? j = d.jobs.get? j) : d'.queueOf j = d.queueOf j := by
  rw [queueOf, same, queueOf]

theorem queueOf_withOwners (d : Dispatcher) (owners : Directory BucketId JobId) (j : JobId) :
    { d with owners := owners }.queueOf j = d.queueOf j := rfl

theorem queueOf_jobFor (d : Dispatcher) (j : JobId) (priority : JobPriority) :
    (d.jobFor j priority).1.queue = d.queueOf j := by
  rw [jobFor, queueOf]
  cases d.jobs.get? j <;> rfl

theorem Composed.queueOf (h : d.Composed admits) (j : JobId) :
    ∃ ops, (∀ op ∈ ops, JobQueue.Operation.Admitted (admits j) op) ∧
      d.queueOf j = JobQueue.empty.run ops := by
  cases live : d.jobs.get? j with
  | none =>
    rw [Dispatcher.queueOf, live]
    exact ⟨[], nofun, rfl⟩
  | some job =>
    rw [queueOf_of_live live]
    exact h j job live

theorem Composed.placed_queueOf (h : d.Composed admits) (j : JobId) :
    ∃ gone, (d.queueOf j).Placed gone := by
  obtain ⟨ops, -, run⟩ := h.queueOf j
  rw [run]
  exact ⟨_, JobQueue.placed_run ops⟩

theorem Composed.orderly (h : d.Composed admits) : d.Orderly := by
  intro j job live
  obtain ⟨ops, -, run⟩ := h j job live
  refine ⟨ops, fun op _ => ?_, run⟩
  cases op <;> trivial

theorem queueOf_withQueue_self {job : Job} (live : d.jobs.get? j = some job) (q : JobQueue) :
    (d.withQueue j q).queueOf j = q :=
  queueOf_of_live (get?_withQueue_self live q)

theorem queueOf_withQueue_of_ne (h : k ≠ j) (q : JobQueue) :
    (d.withQueue j q).queueOf k = d.queueOf k :=
  queueOf_congr (get?_withQueue_of_ne h q)

theorem queueOf_enqueued_self (d : Dispatcher) (j : JobId) (buckets : List Bucket)
    (priority : JobPriority) (now : Instant) :
    (d.enqueued j buckets priority now).queueOf j = (d.queueOf j).appended buckets now := by
  rw [queueOf_of_live (get?_enqueued_self d j buckets priority now), queueOf_jobFor]

theorem queueOf_settled (d : Dispatcher) (j : JobId) (b : BucketId) (w : WorkerId) (a : Acceptance)
    (q : JobQueue) (now : Instant) (k : JobId) :
    (d.settled j b w a q now).queueOf k = (d.withQueue j q).queueOf k :=
  queueOf_congr (by rw [settled_jobs])

theorem queueOf_forget_self (d : Dispatcher) (j : JobId) (q : JobQueue) :
    (d.forget j q).queueOf j = .empty := by
  rw [queueOf, forget, Directory.get?_erase_self]
  rfl

theorem queueOf_forget_of_ne (h : k ≠ j) (q : JobQueue) :
    (d.forget j q).queueOf k = d.queueOf k :=
  queueOf_congr (Directory.get?_erase_of_ne _ h)

/-! ## Composed queues -/

/-- The operation enqueues only what `admits` allows. -/
def Operation.Admitted (admits : JobId → List Bucket → Prop) : Operation → Prop
  | .enqueue j buckets _ _ => admits j buckets
  | _ => True

theorem Operation.Admitted.mono {admits' : JobId → List Bucket → Prop} {op : Operation}
    (h : op.Admitted admits) (implies : ∀ j buckets, admits j buckets → admits' j buckets) :
    op.Admitted admits' := by
  cases op with
  | enqueue j buckets => exact implies j buckets h
  | _ => trivial

namespace Composed

/-- An operation on the queue of one job. -/
theorem change (h : d.Composed admits) (op : JobQueue.Operation)
    (admitted : op.Admitted (admits j))
    (this : d'.queueOf j = (d.queueOf j).perform op)
    (others : ∀ k, k ≠ j → d'.queueOf k = d.queueOf k) : d'.Composed admits := by
  intro k job live
  rw [← queueOf_of_live live]
  by_cases e : k = j
  · subst e
    obtain ⟨ops, all, run⟩ := h.queueOf k
    refine ⟨ops ++ [op], fun op' hop => ?_, ?_⟩
    · rcases List.mem_append.1 hop with hop | hop
      · exact all op' hop
      · exact List.mem_singleton.1 hop ▸ admitted
    · rw [this, run, JobQueue.run_append]
      rfl
  · obtain ⟨ops, all, run⟩ := h.queueOf k
    exact ⟨ops, all, (others k e).trans run⟩

theorem enqueued (h : d.Composed admits) {buckets : List Bucket} {priority : JobPriority}
    (admitted : admits j buckets)
    (unknown : ∀ b ∈ buckets.map (·.id), b ∉ (d.jobFor j priority).1.queue.known.keys)
    (nodup : (buckets.map (·.id)).Nodup) (now : Instant) :
    (d.enqueued j buckets priority now).Composed admits := by
  rw [queueOf_jobFor] at unknown
  have step : (d.queueOf j).perform (.enqueue buckets now) =
      (d.queueOf j).appended buckets now := by
    rw [JobQueue.perform, JobQueue.enqueue_eq_ok_iff.2 ⟨unknown, nodup, rfl⟩]
    rfl
  refine h.change (.enqueue buckets now) admitted ?_ fun k e => ?_
  · rw [step, queueOf_enqueued_self]
  · exact queueOf_congr (get?_enqueued_of_ne d e buckets priority now)

theorem handedOut (h : d.Composed admits) {job : Job} (live : d.jobs.get? j = some job)
    {b : WaitingBucket} {rest : List WaitingBucket} (waiting : job.queue.waiting = b :: rest)
    (w : WorkerId) (now clock : Instant) :
    (d.handedOut j job.queue b rest w now clock).Composed admits := by
  obtain ⟨gone, placed⟩ := h.placed live
  have step : job.queue.perform (.dequeue w now) = job.queue.handedOut b rest w now := by
    rw [JobQueue.perform, JobQueue.dequeue_eq placed.not_inFlight, waiting]
  refine h.change (.dequeue w now) trivial ?_ fun k e => queueOf_withQueue_of_ne e _
  rw [queueOf_of_live live, step]
  exact queueOf_withQueue_self live _

theorem settled (h : d.Composed admits) {job : Job} (live : d.jobs.get? j = some job)
    {report : BucketReport} {now : Instant} {wall : Timestamp} {a : Acceptance} {q : JobQueue}
    (ok : job.queue.accept b w report now wall = .ok (a, q)) :
    (d.settled j b w a q now).Composed admits := by
  have step : job.queue.perform (.accept b w report now wall) = q := by
    rw [JobQueue.perform, ok]
    rfl
  refine h.change (j := j) (.accept b w report now wall) trivial ?_ fun k e => ?_
  · rw [queueOf_of_live live, step, queueOf_settled, queueOf_withQueue_self live]
  · rw [queueOf_settled, queueOf_withQueue_of_ne e]

theorem tookBack (h : d.Composed admits) {job : Job} (live : d.jobs.get? j = some job)
    (now : Instant) : (d.tookBack j job.queue now).Composed admits := by
  refine h.change (.reclaim d.roster d.config.maximumInFlight now) trivial ?_ fun k e =>
    queueOf_withQueue_of_ne e _
  rw [queueOf_of_live live]
  exact queueOf_withQueue_self live _

theorem forget (h : d.Composed admits) (j : JobId) (q : JobQueue) :
    (d.forget j q).Composed admits := by
  intro k job live
  by_cases e : k = j
  · rw [Dispatcher.forget, e, Directory.get?_erase_self] at live
    cases live
  · rw [Dispatcher.forget, Directory.get?_erase_of_ne _ e] at live
    exact h k job live

theorem perform (h : d.Composed admits) {op : Operation} (admitted : op.Admitted admits) :
    (d.perform op).Composed admits := by
  cases op with
  | enqueue j buckets priority now =>
    rw [Dispatcher.perform]
    rcases d.enqueue_cases j buckets priority now with ⟨e, same⟩ | ⟨-, unknown, nodup, added⟩
    · rw [same]
      exact h
    · rw [added]
      exact h.enqueued admitted unknown nodup now
  | dequeue w now clock =>
    rw [Dispatcher.perform]
    generalize outcome : d.dequeue w now clock = answer
    cases outcome ▸ d.dequeue_cases h.orderly w now clock with
    | nothing => exact h
    | bucket r _ _ _ live waiting =>
      exact handedOut (d := { d with roster := r }) h live waiting w now clock
  | accept b w report now wall =>
    rw [Dispatcher.perform]
    generalize outcome : d.accept b w report now wall = answer
    cases outcome ▸ d.accept_cases b w report now wall with
    | rejected => exact h
    | accepted _ live ok => exact h.settled live ok
  | reclaim now =>
    exact reclaim_induction (P := fun d => d.Composed admits) (fun d h => h)
      (fun d j job h live => h.tookBack live now) h
  | delete j =>
    rw [Dispatcher.perform]
    rcases d.delete_cases j with ⟨e, same⟩ | ⟨job, -, -, removed⟩
    · rw [same]
      exact h
    · rw [removed]
      exact h.forget j job.queue
  | cancel j =>
    rw [Dispatcher.perform]
    rcases d.cancel_cases j with ⟨-, e, same⟩ | ⟨job, -, removed⟩
    · rw [same]
      exact h
    · rw [removed]
      exact forget (d := d.withRoster _) h j job.queue
  | rebalance => exact h
  | prefer => exact h
  | roster => exact h

end Composed

theorem composed_new (admits : JobId → List Bucket → Prop) (config : DispatcherConfig)
    (silence : Duration) : (new config silence).Composed admits :=
  nofun

theorem Composed.run (h : d.Composed admits) {ops : List Operation}
    (admitted : ∀ op ∈ ops, op.Admitted admits) : (d.run ops).Composed admits := by
  induction ops generalizing d with
  | nil => exact h
  | cons op ops ih =>
    obtain ⟨first, rest⟩ := List.forall_mem_cons.1 admitted
    exact ih (h.perform first) rest

/-- Whatever is enqueued is admitted if everything is. -/
theorem admitted_of_forall (op : Operation) : op.Admitted fun _ _ => True := by
  cases op <;> trivial

theorem composed_run (config : DispatcherConfig) (silence : Duration) {ops : List Operation}
    (admitted : ∀ op ∈ ops, op.Admitted admits) :
    ((new config silence).run ops).Composed admits :=
  (composed_new admits config silence).run admitted

/-! ## The configuration -/

/-- No operation changes what the dispatcher was set up with. -/
theorem config_perform (orderly : d.Orderly) (op : Operation) :
    (d.perform op).config = d.config := by
  cases op with
  | enqueue j buckets priority now =>
    rw [perform]
    rcases d.enqueue_cases j buckets priority now with ⟨e, same⟩ | ⟨-, -, -, added⟩
    · rw [same]
    · rw [added, enqueued_config]
  | dequeue w now clock =>
    rw [perform]
    generalize outcome : d.dequeue w now clock = answer
    cases outcome ▸ d.dequeue_cases orderly w now clock <;> rfl
  | accept b w report now wall =>
    rw [perform]
    generalize outcome : d.accept b w report now wall = answer
    cases outcome ▸ d.accept_cases b w report now wall with
    | rejected => rfl
    | accepted => exact settled_config ..
  | reclaim now =>
    exact reclaim_induction (P := fun d' => d'.config = d.config) (fun _ h => h)
      (fun _ _ _ h _ => h) rfl
  | delete j =>
    rw [perform]
    rcases d.delete_cases j with ⟨e, same⟩ | ⟨job, -, -, removed⟩
    · rw [same]
    · rw [removed]
      rfl
  | cancel j =>
    rw [perform]
    rcases d.cancel_cases j with ⟨-, e, same⟩ | ⟨job, -, removed⟩
    · rw [same]
    · rw [removed]
      rfl
  | rebalance => rfl
  | prefer => rfl
  | roster => rfl

theorem config_run (orderly : d.Orderly) (ops : List Operation) :
    (d.run ops).config = d.config := by
  induction ops generalizing d with
  | nil => rfl
  | cons op ops ih =>
    exact (ih (orderly.perform (admitted_of_forall op))).trans (config_perform orderly op)

end TestFleet.Dispatcher
