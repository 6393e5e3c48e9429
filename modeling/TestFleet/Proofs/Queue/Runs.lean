import TestFleet.Queue.Dispatcher
import TestFleet.Proofs.Queue.Places
import TestFleet.Proofs.Queue.Roster

/-!
# Runs of the dispatcher

The operations of the dispatcher, in any order and with anything for their arguments, and what each
of them does, so that what every run keeps is proved without opening the operations again.

* `enqueue_cases`, `accept_cases`, `delete_cases`, `cancel_cases`: an operation fails and leaves
  everything but signs of life alone, or it does all of one change;
* `dequeue_cases`: a worker gets the head of the line of a job, or nothing;
* `reclaimJobs_induction`: what a sweep keeps, job by job;
* `Composed`: every live job's queue is a run of queue operations of its own.
-/

namespace TestFleet.Dispatcher

/-- An operation of the dispatcher. -/
inductive Operation where
  | enqueue (job : JobId) (buckets : List Bucket) (priority : JobPriority) (now : Instant)
  | dequeue (worker : WorkerId) (now clock : Instant)
  | accept (bucket : BucketId) (worker : WorkerId) (report : BucketReport) (now : Instant)
      (wall : Timestamp)
  | reclaim (now : Instant)
  | delete (job : JobId)
  | cancel (job : JobId)
  | rebalance (assignment : Assignment)
  | prefer (preferences : Preferences)
  | roster (operation : Roster.Operation)

/-- The dispatcher after an operation. -/
def perform (d : Dispatcher) : Operation → Dispatcher
  | .enqueue j buckets priority now => (d.enqueue j buckets priority now).2.2
  | .dequeue w now clock => (d.dequeue w now clock).2.2
  | .accept b w report now wall => (d.accept b w report now wall).2.2
  | .reclaim now => (d.reclaim now).2.2
  | .delete j => (d.delete j).2.2
  | .cancel j => (d.cancel j).2.2
  | .rebalance a => d.rebalance a
  | .prefer p => { d with preferences := p }
  | .roster op => d.withRoster (·.perform op)

/-- The dispatcher after some operations. -/
def run (d : Dispatcher) (ops : List Operation) : Dispatcher := ops.foldl perform d

theorem run_append (d : Dispatcher) (ops more : List Operation) :
    d.run (ops ++ more) = (d.run ops).run more :=
  List.foldl_append

variable {d : Dispatcher} {j j' : JobId} {b b' : BucketId} {w : WorkerId}

/-! ## Changes of one queue -/

theorem get?_withQueue_self {job : Job} (live : d.jobs.get? j = some job) (q : JobQueue) :
    (d.withQueue j q).jobs.get? j = some { job with queue := q } := by
  rw [withQueue, Directory.get?_modify_self, live]
  rfl

theorem get?_withQueue_of_ne (h : j' ≠ j) (q : JobQueue) :
    (d.withQueue j q).jobs.get? j' = d.jobs.get? j' :=
  Directory.get?_modify_of_ne _ _ h

/-! ## Work comes in -/

/-- The dispatcher after buckets were added to a job. -/
def enqueued (d : Dispatcher) (j : JobId) (buckets : List Bucket) (priority : JobPriority)
    (now : Instant) : Dispatcher :=
  let (job, d) := d.jobFor j priority
  { d with
    jobs := d.jobs.insert j { job with queue := job.queue.appended buckets now }
    owners := (buckets.map (·.id)).foldl (fun owners b => owners.insert b j) d.owners }

theorem jobFor_of_live {job : Job} (live : d.jobs.get? j = some job) (priority : JobPriority) :
    d.jobFor j priority = (job, d) := by
  rw [jobFor, live]

theorem jobFor_of_new (new : d.jobs.get? j = none) (priority : JobPriority) :
    d.jobFor j priority = (⟨priority, d.nextSequence, .empty⟩, { d with
      jobs := d.jobs.insert j ⟨priority, d.nextSequence, .empty⟩
      nextSequence := d.nextSequence + 1 }) := by
  rw [jobFor, new]

section Enqueued

variable (d : Dispatcher) (j : JobId) (buckets : List Bucket) (priority : JobPriority)
  (now : Instant)

theorem enqueued_config : (d.enqueued j buckets priority now).config = d.config := by
  rw [enqueued, jobFor]
  cases d.jobs.get? j <;> rfl

theorem enqueued_roster : (d.enqueued j buckets priority now).roster = d.roster := by
  rw [enqueued, jobFor]
  cases d.jobs.get? j <;> rfl

theorem enqueued_ledger : (d.enqueued j buckets priority now).ledger = d.ledger := by
  rw [enqueued, jobFor]
  cases d.jobs.get? j <;> rfl

theorem enqueued_owners : (d.enqueued j buckets priority now).owners =
    (buckets.map (·.id)).foldl (fun owners b => owners.insert b j) d.owners := by
  rw [enqueued, jobFor]
  cases d.jobs.get? j <;> rfl

end Enqueued

theorem get?_enqueued_self (d : Dispatcher) (j : JobId) (buckets : List Bucket)
    (priority : JobPriority) (now : Instant) :
    (d.enqueued j buckets priority now).jobs.get? j = some { (d.jobFor j priority).1 with
      queue := (d.jobFor j priority).1.queue.appended buckets now } := by
  rw [enqueued]
  exact Directory.get?_insert_self _ _ _

theorem get?_enqueued_of_ne (d : Dispatcher) (h : j' ≠ j) (buckets : List Bucket)
    (priority : JobPriority) (now : Instant) :
    (d.enqueued j buckets priority now).jobs.get? j' = d.jobs.get? j' := by
  rw [enqueued]
  dsimp only
  rw [Directory.get?_insert_of_ne _ _ h]
  cases live : d.jobs.get? j with
  | none => rw [jobFor_of_new live, Directory.get?_insert_of_ne _ _ h]
  | some job => rw [jobFor_of_live live]

/-- Taking back the ids of buckets that were not owned before. -/
theorem owners_erased (owners : Directory BucketId JobId) {ids : List BucketId}
    (fresh : ∀ b ∈ ids, b ∉ owners.keys) (j : JobId) :
    ids.foldl (fun owners b => owners.erase b)
      (ids.foldl (fun owners b => owners.insert b j) owners) = owners := by
  refine Directory.ext_get? fun b => ?_
  by_cases hb : b ∈ ids
  · rw [Directory.get?_foldl_erase_of_mem _ _ hb, Directory.get?_eq_none_iff.2 (fresh b hb)]
  · rw [Directory.get?_foldl_erase_of_not_mem _ _ hb,
      Directory.get?_foldl_insert_of_not_mem _ _ _ hb]

/-- Buckets are added only if all of their ids are new and different; otherwise nothing changes. -/
theorem enqueue_cases (d : Dispatcher) (j : JobId) (buckets : List Bucket)
    (priority : JobPriority) (now : Instant) :
    (∃ e, d.enqueue j buckets priority now = (.error e, [], d)) ∨
      (∀ b ∈ buckets.map (·.id), b ∉ d.owners.keys) ∧
      (∀ b ∈ buckets.map (·.id), b ∉ (d.jobFor j priority).1.queue.known.keys) ∧
      (buckets.map (·.id)).Nodup ∧
      d.enqueue j buckets priority now =
        (.ok (), [.jobEnqueued j buckets.length], d.enqueued j buckets priority now) := by
  rw [enqueue]
  dsimp only
  cases dup : JobQueue.firstDuplicate? d.owners.contains [] (buckets.map (·.id)) with
  | some b => exact .inl ⟨_, rfl⟩
  | none =>
    obtain ⟨notOwned, nodup⟩ := JobQueue.firstDuplicate?_eq_none_iff.1 dup
    have notOwned : ∀ b ∈ buckets.map (·.id), b ∉ d.owners.keys := fun b hb owned => by
      have := (notOwned b hb).1
      rw [Directory.contains_iff_mem_keys.2 owned] at this
      cases this
    generalize owned : (buckets.map (·.id)).foldl (fun owners b => owners.insert b j) d.owners = o
    cases live : d.jobs.get? j with
    | none =>
      rw [jobFor_of_new live, jobFor_of_new (d := { d with owners := o }) live, enqueued,
        jobFor_of_new live]
      have unknown : ∀ b ∈ buckets.map (·.id), b ∉ JobQueue.empty.known.keys := fun b _ h => by
        cases h
      dsimp only
      rw [JobQueue.enqueue_eq_ok_iff.2 ⟨unknown, nodup, rfl⟩]
      refine .inr ⟨notOwned, unknown, nodup, ?_⟩
      dsimp only
      rw [withQueue, Directory.modify_eq_insert (Directory.get?_insert_self _ _ _), owned]
    | some job =>
      rw [jobFor_of_live live, jobFor_of_live (d := { d with owners := o }) live]
      dsimp only
      cases ok : job.queue.enqueue buckets now with
      | error e =>
        refine .inl ⟨e, ?_⟩
        dsimp only
        rw [← owned, owners_erased d.owners notOwned j]
      | ok q =>
        obtain ⟨unknown, -, rfl⟩ := JobQueue.enqueue_eq_ok_iff.1 ok
        refine .inr ⟨notOwned, unknown, nodup, ?_⟩
        dsimp only
        rw [withQueue, Directory.modify_eq_insert (d := d.jobs) live, enqueued,
          jobFor_of_live live, ← owned]

/-! ## Work goes out -/

/-- Every live job's queue came about by operations of a queue, from a new one, and took in only
what `admits` allows for the job. -/
def Composed (d : Dispatcher) (admits : JobId → List Bucket → Prop) : Prop :=
  ∀ j job, d.jobs.get? j = some job →
    ∃ ops, (∀ op ∈ ops, JobQueue.Operation.Admitted (admits j) op) ∧
      job.queue = JobQueue.empty.run ops

/-- Every live job's queue came about by operations of a queue, whatever it took in. -/
abbrev Orderly (d : Dispatcher) : Prop := d.Composed fun _ _ => True

/-- Every bucket of a live job is in one place. -/
theorem Composed.placed {admits : JobId → List Bucket → Prop} (h : d.Composed admits) {job : Job}
    (live : d.jobs.get? j = some job) : ∃ gone, job.queue.Placed gone := by
  obtain ⟨ops, -, eq⟩ := h j job live
  rw [eq]
  exact ⟨_, JobQueue.placed_run ops⟩

theorem withQueue_self {job : Job} (live : d.jobs.get? j = some job) :
    d.withQueue j job.queue = d := by
  have same : d.jobs.modify j (fun old => { old with queue := job.queue }) = d.jobs := by
    refine Directory.ext_get? fun k => ?_
    by_cases h : k = j
    · subst h
      rw [Directory.get?_modify_self, live]
      rfl
    · rw [Directory.get?_modify_of_ne _ _ h]
  rw [withQueue, same]

/-- The dispatcher after the bucket `b` at the front of a job's line was handed out. -/
def handedOut (d : Dispatcher) (j : JobId) (q : JobQueue) (b : WaitingBucket)
    (rest : List WaitingBucket) (w : WorkerId) (now clock : Instant) : Dispatcher :=
  (d.withQueue j (q.handedOut b rest w now)).withRoster (·.didDequeue w b.bucket.id clock)

theorem handedOut_roster (d : Dispatcher) (j : JobId) (q : JobQueue) (b : WaitingBucket)
    (rest : List WaitingBucket) (w : WorkerId) (now clock : Instant) :
    (d.handedOut j q b rest w now clock).roster = d.roster.didDequeue w b.bucket.id clock :=
  rfl

theorem mem_candidates {c : Candidate} : c ∈ d.candidates w ↔
    ∃ j job, d.jobs.get? j = some job ∧ 0 < job.queue.enqueuedCount ∧ d.candidate w j job = c := by
  simp only [candidates, List.mem_filter, List.mem_map, Prod.exists, Directory.get?_eq_some_iff,
    decide_eq_true_eq]
  constructor
  · rintro ⟨⟨j, job, live, rfl⟩, some⟩
    exact ⟨j, job, live, some, rfl⟩
  · rintro ⟨j, job, live, some, rfl⟩
    exact ⟨⟨j, job, live, rfl⟩, some⟩

theorem handOut_cases (orderly : d.Orderly) (w : WorkerId) (now clock : Instant)
    (cs : List Candidate) :
    d.handOut w now clock cs = (.checkAgainLater d.config.checkAgainAfter, [], d) ∨
      ∃ j job b rest, d.jobs.get? j = some job ∧ job.queue.waiting = b :: rest ∧
        d.handOut w now clock cs = (.bucket ⟨b, w, now⟩, [.bucketDequeued j b.bucket.id w],
          d.handedOut j job.queue b rest w now clock) := by
  induction cs with
  | nil => exact .inl rfl
  | cons c cs ih =>
    rw [handOut]
    split
    · exact ih
    rename_i job live
    obtain ⟨gone, placed⟩ := orderly.placed live
    rw [JobQueue.dequeue_eq placed.not_inFlight]
    cases waiting : job.queue.waiting with
    | nil =>
      dsimp only
      rw [withQueue_self live]
      exact ih
    | cons b rest => exact .inr ⟨c.job, job, b, rest, live, waiting, rfl⟩

/-- What becomes of the question for work. -/
inductive Answered (d : Dispatcher) (w : WorkerId) (now clock : Instant) :
    Except DequeueError Handout × List Event × Dispatcher → Prop where
  | nothing (r : Roster) (seen : r = d.roster ∨ r = d.roster.setAlive w clock)
      (answer : Except DequeueError Handout) (none : ∀ taken, answer ≠ .ok (.bucket taken)) :
      Answered d w now clock (answer, [], { d with roster := r })
  | bucket (r : Roster) (seen : r = d.roster ∨ r = d.roster.setAlive w clock)
      (known : w ∈ r.workers.keys) (room : (r.held w).length < d.config.bucketsPerWorker)
      {j : JobId} {job : Job} {b : WaitingBucket} {rest : List WaitingBucket}
      (live : d.jobs.get? j = some job) (waiting : job.queue.waiting = b :: rest) :
      Answered d w now clock (.ok (.bucket ⟨b, w, now⟩), [.bucketDequeued j b.bucket.id w],
        { d with roster := r }.handedOut j job.queue b rest w now clock)

theorem handOutWork_cases (orderly : d.Orderly) (w : WorkerId) (now clock : Instant) :
    (∃ h, (∀ taken, h ≠ .bucket taken) ∧ d.handOutWork w now clock = (h, [], d)) ∨
      (d.roster.held w).length < d.config.bucketsPerWorker ∧
      ∃ j job b rest, d.jobs.get? j = some job ∧ job.queue.waiting = b :: rest ∧
        d.handOutWork w now clock = (.bucket ⟨b, w, now⟩, [.bucketDequeued j b.bucket.id w],
          d.handedOut j job.queue b rest w now clock) := by
  rw [handOutWork]
  dsimp only
  split
  · exact .inl ⟨.checkAgainLater _, fun _ => nofun, rfl⟩
  rename_i room
  split
  · refine .inl ⟨_, fun taken => ?_, rfl⟩
    split <;> exact nofun
  rcases d.handOut_cases orderly w now clock (d.config.precedence.rank (d.candidates w)) with
    h | handed
  · exact .inl ⟨.checkAgainLater _, fun _ => nofun, h⟩
  · exact .inr ⟨Nat.not_le.1 room, handed⟩

theorem answered_handOutWork (orderly : d.Orderly) {clock : Instant} {r : Roster}
    (seen : r = d.roster ∨ r = d.roster.setAlive w clock) (listed : w ∈ r.workers.keys)
    (now : Instant) :
    Answered d w now clock (.ok ({ d with roster := r }.handOutWork w now clock).1,
      ({ d with roster := r }.handOutWork w now clock).2) := by
  rcases handOutWork_cases (d := { d with roster := r }) orderly w now clock with
    ⟨h, none, handed⟩ | ⟨room, j, job, b, rest, live, waiting, handed⟩
  · rw [handed]
    exact .nothing r seen _ fun taken e => none taken (Except.ok.inj e)
  · rw [handed]
    exact .bucket r seen listed room live waiting

/-- A worker that asks for work gets the head of the line of a job, or nothing. -/
theorem dequeue_cases (orderly : d.Orderly) (w : WorkerId) (now clock : Instant) :
    Answered d w now clock (d.dequeue w now clock) := by
  rw [dequeue]
  split
  · exact .nothing d.roster (.inl rfl) _ fun _ => nofun
  · exact .nothing d.roster (.inl rfl) _ fun _ => nofun
  · exact .nothing d.roster (.inl rfl) _ fun _ => nofun
  · rename_i silent
    have listed : w ∈ d.roster.workers.keys :=
      Roster.mem_workers_of_liveness (by rw [silent]; exact nofun)
    exact answered_handOutWork orderly (.inr rfl) (Roster.mem_workers_setAlive.2 listed) now
  · rename_i alive
    have listed : w ∈ d.roster.workers.keys :=
      Roster.mem_workers_of_liveness (by rw [alive]; exact nofun)
    exact answered_handOutWork orderly (.inl rfl) listed now

/-! ## Reports -/

/-- The dispatcher after a report on the bucket `b` of a job was accepted, which left the job with
the queue `q`. -/
def settled (d : Dispatcher) (j : JobId) (b : BucketId) (w : WorkerId) (a : Acceptance)
    (q : JobQueue) (now : Instant) : Dispatcher :=
  (({ d with ledger := d.ledger.add j b a.results }.withQueue j q).withRoster
    (·.didReceive w b now)).own j a.retry

section Settled

variable (d : Dispatcher) (j : JobId) (b : BucketId) (w : WorkerId) (a : Acceptance) (q : JobQueue)
  (now : Instant)

theorem settled_jobs : (d.settled j b w a q now).jobs = (d.withQueue j q).jobs := by
  rw [settled]
  cases a.retry <;> rfl

theorem settled_ledger : (d.settled j b w a q now).ledger = d.ledger.add j b a.results := by
  rw [settled]
  cases a.retry <;> rfl

theorem settled_roster : (d.settled j b w a q now).roster = d.roster.didReceive w b now := by
  rw [settled]
  cases a.retry <;> rfl

theorem settled_config : (d.settled j b w a q now).config = d.config := by
  rw [settled]
  cases a.retry <;> rfl

theorem settled_owners :
    (d.settled j b w a q now).owners = a.retry.elim d.owners fun r => d.owners.insert r j := by
  rw [settled]
  cases a.retry <;> rfl

end Settled

/-- What becomes of a report. -/
inductive Judged (d : Dispatcher) (b : BucketId) (w : WorkerId) (report : BucketReport)
    (now : Instant) (wall : Timestamp) :
    Except Rejection Routed × List Event × Dispatcher → Prop where
  | rejected (reason : Rejection) :
      Judged d b w report now wall (.error reason, [.resultRejected b w reason],
        d.withRoster (·.setAlive w now))
  | accepted {j : JobId} {job : Job} {a : Acceptance} {q : JobQueue}
      (owned : d.owners.get? b = some j) (live : d.jobs.get? j = some job)
      (ok : job.queue.accept b w report now wall = .ok (a, q)) :
      Judged d b w report now wall (.ok ⟨j, a.retry⟩, [.resultAccepted j b w a.retry],
        d.settled j b w a q now)

theorem accept_cases (d : Dispatcher) (b : BucketId) (w : WorkerId) (report : BucketReport)
    (now : Instant) (wall : Timestamp) :
    Judged d b w report now wall (d.accept b w report now wall) := by
  rw [accept]
  split
  · exact .rejected .bucketNotFound
  rename_i j owned
  split
  · exact .rejected .bucketNotFound
  rename_i job live
  split
  · exact .rejected _
  · rename_i a q ok
    exact .accepted owned live ok

/-! ## Removing jobs -/

theorem delete_of_depleted {job : Job} (live : d.jobs.get? j = some job)
    (depleted : job.queue.isDepleted = true) :
    d.delete j = (.ok (), [.jobDeleted j], d.forget j job.queue) := by
  rw [delete, live]
  simp [depleted]

/-- A job is removed if it is done; otherwise nothing changes. -/
theorem delete_cases (d : Dispatcher) (j : JobId) :
    (∃ e, d.delete j = (.error e, [], d)) ∨
      ∃ job, d.jobs.get? j = some job ∧ job.queue.isDepleted = true ∧
        d.delete j = (.ok (), [.jobDeleted j], d.forget j job.queue) := by
  rw [delete]
  cases live : d.jobs.get? j with
  | none => exact .inl ⟨_, rfl⟩
  | some job =>
    by_cases depleted : job.queue.isDepleted = true
    · exact .inr ⟨job, rfl, depleted, by simp [depleted]⟩
    · exact .inl ⟨.bucketsStillInFlight j job.queue.enqueuedCount job.queue.dequeuedCount,
        by simp [depleted]⟩

/-- The dispatcher after a job with the queue `q` was cancelled. -/
def cancelled (d : Dispatcher) (j : JobId) (q : JobQueue) : Dispatcher :=
  (d.withRoster fun r => q.inFlight.values.foldl (fun r f => r.release f.worker f.id) r).forget j q

/-- A live job is cancelled; for another nothing changes. -/
theorem cancel_cases (d : Dispatcher) (j : JobId) :
    (d.jobs.get? j = none ∧ ∃ e, d.cancel j = (.error e, [], d)) ∨
      ∃ job, d.jobs.get? j = some job ∧ d.cancel j = (.ok job.queue.inFlight.values,
        job.queue.inFlight.values.map (fun f => .bucketCancelled j f.id f.worker) ++
          [.jobCancelled j], d.cancelled j job.queue) := by
  rw [cancel]
  cases live : d.jobs.get? j with
  | none => exact .inl ⟨rfl, _, rfl⟩
  | some job => exact .inr ⟨job, rfl, rfl⟩

/-! ## Sweeps -/

/-- The dispatcher after the stuck buckets of a job with the queue `q` were taken back. -/
def tookBack (d : Dispatcher) (j : JobId) (q : JobQueue) (now : Instant) : Dispatcher :=
  { d.withQueue j (q.takenBack d.roster d.config.maximumInFlight now) with
    roster := (q.stuck d.roster d.config.maximumInFlight now).foldl
      (fun r f => r.release f.worker f.id) d.roster }

/-- A sweep keeps what taking back the stuck buckets of any one job keeps. -/
theorem reclaimJobs_induction {P : Dispatcher → Prop} {now : Instant}
    (tookBack : ∀ d j job, P d → d.jobs.get? j = some job → P (d.tookBack j job.queue now))
    (js : List JobId) {d : Dispatcher} (h : P d) : P (d.reclaimJobs now js).2 := by
  induction js generalizing d with
  | nil => exact h
  | cons j js ih =>
    rw [reclaimJobs]
    split
    · exact ih h
    · rename_i job live
      exact ih (tookBack d j job h live)

theorem reclaim_induction {P : Dispatcher → Prop} {now : Instant}
    (marked : ∀ d, P d → P (d.withRoster (·.perform (.markQuietSilent now))))
    (tookBack : ∀ d j job, P d → d.jobs.get? j = some job → P (d.tookBack j job.queue now))
    {d : Dispatcher} (h : P d) : P (d.reclaim now).2.2 :=
  reclaimJobs_induction tookBack _ (marked d h)

/-! ## Runs that are written out -/

/-- The configuration of the tests in such runs: those that fail run once more. -/
def onceMore : TestConfiguration where
  artifacts := ⟨none, none, ⟨.testBundle, .localPath ⟨"tests"⟩⟩, []⟩
  destination := ⟨"phone", "system"⟩
  behavior := { retries := 1 }
  type := .logicTest
  toolchain := ⟨"tools"⟩

end TestFleet.Dispatcher
