import TestFleet.Proofs.Queue.Queues

/-!
# The indexes beside the queues

The dispatcher keeps two indexes beside the queues of the live jobs: which job a bucket belongs to,
and which buckets a worker holds. They agree with the queues as long as no bucket that runs failed
tests again gets the id of a bucket of another live job, which is the one id that is not compared
with the index before it is written.

* `Indexed`: the indexes agree with the queues, and no worker holds more than it may;
* `Clashes`: an accepted report makes up an id that another live job knows;
* `Indexed.perform`, `Indexed.run`: every operation that does not clash keeps the indexes right.
-/

namespace TestFleet.Dispatcher

/-- The indexes agree with the queues, and no worker holds more buckets than it may. -/
structure Indexed (d : Dispatcher) : Prop where
  orderly : d.Orderly
  owners : ∀ b j, d.owners.get? b = some j ↔ b ∈ (d.queueOf j).known.keys
  held : ∀ w b, b ∈ d.roster.held w ↔
    ∃ j f, (d.queueOf j).inFlight.get? b = some f ∧ f.worker = w
  limit : ∀ w, (d.roster.held w).length ≤ d.config.bucketsPerWorker

variable {d d' : Dispatcher} {j k : JobId} {b c : BucketId} {w : WorkerId}

namespace Indexed

/-- No two live jobs know one bucket. -/
theorem eq_of_known (h : d.Indexed) (hj : b ∈ (d.queueOf j).known.keys)
    (hk : b ∈ (d.queueOf k).known.keys) : k = j := by
  have owner := (h.owners b j).2 hj
  rw [(h.owners b k).2 hk] at owner
  exact Option.some.inj owner

theorem known_of_waiting (h : d.Indexed) (hb : b ∈ (d.queueOf j).waitingIds) :
    b ∈ (d.queueOf j).known.keys := by
  obtain ⟨gone, placed⟩ := h.orderly.placed_queueOf j
  exact placed.known_of_waiting hb

theorem known_of_inFlight (h : d.Indexed) (hb : b ∈ (d.queueOf j).inFlight.keys) :
    b ∈ (d.queueOf j).known.keys := by
  obtain ⟨gone, placed⟩ := h.orderly.placed_queueOf j
  exact placed.known_of_inFlight hb

/-- What the queue of a job accepts, the dispatcher accepts for that job. -/
theorem accept_eq_ok (h : d.Indexed) {job : Job} (live : d.jobs.get? j = some job)
    {report : BucketReport} {now : Instant} {wall : Timestamp} {a : Acceptance} {q : JobQueue}
    (ok : job.queue.accept b w report now wall = .ok (a, q)) :
    d.accept b w report now wall =
      (.ok ⟨j, a.retry⟩, [.resultAccepted j b w a.retry], d.settled j b w a q now) := by
  obtain ⟨inFlight, -⟩ := JobQueue.of_accept_ok ok
  rw [← queueOf_of_live live] at inFlight
  have owner : d.owners.get? b = some j :=
    (h.owners b j).2 (h.known_of_inFlight (Directory.mem_keys.2 ⟨a.taken, inFlight⟩))
  rw [Dispatcher.accept, owner]
  dsimp only
  rw [live]
  dsimp only
  rw [ok]
  rfl

/-- What a worker holds is of the job `j` or not in flight in it. -/
theorem held_of_job (h : d.Indexed) (j : JobId) :
    b ∈ d.roster.held w ↔ (∃ f, (d.queueOf j).inFlight.get? b = some f ∧ f.worker = w) ∨
      b ∈ d.roster.held w ∧ b ∉ (d.queueOf j).inFlight.keys := by
  constructor
  · intro hb
    by_cases inJob : b ∈ (d.queueOf j).inFlight.keys
    · obtain ⟨k, f, hf, worker⟩ := (h.held w b).1 hb
      have inOther : b ∈ (d.queueOf k).inFlight.keys := Directory.mem_keys.2 ⟨f, hf⟩
      obtain rfl := h.eq_of_known (h.known_of_inFlight inJob) (h.known_of_inFlight inOther)
      exact .inl ⟨f, hf, worker⟩
    · exact .inr ⟨hb, inJob⟩
  · rintro (⟨f, hf, worker⟩ | ⟨hb, -⟩)
    · exact (h.held w b).2 ⟨j, f, hf, worker⟩
    · exact hb

/-- What belongs to a job is known to it. -/
theorem owners_of_job (h : d.Indexed) (j : JobId) (b : BucketId) (k : JobId) :
    d.owners.get? b = some k ↔
      if k = j then b ∈ (d.queueOf j).known.keys else d.owners.get? b = some k := by
  split
  · rename_i e
    rw [e, h.owners]
  · rfl

/-- The queue of one job changes, and the indexes with it. -/
theorem change (h : d.Indexed) (j : JobId) (orderly : d'.Orderly)
    (others : ∀ k, k ≠ j → d'.queueOf k = d.queueOf k)
    (owners : ∀ b k, d'.owners.get? b = some k ↔
      if k = j then b ∈ (d'.queueOf j).known.keys else d.owners.get? b = some k)
    (held : ∀ w b, b ∈ d'.roster.held w ↔
      (∃ f, (d'.queueOf j).inFlight.get? b = some f ∧ f.worker = w) ∨
        b ∈ d.roster.held w ∧ b ∉ (d.queueOf j).inFlight.keys)
    (limit : ∀ w, (d'.roster.held w).length ≤ d'.config.bucketsPerWorker) : d'.Indexed := by
  refine ⟨orderly, fun b k => ?_, fun w b => ?_, limit⟩
  · rw [owners]
    split
    · rename_i e
      rw [e]
    · rename_i e
      rw [others k e, h.owners]
  · rw [held]
    constructor
    · rintro (⟨f, hf, worker⟩ | ⟨hb, notIn⟩)
      · exact ⟨j, f, hf, worker⟩
      · obtain ⟨k, f, hf, worker⟩ := (h.held w b).1 hb
        have e : k ≠ j := fun e => notIn (e ▸ Directory.mem_keys.2 ⟨f, hf⟩)
        exact ⟨k, f, by rwa [others k e], worker⟩
    · rintro ⟨k, f, hf, worker⟩
      by_cases e : k = j
      · exact .inl ⟨f, e ▸ hf, worker⟩
      · rw [others k e] at hf
        refine .inr ⟨(h.held w b).2 ⟨k, f, hf, worker⟩, fun inJob => e ?_⟩
        exact h.eq_of_known (h.known_of_inFlight inJob)
          (h.known_of_inFlight (Directory.mem_keys.2 ⟨f, hf⟩))

theorem enqueued (h : d.Indexed) {buckets : List Bucket} {priority : JobPriority}
    (notOwned : ∀ b ∈ buckets.map (·.id), b ∉ d.owners.keys)
    (unknown : ∀ b ∈ buckets.map (·.id), b ∉ (d.jobFor j priority).1.queue.known.keys)
    (nodup : (buckets.map (·.id)).Nodup) (now : Instant) :
    (d.enqueued j buckets priority now).Indexed := by
  refine h.change j (h.orderly.enqueued trivial unknown nodup now)
    (fun k e => queueOf_congr (get?_enqueued_of_ne d e buckets priority now))
    (fun b k => ?_) (fun w b => ?_) (fun w => ?_)
  · rw [queueOf_jobFor] at unknown
    rw [enqueued_owners, queueOf_enqueued_self, (JobQueue.known_appended nodup unknown now).mem_iff,
      List.mem_append]
    by_cases hb : b ∈ buckets.map (·.id)
    · rw [Directory.get?_foldl_insert_of_mem _ _ _ hb,
        Directory.get?_eq_none_iff.2 (notOwned b hb)]
      simp [hb, eq_comm]
    · rw [Directory.get?_foldl_insert_of_not_mem _ _ _ hb, h.owners]
      split
      · rename_i e
        simp [hb, e]
      · rfl
  · rw [enqueued_roster, queueOf_enqueued_self]
    exact h.held_of_job j
  · rw [enqueued_roster, enqueued_config]
    exact h.limit w

theorem handedOut (h : d.Indexed) {job : Job} (live : d.jobs.get? j = some job)
    {b : WaitingBucket} {rest : List WaitingBucket} (waiting : job.queue.waiting = b :: rest)
    (known : w ∈ d.roster.workers.keys)
    (room : (d.roster.held w).length < d.config.bucketsPerWorker) (now clock : Instant) :
    (d.handedOut j job.queue b rest w now clock).Indexed := by
  have this : (d.handedOut j job.queue b rest w now clock).queueOf j =
      (d.queueOf j).handedOut b rest w now := by
    rw [queueOf_of_live live]
    exact queueOf_withQueue_self live _
  have isWaiting : b.bucket.id ∈ (d.queueOf j).waitingIds := by
    rw [queueOf_of_live live]
    exact List.mem_map.2 ⟨b, waiting ▸ List.mem_cons_self, rfl⟩
  have notIn : b.bucket.id ∉ (d.queueOf j).inFlight.keys := by
    obtain ⟨gone, placed⟩ := h.orderly.placed_queueOf j
    obtain ⟨c, hc, e⟩ := List.mem_map.1 isWaiting
    exact e ▸ placed.not_inFlight c hc
  -- The bucket is in flight in no other job either, since only this job knows it.
  have free : ∀ w', b.bucket.id ∉ d.roster.held w' := fun w' hb => by
    obtain ⟨k, f, hf, -⟩ := (h.held w' b.bucket.id).1 hb
    have inOther := Directory.mem_keys.2 ⟨f, hf⟩
    obtain rfl := h.eq_of_known (h.known_of_waiting isWaiting) (h.known_of_inFlight inOther)
    exact notIn inOther
  refine h.change j (h.orderly.handedOut live waiting w now clock)
    (fun k e => queueOf_withQueue_of_ne e _) (fun c k => ?_) (fun w' c => ?_) (fun w' => ?_)
  · rw [this]
    exact h.owners_of_job j c k
  · rw [this, handedOut_roster, Roster.mem_held_didDequeue known]
    by_cases e : c = b.bucket.id
    · subst e
      simp [JobQueue.handedOut, Directory.get?_insert_self, free, eq_comm]
    · rw [JobQueue.handedOut, Directory.get?_insert_of_ne _ _ e]
      simpa [e] using h.held_of_job j
  · rw [handedOut_roster]
    by_cases e : w' = w
    · subst e
      exact Nat.le_trans (Roster.length_held_didDequeue_le known) room
    · rw [Roster.didDequeue, Roster.held_modify_of_ne _ _ e]
      exact h.limit w'

/-- Fewer buckets are within the limit, too. -/
theorem limit_of_subset (h : d.Indexed) {r : Roster}
    (fewer : ∀ w b, b ∈ r.held w → b ∈ d.roster.held w) (w : WorkerId) :
    (r.held w).length ≤ d.config.bucketsPerWorker :=
  Nat.le_trans ((Roster.held_nodup r w).length_le_of_subset fun b hb => fewer w b hb) (h.limit w)

theorem settled (h : d.Indexed) {job : Job} (live : d.jobs.get? j = some job)
    {report : BucketReport} {now : Instant} {wall : Timestamp} {a : Acceptance} {q : JobQueue}
    (ok : job.queue.accept b w report now wall = .ok (a, q))
    (clear : ∀ r, a.retry = some r → ∀ k, k ≠ j → r ∉ (d.queueOf k).known.keys) :
    (d.settled j b w a q now).Indexed := by
  obtain ⟨inFlight, worker, -, reported⟩ := JobQueue.of_accept_ok ok
  rw [← queueOf_of_live live] at inFlight reported
  have this : (d.settled j b w a q now).queueOf j = q := by
    rw [queueOf_settled, queueOf_withQueue_self live]
  have left : q.inFlight = (d.queueOf j).inFlight.erase b := by cases reported <;> rfl
  refine h.change j (h.orderly.settled live ok) (fun k e => ?_) (fun c k => ?_) (fun w' c => ?_)
    (fun w' => ?_)
  · rw [queueOf_settled, queueOf_withQueue_of_ne e]
  · rw [this, settled_owners]
    cases reported with
    | final none =>
      rw [none]
      exact h.owners_of_job j c k
    | again failed _ _ _ some =>
      rw [some]
      by_cases e : c = (JobQueue.lineageOf (d.queueOf j) a.taken.bucket.id).next.bucketId
      · rw [← e] at some
        rw [← e, Option.elim_some, Directory.get?_insert_self, JobQueue.retried, ← e]
        split
        · rename_i k
          simp [k, Directory.mem_keys_insert]
        · rename_i other
          rw [h.owners]
          simpa [Ne.symm other] using clear c some k other
      · rw [Option.elim_some, Directory.get?_insert_of_ne _ _ e, JobQueue.retried,
          Directory.mem_keys_insert, or_iff_right e]
        exact h.owners_of_job j c k
  · rw [this, settled_roster, Roster.mem_held_didReceive, left]
    by_cases e : c = b
    · subst e
      have isIn : c ∈ (d.queueOf j).inFlight.keys := Directory.mem_keys.2 ⟨a.taken, inFlight⟩
      rw [h.held_of_job j, Directory.get?_erase_self, inFlight]
      simp [isIn, worker, eq_comm]
    · rw [Directory.get?_erase_of_ne _ e]
      simpa [e] using h.held_of_job j
  · rw [settled_roster, settled_config]
    exact h.limit_of_subset (fun w c hc => (Roster.mem_held_didReceive.1 hc).1) w'

/-- What the workers hold after the buckets in flight were parted into those that were taken away
and those that stay in flight. -/
theorem held_release (h : d.Indexed) (j : JobId) {taken : List InFlightBucket}
    {rest : Directory BucketId InFlightBucket}
    (parts : ∀ c f, (d.queueOf j).inFlight.get? c = some f ↔
      (f ∈ taken ∧ f.id = c) ∨ rest.get? c = some f)
    (apart : ∀ f ∈ taken, rest.get? f.id = none) :
    b ∈ (taken.foldl (fun r f => r.release f.worker f.id) d.roster).held w ↔
      (∃ f, rest.get? b = some f ∧ f.worker = w) ∨
        b ∈ d.roster.held w ∧ b ∉ (d.queueOf j).inFlight.keys := by
  rw [Roster.mem_held_foldl_release]
  constructor
  · rintro ⟨hb, kept⟩
    rcases (h.held_of_job j).1 hb with ⟨f, hf, worker⟩ | outside
    · rcases (parts b f).1 hf with ⟨isTaken, id⟩ | stays
      · exact absurd ⟨worker.symm, id.symm⟩ (kept f isTaken)
      · exact .inl ⟨f, stays, worker⟩
    · exact .inr outside
  · rintro (⟨f, hf, worker⟩ | ⟨hb, notIn⟩)
    · have inFlight := (parts b f).2 (.inr hf)
      refine ⟨(h.held_of_job j).2 (.inl ⟨f, inFlight, worker⟩), fun g isTaken ⟨_, id⟩ => ?_⟩
      have none := apart g isTaken
      rw [← id, hf] at none
      cases none
    · refine ⟨hb, fun g isTaken ⟨_, id⟩ => notIn ?_⟩
      exact Directory.mem_keys.2 ⟨g, (parts b g).2 (.inl ⟨isTaken, id.symm⟩)⟩

theorem subset_of_release {taken : List InFlightBucket} {r : Roster} (w : WorkerId) (b : BucketId)
    (hb : b ∈ (taken.foldl (fun r f => r.release f.worker f.id) r).held w) : b ∈ r.held w :=
  ((Roster.mem_held_foldl_release taken r).1 hb).1

theorem tookBack (h : d.Indexed) {job : Job} (live : d.jobs.get? j = some job) (now : Instant) :
    (d.tookBack j job.queue now).Indexed := by
  obtain ⟨gone, placed⟩ := h.orderly.placed live
  have this : (d.tookBack j job.queue now).queueOf j =
      job.queue.takenBack d.roster d.config.maximumInFlight now :=
    queueOf_withQueue_self live _
  refine h.change j (h.orderly.tookBack live now) (fun k e => queueOf_withQueue_of_ne e _)
    (fun c k => ?_) (fun w c => ?_) (h.limit_of_subset subset_of_release)
  · rw [this]
    exact queueOf_of_live live ▸ h.owners_of_job j c k
  · rw [this]
    refine h.held_release j (fun c f => ?_) fun f => placed.get?_takenBack_of_stuck
    rw [queueOf_of_live live]
    exact placed.get?_inFlight_iff _ _ now c f

/-- The ids that a job knows are owned no more when the job is removed. -/
theorem owners_forget (h : d.Indexed) {job : Job} (live : d.jobs.get? j = some job)
    (b : BucketId) (k : JobId) :
    (d.forget j job.queue).owners.get? b = some k ↔ k ≠ j ∧ d.owners.get? b = some k := by
  rw [forget]
  by_cases hb : b ∈ job.queue.known.keys
  · have owner := (h.owners b j).2 (queueOf_of_live live ▸ hb)
    rw [Directory.get?_foldl_erase_of_mem _ _ hb, owner]
    simp [eq_comm]
  · rw [Directory.get?_foldl_erase_of_not_mem _ _ hb, iff_and_self]
    rintro owner rfl
    exact hb (queueOf_of_live live ▸ (h.owners b k).1 owner)

/-- A job is removed after its buckets in flight were taken away. -/
theorem forget (h : d.Indexed) {job : Job} (live : d.jobs.get? j = some job) {r : Roster}
    (held : ∀ w b, b ∈ r.held w ↔ b ∈ d.roster.held w ∧ b ∉ (d.queueOf j).inFlight.keys) :
    ({ d with roster := r }.forget j job.queue).Indexed := by
  have orderly : ({ d with roster := r }.forget j job.queue).Orderly :=
    Composed.forget (d := { d with roster := r }) h.orderly j job.queue
  have this : ({ d with roster := r }.forget j job.queue).queueOf j = .empty :=
    queueOf_forget_self _ j _
  refine h.change j orderly (fun k e => queueOf_forget_of_ne e _) (fun b k => ?_) (fun w b => ?_)
    (h.limit_of_subset fun w b hb => ((held w b).1 hb).1)
  · rw [this]
    refine (h.owners_forget live b k).trans ?_
    by_cases e : k = j <;> simp [e, JobQueue.empty, Directory.mem_keys]
  · rw [this]
    refine (held w b).trans ?_
    simp [JobQueue.empty]

theorem deleted (h : d.Indexed) {job : Job} (live : d.jobs.get? j = some job)
    (depleted : job.queue.isDepleted = true) : (d.forget j job.queue).Indexed := by
  refine h.forget live (r := d.roster) fun w b => ?_
  rw [queueOf_of_live live, (JobQueue.isDepleted_iff.1 depleted).2]
  simp

theorem cancelled (h : d.Indexed) {job : Job} (live : d.jobs.get? j = some job) :
    (d.cancelled j job.queue).Indexed := by
  obtain ⟨gone, placed⟩ := h.orderly.placed live
  have parts (c : BucketId) (f : InFlightBucket) : (d.queueOf j).inFlight.get? c = some f ↔
      (f ∈ job.queue.inFlight.values ∧ f.id = c) ∨
        (∅ : Directory BucketId InFlightBucket).get? c = some f := by
    rw [queueOf_of_live live, Directory.mem_values, Directory.get?_emptyCollection]
    constructor
    · exact fun hf => .inl ⟨⟨c, hf⟩, placed.own c f hf⟩
    · rintro (⟨⟨b, hf⟩, rfl⟩ | none)
      · rwa [placed.own b f hf]
      · cases none
  refine h.forget live fun w b => ?_
  refine (h.held_release j parts fun f _ => rfl).trans ?_
  simp

/-- A change of the roster that leaves the holdings alone. -/
theorem withRoster (h : d.Indexed) {r : Roster} (same : ∀ w, r.held w = d.roster.held w) :
    { d with roster := r }.Indexed where
  orderly := h.orderly
  owners := h.owners
  held w b := by
    rw [same]
    exact h.held w b
  limit w := by
    rw [same]
    exact h.limit w

theorem not_known_of_not_owned (h : d.Indexed) (notOwned : b ∉ d.owners.keys) (j : JobId) :
    b ∉ (d.queueOf j).known.keys := fun known =>
  notOwned (Directory.mem_keys.2 ⟨j, (h.owners b j).2 known⟩)

/-- Different buckets that no live job knows are taken in, whatever the job. -/
theorem enqueue_of_fresh (h : d.Indexed) {buckets : List Bucket}
    (notOwned : ∀ b ∈ buckets.map (·.id), b ∉ d.owners.keys)
    (nodup : (buckets.map (·.id)).Nodup) (j : JobId) (priority : JobPriority) (now : Instant) :
    d.enqueue j buckets priority now =
      (.ok (), [.jobEnqueued j buckets.length], d.enqueued j buckets priority now) := by
  have unknown : ∀ b ∈ buckets.map (·.id), b ∉ (d.queueOf j).known.keys := fun b hb =>
    h.not_known_of_not_owned (notOwned b hb) j
  have taken : (d.queueOf j).enqueue buckets now = .ok ((d.queueOf j).appended buckets now) :=
    JobQueue.enqueue_eq_ok_iff.2 ⟨unknown, nodup, rfl⟩
  have free : JobQueue.firstDuplicate? d.owners.contains [] (buckets.map (·.id)) = none := by
    refine JobQueue.firstDuplicate?_eq_none_iff.2 ⟨fun b hb => ⟨?_, List.not_mem_nil⟩, nodup⟩
    rw [Bool.eq_false_iff, ne_eq, Directory.contains_iff_mem_keys]
    exact notOwned b hb
  rcases d.enqueue_cases j buckets priority now with ⟨e, failed⟩ | ⟨-, -, -, added⟩
  · have accepted : (d.enqueue j buckets priority now).1 = .ok () := by
      rw [enqueue]
      dsimp only
      rw [free]
      dsimp only
      rw [queueOf_jobFor, queueOf_withOwners, taken]
    rw [failed] at accepted
    cases accepted
  · exact added

end Indexed

/-! ## All buckets in flight for a worker -/

/-- The buckets that are in flight for a worker, over all live jobs. -/
def inFlightFor (d : Dispatcher) (w : WorkerId) : List BucketId :=
  d.jobs.values.flatMap fun job =>
    (job.queue.inFlight.values.filter fun f => f.worker = w).map InFlightBucket.id

theorem mem_inFlightFor (orderly : d.Orderly) : b ∈ d.inFlightFor w ↔
    ∃ j f, (d.queueOf j).inFlight.get? b = some f ∧ f.worker = w := by
  simp only [inFlightFor, List.mem_flatMap, List.mem_map, List.mem_filter, decide_eq_true_eq,
    Directory.mem_values, inFlight_queueOf_eq_some]
  constructor
  · rintro ⟨job, ⟨j, live⟩, f, ⟨⟨c, hf⟩, worker⟩, rfl⟩
    obtain ⟨gone, placed⟩ := orderly.placed live
    exact ⟨j, f, ⟨job, live, by rwa [placed.own c f hf]⟩, worker⟩
  · rintro ⟨j, f, ⟨job, live, hf⟩, worker⟩
    obtain ⟨gone, placed⟩ := orderly.placed live
    exact ⟨job, ⟨j, live⟩, f, ⟨⟨b, hf⟩, worker⟩, placed.own b f hf⟩

/-- No bucket is in flight twice. -/
theorem Indexed.nodup_inFlightFor (h : d.Indexed) (w : WorkerId) : (d.inFlightFor w).Nodup := by
  have sublist {j : JobId} {job : Job} (live : d.jobs.get? j = some job) :
      ((job.queue.inFlight.values.filter fun f => f.worker = w).map InFlightBucket.id).Sublist
        job.queue.inFlight.keys := by
    obtain ⟨gone, placed⟩ := h.orderly.placed live
    rw [← JobQueue.ids_values placed.own]
    exact List.filter_sublist.map _
  have known {j : JobId} {job : Job} (live : d.jobs.get? j = some job) (b : BucketId)
      (hb : b ∈ job.queue.inFlight.keys) : b ∈ (d.queueOf j).known.keys :=
    h.known_of_inFlight (queueOf_of_live live ▸ hb)
  rw [inFlightFor, List.Nodup, List.pairwise_flatMap]
  constructor
  · intro job isLive
    obtain ⟨j, live⟩ := Directory.mem_values.1 isLive
    exact (Directory.keys_nodup _).sublist (sublist live)
  · refine List.pairwise_map.2 (d.jobs.sorted.imp_of_mem ?_)
    intro (j, job) (k, other) hj hk less b hb c hc same
    have live := Directory.get?_eq_some_iff.2 hj
    have live' := Directory.get?_eq_some_iff.2 hk
    subst same
    have one := h.eq_of_known (known live b ((sublist live).subset hb))
      (known live' b ((sublist live').subset hc))
    exact String.lt_irrefl _ (one ▸ less)

/-- The roster lists exactly the buckets that are in flight for a worker. -/
theorem Indexed.inFlightFor_perm_held (h : d.Indexed) (w : WorkerId) :
    (d.inFlightFor w).Perm (d.roster.held w) := by
  refine (List.perm_ext_iff_of_nodup (h.nodup_inFlightFor w) (Roster.held_nodup _ _)).2 fun b => ?_
  rw [mem_inFlightFor h.orderly, h.held]

/-! ## Runs without clashes -/

/-- The operation accepts a report whose failed tests run again under an id that another live job
knows. -/
def Clashes (d : Dispatcher) : Operation → Prop
  | .accept b w report now wall => ∃ j r, (d.accept b w report now wall).1 = .ok ⟨j, some r⟩ ∧
      ∃ k job, k ≠ j ∧ d.jobs.get? k = some job ∧ r ∈ job.queue.known.keys
  | _ => False

/-- No operation of a run clashes. -/
def ClashFree (d : Dispatcher) : List Operation → Prop
  | [] => True
  | op :: ops => ¬d.Clashes op ∧ (d.perform op).ClashFree ops

theorem Indexed.perform (h : d.Indexed) {op : Operation} (clear : ¬d.Clashes op) :
    (d.perform op).Indexed := by
  cases op with
  | enqueue j buckets priority now =>
    rw [Dispatcher.perform]
    rcases d.enqueue_cases j buckets priority now with ⟨e, same⟩ |
      ⟨notOwned, unknown, nodup, added⟩
    · rw [same]
      exact h
    · rw [added]
      exact h.enqueued notOwned unknown nodup now
  | dequeue w now clock =>
    rw [Dispatcher.perform]
    generalize outcome : d.dequeue w now clock = answer
    cases outcome ▸ d.dequeue_cases h.orderly w now clock with
    | nothing r seen =>
      refine h.withRoster fun w' => ?_
      rcases seen with rfl | rfl <;> simp
    | bucket r seen known room live waiting =>
      have same : ∀ w', r.held w' = d.roster.held w' := by
        rcases seen with rfl | rfl <;> simp
      exact (h.withRoster same).handedOut live waiting known room now clock
  | accept b w report now wall =>
    rw [Dispatcher.perform]
    generalize outcome : d.accept b w report now wall = answer
    cases outcome ▸ d.accept_cases b w report now wall with
    | rejected => exact h.withRoster fun w' => by simp
    | @accepted j job a q owned live ok =>
      refine h.settled live ok fun r some k other known => clear ⟨j, r, ?_, k, ?_⟩
      · rw [outcome, some]
      · obtain ⟨other', live', known⟩ := mem_known_queueOf.1 known
        exact ⟨other', other, live', known⟩
  | reclaim now =>
    exact reclaim_induction (P := Indexed)
      (fun d h => h.withRoster fun w => Roster.held_perform _)
      (fun d j job h live => h.tookBack live now) h
  | delete j =>
    rw [Dispatcher.perform]
    rcases d.delete_cases j with ⟨e, same⟩ | ⟨job, live, depleted, removed⟩
    · rw [same]
      exact h
    · rw [removed]
      exact h.deleted live depleted
  | cancel j =>
    rw [Dispatcher.perform]
    rcases d.cancel_cases j with ⟨-, e, same⟩ | ⟨job, live, removed⟩
    · rw [same]
      exact h
    · rw [removed]
      exact h.cancelled live
  | rebalance => exact ⟨h.orderly, h.owners, h.held, h.limit⟩
  | prefer => exact ⟨h.orderly, h.owners, h.held, h.limit⟩
  | roster op => exact h.withRoster fun w => Roster.held_perform op

theorem Indexed.run (h : d.Indexed) {ops : List Operation} (clear : d.ClashFree ops) :
    (d.run ops).Indexed := by
  induction ops generalizing d with
  | nil => exact h
  | cons op ops ih => exact ih (h.perform clear.1) clear.2

theorem indexed_new (config : DispatcherConfig) (silence : Duration) :
    (new config silence).Indexed := by
  refine ⟨composed_new _ config silence, fun b j => ?_, fun w b => ?_, fun w => Nat.zero_le _⟩
  · simp [new, queueOf, JobQueue.empty, Directory.mem_keys]
  · simp [new, queueOf, JobQueue.empty, Roster.held, Roster.new]

end TestFleet.Dispatcher
