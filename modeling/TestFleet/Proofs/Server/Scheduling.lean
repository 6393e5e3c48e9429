import TestFleet.Proofs.Server.Indexes

/-!
# Scheduling a job

A request to schedule tests is refused and changes nothing, or all buckets of the split are taken
in. Ids of buckets are compared twice, with the index of owners and with the queue of the job, and
the job may have to be created in between. The two agree, and as the ids of a split are of the job,
no other job is ever the reason of a refusal.

* `Composed.owner_eq`: an id that a split of a job makes has no other job for its owner;
* `TookIn`, `tookIn_enqueued`: all that taking buckets in does;
* `Refuses`: the requests that are to be refused;
* `Answered`, `answered_schedule`: a request is refused, or taken in as a whole;
* `schedulesWholly_run`: so it is after every run of a server.
-/

namespace TestFleet

theorem split_eq_error_iff {job : JobId} {strategy : SplitStrategy} {workers : Nat}
    {tests : List ConfiguredTest} : (∃ e, split job strategy workers tests = .error e) ↔
      strategy = .fixedBucketSize 0 := by
  rw [split]
  split
  · rename_i zero
    exact iff_of_true ⟨_, rfl⟩ zero
  · rename_i positive
    refine iff_of_false ?_ positive
    rintro ⟨e, failed⟩
    cases failed

namespace Dispatcher

variable {d d' : Dispatcher} {j k : JobId} {b : BucketId}

/-- An id that a split of a job makes has no other job for its owner. -/
theorem Composed.owner_eq (h : d.Composed Derived) (indexed : d.Indexed) (derived : IsDerived j b)
    (owner : d.owners.get? b = some k) : k = j := by
  have known := (indexed.owners b k).1 owner
  have ofJob : OfJob j b := .inl derived
  exact ((h.namedFor k).known b known).eq_job ofJob

/-- So it is owned only if the queue of the job knows it. -/
theorem Composed.not_owned (h : d.Composed Derived) (indexed : d.Indexed) (derived : IsDerived j b)
    (unknown : b ∉ (d.queueOf j).known.keys) : b ∉ d.owners.keys := by
  intro owned
  obtain ⟨k, owner⟩ := Directory.mem_keys.1 owned
  obtain rfl := h.owner_eq indexed derived owner
  exact unknown ((indexed.owners b k).1 owner)

/-! ## What taking buckets in does -/

/-- A job took in some buckets, which wait behind those that it had, in their order. If it was live
it keeps its priority and its place among the jobs; if not it has the given priority and is the last
one. Nothing else changes. -/
structure TookIn (d : Dispatcher) (j : JobId) (buckets : List Bucket) (priority : JobPriority)
    (now : Instant) (d' : Dispatcher) : Prop where
  kept : ∀ live, d.jobs.get? j = some live → d'.nextSequence = d.nextSequence ∧
    d'.jobs.get? j = some { live with queue := d'.queueOf j }
  created : d.jobs.get? j = none → d'.nextSequence = d.nextSequence + 1 ∧
    d'.jobs.get? j = some ⟨priority, d.nextSequence, d'.queueOf j⟩
  waiting : (d'.queueOf j).waiting = (d.queueOf j).waiting ++ buckets.map fun b => ⟨b, now⟩
  known : (d'.queueOf j).known.keys.Perm (buckets.map (·.id) ++ (d.queueOf j).known.keys)
  inFlight : (d'.queueOf j).inFlight = (d.queueOf j).inFlight
  lineages : (d'.queueOf j).lineages = (d.queueOf j).lineages
  owners : ∀ b, d'.owners.get? b =
    if b ∈ buckets.map (·.id) then some j else d.owners.get? b
  others : ∀ k, k ≠ j → d'.jobs.get? k = d.jobs.get? k
  rest : d'.config = d.config ∧ d'.roster = d.roster ∧ d'.ledger = d.ledger ∧
    d'.preferences = d.preferences

theorem enqueued_preferences (d : Dispatcher) (j : JobId) (buckets : List Bucket)
    (priority : JobPriority) (now : Instant) :
    (d.enqueued j buckets priority now).preferences = d.preferences := by
  rw [enqueued, jobFor]
  cases d.jobs.get? j <;> rfl

theorem tookIn_enqueued {buckets : List Bucket} (nodup : (buckets.map (·.id)).Nodup)
    (unknown : ∀ b ∈ buckets.map (·.id), b ∉ (d.queueOf j).known.keys) (priority : JobPriority)
    (now : Instant) : d.TookIn j buckets priority now (d.enqueued j buckets priority now) := by
  have queue := d.queueOf_enqueued_self j buckets priority now
  have job := d.get?_enqueued_self j buckets priority now
  rw [queueOf_jobFor, ← queue] at job
  refine ⟨fun live isLive => ⟨?_, ?_⟩, fun notLive => ⟨?_, ?_⟩, by rw [queue]; rfl, ?_,
    by rw [queue]; rfl, by rw [queue]; rfl, fun b => ?_,
    fun k e => d.get?_enqueued_of_ne e buckets priority now, d.enqueued_config ..,
    d.enqueued_roster .., d.enqueued_ledger .., d.enqueued_preferences ..⟩
  · rw [enqueued, jobFor_of_live isLive]
  · rw [job, jobFor_of_live isLive]
  · rw [enqueued, jobFor_of_new notLive]
  · rw [job, jobFor_of_new notLive]
  · rw [queue]
    exact JobQueue.known_appended nodup unknown now
  · rw [enqueued_owners]
    split
    · rename_i new
      exact Directory.get?_foldl_insert_of_mem _ _ _ new
    · rename_i old
      exact Directory.get?_foldl_insert_of_not_mem _ _ _ old

end Dispatcher

/-! ## Requests -/

namespace Server

/-- The requests that are to be refused: a retired server takes none, buckets of no test cannot be
made, and the ids of all buckets have to be different, and new to the job if it is live. -/
def Refuses (s : Server) (job : Submission) : Prop :=
  s.isRetired = true ∨ job.strategy = .fixedBucketSize 0 ∨
    ∃ buckets, split job.job job.strategy s.workers job.tests = .ok buckets ∧
      (¬(buckets.map (·.id)).Nodup ∨ ∃ b ∈ buckets, ∃ live,
        s.dispatcher.jobs.get? job.job = some live ∧ b.id ∈ live.queue.known.keys)

/-- What becomes of a request: it is refused, or taken in as a whole. -/
inductive Answered (s : Server) (job : Submission) (now : Instant) :
    ScheduleReply × List Event × Server → Prop where
  | refused (refuses : s.Refuses job) (reason : String) :
      Answered s job now (.rejected reason, [], s)
  | scheduled (isOpen : s.isRetired = false) {buckets : List Bucket}
      (parts : split job.job job.strategy s.workers job.tests = .ok buckets)
      (nodup : (buckets.map (·.id)).Nodup)
      (unknown : ∀ b ∈ buckets.map (·.id), b ∉ (s.dispatcher.queueOf job.job).known.keys) :
      Answered s job now (.scheduled (UInt64.ofNat buckets.length),
        [.jobEnqueued job.job buckets.length],
        s.withDispatcher (s.dispatcher.enqueued job.job buckets job.priority now))

variable {s : Server} {job : Submission} {now : Instant}

theorem answered_schedule (composed : s.dispatcher.Composed Derived)
    (indexed : s.dispatcher.Indexed) (job : Submission) (now : Instant) :
    s.Answered job now (s.schedule job now) := by
  rw [schedule]
  split
  · rename_i retired
    exact .refused (.inl retired) retiredReason
  rename_i isOpen
  split
  · rename_i e failed
    exact .refused (.inr (.inl (split_eq_error_iff.1 ⟨e, failed⟩))) e.message
  rename_i buckets parts
  have derived : ∀ b ∈ buckets.map (·.id), IsDerived job.job b :=
    List.forall_mem_map.2 (derived_of_split parts)
  by_cases fits : (buckets.map (·.id)).Nodup ∧
      ∀ b ∈ buckets.map (·.id), b ∉ (s.dispatcher.queueOf job.job).known.keys
  · obtain ⟨nodup, unknown⟩ := fits
    have notOwned : ∀ b ∈ buckets.map (·.id), b ∉ s.dispatcher.owners.keys := fun b hb =>
      composed.not_owned indexed (derived b hb) (unknown b hb)
    rw [indexed.enqueue_of_fresh notOwned nodup]
    exact .scheduled (Bool.eq_false_iff.2 isOpen) parts nodup unknown
  · rcases s.dispatcher.enqueue_cases job.job buckets job.priority now with
      ⟨e, failed⟩ | ⟨-, unknown, nodup, -⟩
    · rw [failed]
      refine .refused (.inr (.inr ⟨buckets, parts, ?_⟩)) e.message
      by_cases nodup : (buckets.map (·.id)).Nodup
      · refine .inr (Decidable.byContradiction fun allNew => fits ⟨nodup, fun b hb known => ?_⟩)
        obtain ⟨bucket, mem, rfl⟩ := List.mem_map.1 hb
        exact allNew ⟨bucket, mem, Dispatcher.mem_known_queueOf.1 known⟩
      · exact .inl nodup
    · rw [Dispatcher.queueOf_jobFor] at unknown
      exact absurd ⟨nodup, unknown⟩ fits

/-- What a request to schedule tests does. It is rejected exactly if it is to be refused, and then
nothing changes. Otherwise the tests are split for as many workers as the server is told, or else
for those that may be handed work, but at least for one, and the job takes in all of the buckets. -/
structure SchedulesWholly (s : Server) (job : Submission) (now : Instant) : Prop where
  rejected : (∃ reason, (s.schedule job now).1 = .rejected reason) ↔ s.Refuses job
  unchanged : ∀ reason, (s.schedule job now).1 = .rejected reason →
    (s.schedule job now).2 = ([], s)
  scheduled : ¬s.Refuses job → ∃ buckets d',
    split job.job job.strategy
      (s.workersHint.getD (max s.dispatcher.roster.usable.length 1)) job.tests = .ok buckets ∧
    s.schedule job now = (.scheduled (UInt64.ofNat buckets.length),
      [.jobEnqueued job.job buckets.length], s.withDispatcher d') ∧
    s.dispatcher.TookIn job.job buckets job.priority now d'

/-- A request that is taken in was not to be refused. -/
theorem not_refuses (isOpen : s.isRetired = false) {buckets : List Bucket}
    (parts : split job.job job.strategy s.workers job.tests = .ok buckets)
    (nodup : (buckets.map (·.id)).Nodup)
    (unknown : ∀ b ∈ buckets.map (·.id), b ∉ (s.dispatcher.queueOf job.job).known.keys) :
    ¬s.Refuses job := by
  rintro (retired | zero | ⟨others, parts', refused⟩)
  · rw [isOpen] at retired
    cases retired
  · obtain ⟨e, failed⟩ := split_eq_error_iff.2 zero
    rw [parts] at failed
    cases failed
  · rw [parts] at parts'
    cases parts'
    rcases refused with repeated | ⟨b, mem, live, isLive, known⟩
    · exact repeated nodup
    · exact unknown b.id (List.mem_map.2 ⟨b, mem, rfl⟩)
        (Dispatcher.mem_known_queueOf.2 ⟨live, isLive, known⟩)

theorem schedulesWholly (composed : s.dispatcher.Composed Derived) (indexed : s.dispatcher.Indexed)
    (job : Submission) (now : Instant) : s.SchedulesWholly job now := by
  have answered := answered_schedule composed indexed job now
  generalize outcome : s.schedule job now = answer at answered
  cases answered with
  | refused refuses reason =>
    refine ⟨?_, fun _ _ => ?_, fun scheduled => absurd refuses scheduled⟩
    · rw [outcome]
      exact iff_of_true ⟨reason, rfl⟩ refuses
    · rw [outcome]
  | @scheduled isOpen buckets parts nodup unknown =>
    have taken := not_refuses isOpen parts nodup unknown
    refine ⟨?_, fun reason rejected => ?_, fun _ => ⟨buckets, _, parts, outcome, ?_⟩⟩
    · rw [outcome]
      exact iff_of_false nofun taken
    · rw [outcome] at rejected
      cases rejected
    · exact Dispatcher.tookIn_enqueued nodup unknown job.priority now

end Server

namespace ServerSetup

/-- After any requests, sweeps and rebalances, a request to schedule tests is rejected and changes
nothing, or is scheduled as a whole. -/
theorem schedulesWholly_run (setup : ServerSetup) (steps : List Server.Step) (job : Submission)
    (now : Instant) : (setup.server.run steps).SchedulesWholly job now :=
  Server.schedulesWholly (setup.composed_run steps) (setup.indexed_run steps) job now

end ServerSetup

end TestFleet
