import TestFleet.Proofs.Queue.Indexes

/-!
# Reports reach their job

A report reaches the job that its bucket is in flight for as long as no bucket that runs failed
tests again gets an id that another live job knows. Ids that are enqueued are compared with those of
all live jobs; the id of a bucket that runs failed tests again is compared with those of its own job
only. After the first such clash there always is a way to go on that takes a bucket from its worker.

* `Indexed.routesSoundly`: right indexes route right;
* `exists_misrouted`: after a clash they may fail to;
* `routesSoundly_iff_clashFree`: a run and all that may follow routes right exactly if nothing in
  the run clashes;
* `not_routesSoundly`: a run of two jobs that does clash.
-/

namespace TestFleet.Dispatcher

/-- No bucket is held by two live jobs, and a report from the worker that has a bucket in flight is
accepted for the job it is in flight for, as long as the report names tests of the bucket. -/
structure RoutesSoundly (d : Dispatcher) : Prop where
  unique : ∀ j k job other b, d.jobs.get? j = some job → d.jobs.get? k = some other →
    b ∈ job.queue.waitingIds ∨ b ∈ job.queue.inFlight.keys →
    b ∈ other.queue.waitingIds ∨ b ∈ other.queue.inFlight.keys → j = k
  routed : ∀ j job b f, d.jobs.get? j = some job → job.queue.inFlight.get? b = some f →
    ∀ report now wall, (∀ r ∈ report.results, r.entry ∈ f.bucket.entries) →
    ∃ retry, (d.accept b f.worker report now wall).1 = .ok ⟨j, retry⟩

variable {d d' : Dispatcher} {j k : JobId} {b : BucketId} {w : WorkerId}

theorem Indexed.known_of_held (h : d.Indexed) {job : Job} (live : d.jobs.get? j = some job)
    (held : b ∈ job.queue.waitingIds ∨ b ∈ job.queue.inFlight.keys) :
    b ∈ (d.queueOf j).known.keys := by
  rw [← queueOf_of_live live] at held
  exact held.elim h.known_of_waiting h.known_of_inFlight

theorem Indexed.routesSoundly (h : d.Indexed) : d.RoutesSoundly := by
  refine ⟨fun j k job other b live live' held held' => ?_,
    fun j job b f live inFlight report now wall expected => ?_⟩
  · exact h.eq_of_known (h.known_of_held live' held') (h.known_of_held live held)
  · have known := h.known_of_held live (.inr (Directory.mem_keys.2 ⟨f, inFlight⟩))
    obtain ⟨a, q, ok⟩ := JobQueue.exists_accept_eq_ok inFlight expected now wall
    refine ⟨a.retry, ?_⟩
    rw [accept, (h.owners b j).2 known]
    dsimp only
    rw [live]
    dsimp only
    rw [ok]

/-! ## After a clash -/

/-- A worker that may have work gets the head of the line of the only live job. -/
theorem dequeue_of_only (orderly : d.Orderly) {job : Job} (live : d.jobs.get? j = some job)
    (only : ∀ k, k ≠ j → d.jobs.get? k = none) {first : WaitingBucket}
    {rest : List WaitingBucket} (waiting : job.queue.waiting = first :: rest)
    (alive : d.roster.liveness w = .alive)
    (room : (d.roster.held w).length < d.config.bucketsPerWorker) (now clock : Instant) :
    d.perform (.dequeue w now clock) = d.handedOut j job.queue first rest w now clock := by
  have some : d.candidate w j job ∈ d.candidates w :=
    mem_candidates.2 ⟨j, job, live, by simp [JobQueue.enqueuedCount, waiting], rfl⟩
  have nonempty : (d.candidates w).isEmpty = false := by
    rw [List.isEmpty_eq_false_iff_exists_mem]
    exact ⟨_, some⟩
  have ranked (c : Candidate) : c ∈ d.config.precedence.rank (d.candidates w) ↔
      c ∈ d.candidates w := (perm_sortBy _ _).mem_iff
  rw [perform, dequeue, alive]
  dsimp only
  rw [handOutWork]
  dsimp only
  rw [if_neg (Nat.not_le.2 room), if_neg (by simp [nonempty])]
  cases cs : d.config.precedence.rank (d.candidates w) with
  | nil =>
    rw [← ranked, cs] at some
    cases some
  | cons c cs' =>
    have ofJob : c.job = j := by
      obtain ⟨k, other, live', -, rfl⟩ := mem_candidates.1 ((ranked c).1 (cs ▸ List.mem_cons_self))
      by_cases e : k = j
      · exact e
      · rw [only k e] at live'
        cases live'
    obtain ⟨gone, placed⟩ := orderly.placed live
    rw [handOut, ofJob, live]
    dsimp only
    rw [JobQueue.dequeue_eq placed.not_inFlight, waiting]
    rfl

/-- What cancelling some jobs leaves of a dispatcher. -/
structure Reduced (d d' : Dispatcher) (js : List JobId) : Prop where
  jobs : ∀ k, d'.jobs.get? k = if k ∈ js then none else d.jobs.get? k
  owners : ∀ b, d.owners.get? b = none → d'.owners.get? b = none
  held : ∀ w b, b ∈ d'.roster.held w → b ∈ d.roster.held w
  config : d'.config = d.config

theorem reduced_cancel (d : Dispatcher) (j : JobId) : Reduced d (d.perform (.cancel j)) [j] := by
  rw [perform]
  rcases d.cancel_cases j with ⟨gone, e, same⟩ | ⟨job, -, removed⟩
  · rw [same]
    refine ⟨fun k => ?_, fun b h => h, fun w b h => h, rfl⟩
    by_cases hk : k = j <;> simp [hk, gone]
  · rw [removed]
    refine ⟨fun k => ?_, fun b h => ?_, Indexed.subset_of_release, rfl⟩
    · by_cases hk : k = j
      · simp [hk, cancelled, forget, Directory.get?_erase_self]
      · simp [hk, cancelled, forget, Directory.get?_erase_of_ne, withRoster]
    · by_cases hb : b ∈ job.queue.known.keys
      · exact Directory.get?_foldl_erase_of_mem _ _ hb
      · exact (Directory.get?_foldl_erase_of_not_mem _ _ hb).trans h

theorem reduced_run_cancel (d : Dispatcher) (js : List JobId) :
    Reduced d (d.run (js.map .cancel)) js := by
  induction js generalizing d with
  | nil => exact ⟨fun k => by simp [run], fun b h => h, fun w b h => h, rfl⟩
  | cons j js ih =>
    have first := d.reduced_cancel j
    have rest := ih (d.perform (.cancel j))
    refine ⟨fun k => ?_, fun b h => rest.owners b (first.owners b h),
      fun w b h => first.held w b (rest.held w b h), rest.config.trans first.config⟩
    refine (rest.jobs k).trans ?_
    rw [first.jobs]
    by_cases hj : k = j <;> by_cases hjs : k ∈ js <;> simp [hj, hjs]

/-- News of a worker leaves what is live, owned and held as it is. -/
theorem Reduced.roster {js : List JobId} (h : Reduced d d' js) (op : Roster.Operation) :
    Reduced d (d'.perform (.roster op)) js := by
  refine ⟨h.jobs, h.owners, fun w b hb => h.held w b ?_, h.config⟩
  rwa [perform, withRoster, Roster.held_perform] at hb

theorem Reduced.room {js : List JobId} (h : Reduced d d' js)
    (room : (d.roster.held w).length < d.config.bucketsPerWorker) :
    (d'.roster.held w).length < d'.config.bucketsPerWorker := by
  have fewer := (Roster.held_nodup d'.roster w).length_le_of_subset (h.held w)
  rw [h.config]
  exact Nat.lt_of_le_of_lt fewer room

theorem clashFree_of_forall {ops : List Operation} (h : ∀ op ∈ ops, ∀ d, ¬Clashes d op) :
    d.ClashFree ops := by
  induction ops generalizing d with
  | nil => trivial
  | cons op ops ih =>
    exact ⟨h op List.mem_cons_self d, ih fun op hop => h op (List.mem_cons_of_mem _ hop)⟩

theorem clashFree_append {ops more : List Operation} :
    d.ClashFree (ops ++ more) ↔ d.ClashFree ops ∧ (d.run ops).ClashFree more := by
  induction ops generalizing d with
  | nil => simp [ClashFree, run]
  | cons op ops ih => simp [ClashFree, ih, run, and_assoc]

/-- A bucket that is in flight under an id that belongs to no job is lost to its worker. -/
theorem not_routesSoundly_of_unowned {job : Job} (live : d.jobs.get? j = some job)
    {f : InFlightBucket} (inFlight : job.queue.inFlight.get? b = some f)
    (unowned : d.owners.get? b = none) : ¬d.RoutesSoundly := fun sound => by
  obtain ⟨retry, accepted⟩ := sound.routed j job b f live inFlight ⟨b, ⟨"", ""⟩, []⟩ ⟨0⟩ ⟨0⟩
    fun r hr => absurd hr List.not_mem_nil
  rw [accept, unowned] at accepted
  cases accepted

/-- A waiting bucket whose id belongs to no job can be handed out: all other jobs are cancelled, and
a worker with room for it asks for work. -/
theorem exists_lost (orderly : d.Orderly) {job : Job} (live : d.jobs.get? j = some job)
    {first : WaitingBucket} {rest : List WaitingBucket}
    (waiting : job.queue.waiting = first :: rest)
    (room : (d.roster.held w).length < d.config.bucketsPerWorker)
    (unowned : d.owners.get? first.bucket.id = none) :
    ∃ more, (∀ op ∈ more, ∀ d, ¬Clashes d op) ∧ ¬(d.run more).RoutesSoundly := by
  let others := d.jobs.keys.filter fun k => k ≠ j
  let now : Instant := ⟨0⟩
  let prelude : List Operation :=
    others.map .cancel ++ [.roster (.unblock w now), .roster (.register w now)]
  have reduced : Reduced d (d.run prelude) others := by
    rw [run_append]
    exact ((d.reduced_run_cancel others).roster _).roster _
  have live' : (d.run prelude).jobs.get? j = some job := by
    rw [reduced.jobs, live]
    simp [others]
  have only (k : JobId) (hk : k ≠ j) : (d.run prelude).jobs.get? k = none := by
    rw [reduced.jobs]
    split
    · rfl
    · rename_i notOther
      rw [Directory.get?_eq_none_iff]
      exact fun hin => notOther (by simp [others, hk, hin])
  have orderly' : (d.run prelude).Orderly := orderly.run fun op _ => admitted_of_forall op
  have alive : (d.run prelude).roster.liveness w = .alive := by
    rw [run_append]
    exact Roster.liveness_unblock_register _ _ _
  have handed := dequeue_of_only orderly' live' only waiting alive (reduced.room room) now now
  refine ⟨prelude ++ [.dequeue w now now], fun op hop d => ?_, ?_⟩
  · simp only [prelude, List.mem_append, List.mem_map, List.mem_cons, List.not_mem_nil,
      or_false] at hop
    rcases hop with (⟨k, -, rfl⟩ | rfl | rfl) | rfl <;> exact id
  · rw [run_append]
    show ¬((d.run prelude).perform (.dequeue w now now)).RoutesSoundly
    rw [handed]
    exact not_routesSoundly_of_unowned (get?_withQueue_self live' _)
      (Directory.get?_insert_self _ _ _) (reduced.owners _ unowned)

theorem owners_cancel_of_known {job : Job} (live : d.jobs.get? k = some job)
    (known : b ∈ job.queue.known.keys) : (d.perform (.cancel k)).owners.get? b = none := by
  rw [perform]
  rcases d.cancel_cases k with ⟨gone, -⟩ | ⟨job', live', removed⟩
  · rw [gone] at live
    cases live
  · rw [removed]
    rw [live'] at live
    cases live
    exact Directory.get?_foldl_erase_of_mem _ _ known

/-- The worker whose report was accepted has room for one more bucket. -/
theorem Indexed.room_settled (h : d.Indexed) {job : Job} (live : d.jobs.get? j = some job)
    {a : Acceptance} (inFlight : job.queue.inFlight.get? b = some a.taken) (q : JobQueue)
    (now : Instant) :
    ((d.settled j b a.taken.worker a q now).roster.held a.taken.worker).length <
      (d.settled j b a.taken.worker a q now).config.bucketsPerWorker := by
  have holds : b ∈ d.roster.held a.taken.worker :=
    (h.held _ b).2 ⟨j, a.taken, by rwa [queueOf_of_live live], rfl⟩
  have gone : b ∉ (d.settled j b a.taken.worker a q now).roster.held a.taken.worker := by
    rw [settled_roster, Roster.mem_held_didReceive]
    simp
  have held : b :: (d.settled j b a.taken.worker a q now).roster.held a.taken.worker ⊆
      d.roster.held a.taken.worker := fun c hc => by
    rcases List.mem_cons.1 hc with rfl | hc
    · exact holds
    · rw [settled_roster] at hc
      exact (Roster.mem_held_didReceive.1 hc).1
  have fewer := (List.nodup_cons.2 ⟨gone, Roster.held_nodup _ _⟩).length_le_of_subset held
  rw [List.length_cons] at fewer
  rw [settled_config]
  exact Nat.lt_of_lt_of_le fewer (h.limit _)

/-- A retry bucket whose id another live job knows: the other job is cancelled, and the retry
bucket, which belongs to no job then, is handed out. -/
theorem exists_misrouted_settled (h : d.Indexed) {job other : Job}
    (live : d.jobs.get? j = some job) {report : BucketReport} {now : Instant} {wall : Timestamp}
    {a : Acceptance} {q : JobQueue} (ok : job.queue.accept b w report now wall = .ok (a, q))
    {r : BucketId} (retry : a.retry = some r) (hk : k ≠ j) (live' : d.jobs.get? k = some other)
    (known : r ∈ other.queue.known.keys) :
    ∃ more, (d.settled j b w a q now).ClashFree more ∧
      ¬((d.settled j b w a q now).run more).RoutesSoundly := by
  obtain ⟨inFlight, rfl, -, reported⟩ := JobQueue.of_accept_ok ok
  have orderly := (h.orderly.settled live ok).perform (admitted_of_forall (.cancel k))
  have room := h.room_settled live inFlight q now
  have reduced := (d.settled j b a.taken.worker a q now).reduced_cancel k
  have still : (d.settled j b a.taken.worker a q now).jobs.get? k = some other := by
    rw [settled_jobs, get?_withQueue_of_ne hk, live']
  have stays : ((d.settled j b a.taken.worker a q now).perform (.cancel k)).jobs.get? j =
      some { job with queue := q } := by
    rw [reduced.jobs, settled_jobs, get?_withQueue_self live, if_neg (by simpa using hk.symm)]
  have unowned := owners_cancel_of_known still known
  cases reported with
  | final none =>
    rw [none] at retry
    cases retry
  | again failed _ _ _ made =>
    rw [made] at retry
    cases retry
    obtain ⟨more, quiet, unsound⟩ := exists_lost orderly stays rfl (reduced.room room) unowned
    exact ⟨.cancel k :: more, ⟨id, clashFree_of_forall quiet⟩, unsound⟩

/-- After a clash there is a way to go on, without another one, that takes a bucket in flight from
its worker. -/
theorem exists_misrouted (h : d.Indexed) {op : Operation} (clash : d.Clashes op) :
    ∃ more, (d.perform op).ClashFree more ∧ ¬((d.perform op).run more).RoutesSoundly := by
  cases op with
  | accept b w report now wall =>
    obtain ⟨j, r, outcome, k, other, hk, live', known⟩ := clash
    rw [perform]
    generalize result : d.accept b w report now wall = answer at outcome ⊢
    cases result ▸ d.accept_cases b w report now wall with
    | rejected => cases outcome
    | accepted owned live ok =>
      simp only [Except.ok.injEq, Routed.mk.injEq] at outcome
      obtain ⟨rfl, retry⟩ := outcome
      exact exists_misrouted_settled h live ok retry hk live' known
  | _ => exact clash.elim

theorem clashFree_of_routesSoundly (h : d.Indexed) {ops : List Operation}
    (sound : ∀ n more, (d.run (ops.take n)).ClashFree more →
      (d.run (ops.take n ++ more)).RoutesSoundly) : d.ClashFree ops := by
  induction ops generalizing d with
  | nil => trivial
  | cons op ops ih =>
    have clear : ¬d.Clashes op := fun clash => by
      obtain ⟨more, free, unsound⟩ := exists_misrouted h clash
      exact unsound (sound 1 more free)
    exact ⟨clear, ih (h.perform clear) fun n more free => sound (n + 1) more free⟩

theorem ClashFree.take {ops : List Operation} (h : d.ClashFree ops) (n : Nat) :
    d.ClashFree (ops.take n) := by
  rw [← List.take_append_drop n ops] at h
  exact (clashFree_append.1 h).1

/-- A run routes reports soundly at each of its states, and at each that follows one of them without
a clash, exactly if nothing in the run clashes. -/
theorem routesSoundly_iff_clashFree (config : DispatcherConfig) (silence : Duration)
    (ops : List Operation) :
    (∀ n more, ((new config silence).run (ops.take n)).ClashFree more →
      ((new config silence).run (ops.take n ++ more)).RoutesSoundly) ↔
        (new config silence).ClashFree ops := by
  constructor
  · exact clashFree_of_routesSoundly (indexed_new config silence)
  · intro clear n more free
    have allClear := clashFree_append.2 ⟨clear.take n, free⟩
    exact ((indexed_new config silence).run allClear).routesSoundly

/-- A job is given a bucket under the id that a failed test of another job's bucket is about to run
again under. -/
def clashingRun : List Operation :=
  [.roster (.register ⟨"w1"⟩ ⟨0⟩), .roster (.register ⟨"w2"⟩ ⟨0⟩),
    .enqueue ⟨"A"⟩ [⟨⟨"b"⟩, [⟨⟨"C", "a"⟩, [], none⟩], onceMore⟩] ⟨0⟩ ⟨0⟩,
    .dequeue ⟨"w1"⟩ ⟨0⟩ ⟨0⟩,
    .enqueue ⟨"B"⟩ [⟨⟨"b-retry-1"⟩, [⟨⟨"C", "c"⟩, [], none⟩], onceMore⟩] ⟨0⟩ ⟨0⟩,
    .dequeue ⟨"w2"⟩ ⟨0⟩ ⟨0⟩,
    .accept ⟨"b"⟩ ⟨"w1"⟩ ⟨⟨"b"⟩, onceMore.destination,
      [⟨⟨⟨"C", "a"⟩, [], none⟩, [⟨false, [], .zero, ⟨0⟩, "host", "sim"⟩]⟩]⟩ ⟨0⟩ ⟨0⟩]

/-- Both jobs hold the bucket after that run, and the worker that has it in flight for the one is
told that there is no such bucket in flight. -/
theorem not_routesSoundly : ¬((new {} .zero).run clashingRun).RoutesSoundly ∧
    (((new {} .zero).run clashingRun).accept ⟨"b-retry-1"⟩ ⟨"w2"⟩ ⟨⟨"b-retry-1"⟩,
      onceMore.destination, [⟨⟨⟨"C", "c"⟩, [], none⟩, [⟨true, [], .zero, ⟨0⟩, "host", "sim"⟩]⟩]⟩
      ⟨0⟩ ⟨0⟩).1 = .error .bucketNotFound := by
  have waits : (((new {} .zero).run clashingRun).jobs.get? ⟨"A"⟩).any (fun job =>
      job.queue.waitingIds.contains ⟨"b-retry-1"⟩) = true := by decide
  have flies : (((new {} .zero).run clashingRun).jobs.get? ⟨"B"⟩).any (fun job =>
      job.queue.inFlight.keys.contains ⟨"b-retry-1"⟩) = true := by decide
  refine ⟨fun sound => ?_, rfl⟩
  obtain ⟨job, live, waits⟩ := (Option.any_eq_true _ _).1 waits
  obtain ⟨other, live', flies⟩ := (Option.any_eq_true _ _).1 flies
  have same := sound.unique _ _ job other ⟨"b-retry-1"⟩ live live'
    (.inl (List.contains_iff_mem.1 waits)) (.inr (List.contains_iff_mem.1 flies))
  exact absurd same (by decide)

end TestFleet.Dispatcher
