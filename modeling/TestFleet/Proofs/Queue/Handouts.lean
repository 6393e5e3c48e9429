import Mathlib.Logic.ExistsUnique
import TestFleet.Proofs.Queue.Ages
import TestFleet.Proofs.Queue.Precedence

/-!
# Who gets which bucket

What a worker that asks for work gets, for every state that a dispatcher of the usual precedence can
come to: a worker that may work and has room gets the head of the line of the best job, as long as
any job has a bucket waiting, whatever the jobs prefer. Jobs are of different ages, so there is one
best job, in whatever order the jobs are gone through.

* `IsBest`, `exists_isBest`: the best job for a worker;
* `handOut_candidate`: the first candidate that is asked has a bucket;
* `handOutListed_eq`: the order in which the jobs are gone through makes no difference;
* `followsPolicy_run`: all answers, each with the states in which it is given.
-/

namespace TestFleet.Dispatcher

/-- The worker may be handed work: it has registered and is not blocked. -/
def MayWork (d : Dispatcher) (w : WorkerId) : Prop :=
  d.roster.liveness w ≠ .blocked ∧ d.roster.liveness w ≠ .notRegistered ∧
    d.roster.liveness w ≠ .registering

/-- The worker may be handed work and holds fewer buckets than it may. -/
def HasRoom (d : Dispatcher) (w : WorkerId) : Prop :=
  d.MayWork w ∧ (d.roster.held w).length < d.config.bucketsPerWorker

/-- A live job has a bucket waiting, and comes before every other live job that has one. -/
def IsBest (d : Dispatcher) (w : WorkerId) (j : JobId) (job : Job) : Prop :=
  d.jobs.get? j = some job ∧ job.queue.waiting ≠ [] ∧
    ∀ k other, k ≠ j → d.jobs.get? k = some other → other.queue.waiting ≠ [] →
      (d.candidate w j job).Precedes (d.candidate w k other)

/-! ## Going through the jobs in any order -/

/-- The candidates among the jobs of a listing. -/
def candidatesOf (d : Dispatcher) (w : WorkerId) (listing : List (JobId × Job)) :
    List Candidate :=
  (listing.map fun (j, job) => d.candidate w j job).filter fun c => 0 < c.enqueued

/-- Hands out work as `handOutWork` does, going through the jobs in the order of a listing. -/
def handOutListed (d : Dispatcher) (listing : List (JobId × Job)) (w : WorkerId)
    (now clock : Instant) : Handout × List Event × Dispatcher :=
  let later := d.config.checkAgainAfter
  if d.config.bucketsPerWorker ≤ (d.roster.held w).length then (.checkAgainLater later, [], d)
  else
    let cs := d.candidatesOf w listing
    if cs.isEmpty then
      (if (listing.map (·.2)).any fun job => 0 < job.queue.dequeuedCount then
        .checkAgainLater later else .queueIsEmpty later, [], d)
    else d.handOut w now clock (d.config.precedence.rank cs)

/-- Answers a worker that asks for work, with `handOut` for a worker that may have it. -/
def answered (d : Dispatcher) (w : WorkerId) (clock : Instant)
    (handOut : Dispatcher → Handout × List Event × Dispatcher) :
    Except DequeueError Handout × List Event × Dispatcher :=
  match d.roster.liveness w with
  | .blocked => (.error (.workerBlocked w), [], d)
  | .notRegistered | .registering => (.error (.workerNotRegistered w), [], d)
  | .silent _ =>
    let (h, events, d) := handOut (d.withRoster (·.setAlive w clock))
    (.ok h, events, d)
  | .alive =>
    let (h, events, d) := handOut d
    (.ok h, events, d)

/-- Answers a worker as `dequeue` does, going through the jobs in the order of a listing. -/
def dequeueListed (d : Dispatcher) (listing : List (JobId × Job)) (w : WorkerId)
    (now clock : Instant) : Except DequeueError Handout × List Event × Dispatcher :=
  d.answered w clock (·.handOutListed listing w now clock)

variable {d : Dispatcher} {w : WorkerId} {j k : JobId} {job : Job}

theorem dequeue_eq_answered (d : Dispatcher) (w : WorkerId) (now clock : Instant) :
    d.dequeue w now clock = d.answered w clock (·.handOutWork w now clock) := rfl

theorem answered_congr {clock : Instant} {f g : Dispatcher → Handout × List Event × Dispatcher}
    (same : ∀ r, f { d with roster := r } = g { d with roster := r }) :
    d.answered w clock f = d.answered w clock g := by
  have unchanged : f d = g d := same d.roster
  have alive : f (d.withRoster (·.setAlive w clock)) = g (d.withRoster (·.setAlive w clock)) :=
    same _
  rw [answered, answered, unchanged, alive]

/-- Candidates of one age are the same. -/
theorem Aged.eq_of_mem_candidates (h : d.Aged) {a b : Candidate} (ha : a ∈ d.candidates w)
    (hb : b ∈ d.candidates w) (same : a.sequence = b.sequence) : a = b := by
  obtain ⟨j, job, live, -, rfl⟩ := mem_candidates.1 ha
  obtain ⟨k, other, live', -, rfl⟩ := mem_candidates.1 hb
  obtain rfl := h.distinct j k job other live live' same
  rw [live] at live'
  cases live'
  rfl

theorem handOutListed_eq (h : d.Aged) (usual : d.config.precedence = .priorityThenFairness)
    {listing : List (JobId × Job)} (perm : listing.Perm d.jobs.entries) (w : WorkerId)
    (now clock : Instant) :
    d.handOutListed listing w now clock = d.handOutWork w now clock := by
  have candidates : (d.candidatesOf w listing).Perm (d.candidates w) := (perm.map _).filter _
  have ranked : d.config.precedence.rank (d.candidatesOf w listing) =
      d.config.precedence.rank (d.candidates w) := by
    rw [usual]
    exact (Precedence.rank_eq_of_perm
      (fun a ha b hb => h.eq_of_mem_candidates ha hb) candidates.symm).symm
  have inFlight : ((listing.map (·.2)).any fun job => 0 < job.queue.dequeuedCount) =
      d.anyInFlight := (perm.map _).any_eq
  have isEmpty : (d.candidatesOf w listing).isEmpty = (d.candidates w).isEmpty :=
    candidates.isEmpty_eq
  rw [handOutListed]
  dsimp only
  rw [isEmpty, inFlight, ranked]
  rfl

/-! ## The best job -/

theorem IsBest.eq (best : d.IsBest w j job) {other : Job} (best' : d.IsBest w k other) :
    k = j := by
  obtain ⟨live, waiting, first⟩ := best
  obtain ⟨live', waiting', first'⟩ := best'
  refine Decidable.byContradiction fun e => ?_
  exact Precedence.not_precedes_of_precedes (first k other e live' waiting')
    (first' j job (Ne.symm e) live waiting)

theorem candidates_eq_nil_iff : d.candidates w = [] ↔
    ∀ j job, d.jobs.get? j = some job → job.queue.waiting = [] := by
  constructor
  · intro none j job live
    refine Decidable.byContradiction fun waiting => ?_
    have some : d.candidate w j job ∈ d.candidates w :=
      mem_candidates.2 ⟨j, job, live, List.length_pos_iff.2 waiting, rfl⟩
    rw [none] at some
    cases some
  · intro none
    refine List.eq_nil_iff_forall_not_mem.2 fun c hc => ?_
    obtain ⟨j, job, live, some, -⟩ := mem_candidates.1 hc
    exact List.length_pos_iff.1 some (none j job live)

theorem IsBest.candidates_ne_nil (best : d.IsBest w j job) : d.candidates w ≠ [] :=
  fun none => best.2.1 (candidates_eq_nil_iff.1 none j job best.1)

/-- The candidate that is ranked first is the best job. -/
theorem Aged.isBest_of_rank_eq_cons (h : d.Aged) {c : Candidate} {cs : List Candidate}
    (ranked : Precedence.priorityThenFairness.rank (d.candidates w) = c :: cs) :
    ∃ j job, d.IsBest w j job ∧ d.candidate w j job = c := by
  obtain ⟨j, job, live, some, rfl⟩ := mem_candidates.1 (mem_of_sortBy_eq_cons ranked)
  refine ⟨j, job, ⟨live, List.length_pos_iff.1 some, fun k other e live' waiting' => ?_⟩, rfl⟩
  have isCandidate : d.candidate w k other ∈ d.candidates w :=
    mem_candidates.2 ⟨k, other, live', List.length_pos_iff.2 waiting', rfl⟩
  refine Precedence.precedes_of_rank_eq_cons ranked isCandidate fun same => e ?_
  exact h.distinct k j other job live' live same.symm

/-- Of the jobs that have a bucket waiting, one is the best. -/
theorem Aged.exists_isBest (h : d.Aged) (w : WorkerId)
    (some : ∃ j job, d.jobs.get? j = some job ∧ job.queue.waiting ≠ []) :
    ∃ j job, d.IsBest w j job := by
  obtain ⟨j, job, live, waiting⟩ := some
  have candidates : d.candidates w ≠ [] := fun none =>
    waiting (candidates_eq_nil_iff.1 none j job live)
  obtain ⟨c, cs, ranked⟩ := Precedence.priorityThenFairness.exists_rank_eq_cons candidates
  obtain ⟨k, other, best, -⟩ := h.isBest_of_rank_eq_cons ranked
  exact ⟨k, other, best⟩

/-- A job with a bucket waiting hands it out if it is asked first. -/
theorem handOut_candidate (orderly : d.Orderly) (live : d.jobs.get? j = some job)
    {first : WaitingBucket} {rest : List WaitingBucket}
    (waiting : job.queue.waiting = first :: rest) (w : WorkerId) (now clock : Instant)
    (cs : List Candidate) :
    d.handOut w now clock (d.candidate w j job :: cs) =
      (.bucket ⟨first, w, now⟩, [.bucketDequeued j first.bucket.id w],
        d.handedOut j job.queue first rest w now clock) := by
  obtain ⟨gone, placed⟩ := orderly.placed live
  rw [handOut, candidate]
  dsimp only
  rw [live]
  dsimp only
  rw [JobQueue.dequeue_eq placed.not_inFlight, waiting]
  rfl

/-- The first candidate that is asked has a bucket, so no other is asked. -/
theorem handOut_rank (orderly : d.Orderly) (h : d.Aged)
    (usual : d.config.precedence = .priorityThenFairness) (some : d.candidates w ≠ [])
    (now clock : Instant) : ∃ j job first rest, d.IsBest w j job ∧
      job.queue.waiting = first :: rest ∧
      d.handOut w now clock (d.config.precedence.rank (d.candidates w)) =
        (.bucket ⟨first, w, now⟩, [.bucketDequeued j first.bucket.id w],
          d.handedOut j job.queue first rest w now clock) := by
  rw [usual]
  obtain ⟨c, cs, ranked⟩ := Precedence.priorityThenFairness.exists_rank_eq_cons some
  obtain ⟨j, job, best, rfl⟩ := h.isBest_of_rank_eq_cons ranked
  obtain ⟨first, rest, waiting⟩ := List.exists_cons_of_ne_nil best.2.1
  refine ⟨j, job, first, rest, best, waiting, ?_⟩
  rw [ranked, handOut_candidate orderly best.1 waiting]

/-! ## All answers -/

/-- What a worker that asks for work gets, and when. A worker that may not work is told why. One
that holds all it may is to ask again. Otherwise it gets the head of the line of the best job; if
nothing waits, it is to ask again as long as a bucket is in flight, and the queue is empty once
every job is done. -/
structure FollowsPolicy (d : Dispatcher) (w : WorkerId) (now clock : Instant) : Prop where
  blocked : (d.dequeue w now clock).1 = .error (.workerBlocked w) ↔
    d.roster.liveness w = .blocked
  notRegistered : (d.dequeue w now clock).1 = .error (.workerNotRegistered w) ↔
    d.roster.liveness w = .notRegistered ∨ d.roster.liveness w = .registering
  full : d.MayWork w → d.config.bucketsPerWorker ≤ (d.roster.held w).length →
    (d.dequeue w now clock).1 = .ok (.checkAgainLater d.config.checkAgainAfter)
  queueIsEmpty : d.HasRoom w →
    ((d.dequeue w now clock).1 = .ok (.queueIsEmpty d.config.checkAgainAfter) ↔
      ∀ j job, d.jobs.get? j = some job → job.queue.isDepleted = true)
  checkAgainLater : d.HasRoom w →
    ((d.dequeue w now clock).1 = .ok (.checkAgainLater d.config.checkAgainAfter) ↔
      (∀ j job, d.jobs.get? j = some job → job.queue.waiting = []) ∧
      ∃ j job, d.jobs.get? j = some job ∧ job.queue.inFlight.keys ≠ [])
  bucket : d.HasRoom w → ∀ taken, (d.dequeue w now clock).1 = .ok (.bucket taken) ↔
    ∃ j job rest, d.IsBest w j job ∧ job.queue.waiting = taken.waiting :: rest ∧
      taken = ⟨taken.waiting, w, now⟩
  /-- Some job is the best, and no other is, as long as anything waits. -/
  best : (∃ j job, d.jobs.get? j = some job ∧ job.queue.waiting ≠ []) →
    ∃! j, ∃ job, d.IsBest w j job
  /-- The candidates never run out without one of them having a bucket. -/
  reached : d.candidates w ≠ [] → ∀ after,
    (d.handOut w now clock (d.config.precedence.rank (d.candidates w))).1 ≠ .checkAgainLater after
  anyOrder : ∀ listing, listing.Perm d.jobs.entries →
    d.dequeueListed listing w now clock = d.dequeue w now clock

theorem anyInFlight_iff : d.anyInFlight = true ↔
    ∃ j job, d.jobs.get? j = some job ∧ job.queue.inFlight.keys ≠ [] := by
  have flies (job : Job) : 0 < job.queue.dequeuedCount ↔ job.queue.inFlight.keys ≠ [] := by
    rw [← List.length_pos_iff, JobQueue.dequeuedCount, Directory.size, Directory.keys,
      List.length_map]
  simp only [anyInFlight, List.any_eq_true, decide_eq_true_eq, Directory.mem_values, flies]
  constructor
  · rintro ⟨job, ⟨j, live⟩, inFlight⟩
    exact ⟨j, job, live, inFlight⟩
  · rintro ⟨j, job, live, inFlight⟩
    exact ⟨job, ⟨j, live⟩, inFlight⟩

/-- A worker that may work is answered what is handed out to it, by then alive. -/
theorem answered_of_mayWork (may : d.MayWork w) (clock : Instant) :
    ∃ r : Roster, r.held w = d.roster.held w ∧ ∀ handOut,
      d.answered w clock handOut = (.ok (handOut { d with roster := r }).1,
        (handOut { d with roster := r }).2) := by
  obtain ⟨notBlocked, known, registered⟩ := may
  cases liveness : d.roster.liveness w with
  | blocked => exact absurd liveness notBlocked
  | notRegistered => exact absurd liveness known
  | registering => exact absurd liveness registered
  | silent =>
    refine ⟨d.roster.setAlive w clock, Roster.held_setAlive, fun handOut => ?_⟩
    rw [answered, liveness, withRoster]
  | alive =>
    refine ⟨d.roster, rfl, fun handOut => ?_⟩
    rw [answered, liveness]

theorem dequeue_of_full (may : d.MayWork w)
    (full : d.config.bucketsPerWorker ≤ (d.roster.held w).length) (now clock : Instant) :
    (d.dequeue w now clock).1 = .ok (.checkAgainLater d.config.checkAgainAfter) := by
  obtain ⟨r, held, answer⟩ := answered_of_mayWork may clock
  rw [dequeue_eq_answered, answer, handOutWork]
  dsimp only
  rw [held, if_pos full]

/-- The three answers to a worker that has room. -/
theorem dequeue_of_room (orderly : d.Orderly) (h : d.Aged)
    (usual : d.config.precedence = .priorityThenFairness) (room : d.HasRoom w)
    (now clock : Instant) :
    (d.candidates w = [] ∧ d.anyInFlight = true ∧
      (d.dequeue w now clock).1 = .ok (.checkAgainLater d.config.checkAgainAfter)) ∨
    (d.candidates w = [] ∧ d.anyInFlight = false ∧
      (d.dequeue w now clock).1 = .ok (.queueIsEmpty d.config.checkAgainAfter)) ∨
    ∃ j job first rest, d.IsBest w j job ∧ job.queue.waiting = first :: rest ∧
      (d.dequeue w now clock).1 = .ok (.bucket ⟨first, w, now⟩) := by
  obtain ⟨r, held, answer⟩ := answered_of_mayWork room.1 clock
  have notFull : ¬d.config.bucketsPerWorker ≤ (r.held w).length := by
    rw [held]
    exact Nat.not_le.2 room.2
  have same : { d with roster := r }.candidates w = d.candidates w := rfl
  have flies : { d with roster := r }.anyInFlight = d.anyInFlight := rfl
  rw [dequeue_eq_answered, answer, handOutWork]
  dsimp only
  rw [if_neg notFull, same, flies]
  by_cases none : d.candidates w = []
  · rw [if_pos (List.isEmpty_iff.2 none)]
    cases inFlight : d.anyInFlight with
    | true => exact .inl ⟨none, rfl, rfl⟩
    | false => exact .inr (.inl ⟨none, rfl, rfl⟩)
  · obtain ⟨j, job, first, rest, best, waiting, handed⟩ :=
      handOut_rank (d := { d with roster := r }) orderly ⟨h.below, h.distinct⟩ usual none now clock
    rw [if_neg fun empty => none (List.isEmpty_iff.1 empty)]
    refine .inr (.inr ⟨j, job, first, rest, best, waiting, ?_⟩)
    rw [same] at handed
    rw [handed]

theorem all_depleted_iff : (∀ j job, d.jobs.get? j = some job → job.queue.isDepleted = true) ↔
    d.candidates w = [] ∧ d.anyInFlight = false := by
  rw [candidates_eq_nil_iff, Bool.eq_false_iff, ne_eq, anyInFlight_iff]
  constructor
  · intro done
    refine ⟨fun j job live => (JobQueue.isDepleted_iff.1 (done j job live)).1, ?_⟩
    rintro ⟨j, job, live, flies⟩
    exact flies (JobQueue.isDepleted_iff.1 (done j job live)).2
  · rintro ⟨waiting, flies⟩ j job live
    refine JobQueue.isDepleted_iff.2 ⟨waiting j job live, ?_⟩
    exact Decidable.byContradiction fun some => flies ⟨j, job, live, some⟩

theorem dequeue_eq_workerBlocked_iff (now clock : Instant) :
    (d.dequeue w now clock).1 = .error (.workerBlocked w) ↔ d.roster.liveness w = .blocked := by
  rw [dequeue]
  cases d.roster.liveness w <;> simp

theorem dequeue_eq_workerNotRegistered_iff (now clock : Instant) :
    (d.dequeue w now clock).1 = .error (.workerNotRegistered w) ↔
      d.roster.liveness w = .notRegistered ∨ d.roster.liveness w = .registering := by
  rw [dequeue]
  cases d.roster.liveness w <;> simp

theorem Aged.followsPolicy (h : d.Aged) (orderly : d.Orderly)
    (usual : d.config.precedence = .priorityThenFairness) (w : WorkerId) (now clock : Instant) :
    d.FollowsPolicy w now clock where
  blocked := dequeue_eq_workerBlocked_iff now clock
  notRegistered := dequeue_eq_workerNotRegistered_iff now clock
  full may full := dequeue_of_full may full now clock
  queueIsEmpty room := by
    rw [all_depleted_iff (w := w)]
    rcases dequeue_of_room orderly h usual room now clock with ⟨none, flies, answer⟩ |
      ⟨none, flies, answer⟩ | ⟨j, job, first, rest, best, -, answer⟩
    · simp [answer, flies]
    · simp [answer, none, flies]
    · simp [answer, best.candidates_ne_nil]
  checkAgainLater room := by
    rw [← candidates_eq_nil_iff (w := w), ← anyInFlight_iff]
    rcases dequeue_of_room orderly h usual room now clock with ⟨none, flies, answer⟩ |
      ⟨none, flies, answer⟩ | ⟨j, job, first, rest, best, -, answer⟩
    · simp [answer, none, flies]
    · simp [answer, flies]
    · simp [answer, best.candidates_ne_nil]
  bucket room taken := by
    rcases dequeue_of_room orderly h usual room now clock with ⟨none, -, answer⟩ |
      ⟨none, -, answer⟩ | ⟨j, job, first, rest, best, waiting, answer⟩
    · simp only [answer, Except.ok.injEq, reduceCtorEq, false_iff]
      rintro ⟨j, job, rest, best, -⟩
      exact best.candidates_ne_nil none
    · simp only [answer, Except.ok.injEq, reduceCtorEq, false_iff]
      rintro ⟨j, job, rest, best, -⟩
      exact best.candidates_ne_nil none
    · simp only [answer, Except.ok.injEq, Handout.bucket.injEq]
      constructor
      · rintro rfl
        exact ⟨j, job, rest, best, waiting, rfl⟩
      · rintro ⟨k, other, rest', best', waiting', taken⟩
        obtain rfl := best.eq best'
        have live := best'.1
        rw [best.1] at live
        cases live
        rw [waiting] at waiting'
        cases waiting'
        exact taken.symm
  best some := by
    obtain ⟨j, job, best⟩ := h.exists_isBest w some
    exact ⟨j, ⟨job, best⟩, fun k ⟨other, best'⟩ => best.eq best'⟩
  reached some after := by
    obtain ⟨j, job, first, rest, -, -, handed⟩ := handOut_rank orderly h usual some now clock
    rw [handed]
    exact nofun
  anyOrder listing perm := by
    rw [dequeueListed, dequeue_eq_answered]
    exact answered_congr fun r =>
      handOutListed_eq (d := { d with roster := r }) ⟨h.below, h.distinct⟩ usual perm w now clock

/-- After any run of a dispatcher of the usual precedence, every worker that asks for work gets what
the policy says, at any time. -/
theorem followsPolicy_run (config : DispatcherConfig) (silence : Duration) (ops : List Operation)
    (w : WorkerId) (now clock : Instant) :
    ((new { config with precedence := .priorityThenFairness } silence).run ops).FollowsPolicy
      w now clock := by
  have orderly := composed_new (fun _ _ => True)
    { config with precedence := .priorityThenFairness } silence
  refine Aged.followsPolicy ((aged_new _ silence).run orderly ops)
    (orderly.run fun op _ => admitted_of_forall op) ?_ w now clock
  rw [config_run orderly]
  rfl

end TestFleet.Dispatcher
