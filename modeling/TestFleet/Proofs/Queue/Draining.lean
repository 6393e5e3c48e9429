import Mathlib.Algebra.GroupWithZero.Nat
import TestFleet.Proofs.Queue.Naming
import TestFleet.Proofs.Queue.Handouts

/-!
# One worker alone with the queue

While a single worker takes buckets and reports on them, and nobody else does anything, nothing is
in flight between two of its buckets. So it gets a bucket whenever one waits, its report is
accepted, and the attempts that are left over all jobs get fewer with each bucket.

* `attemptsLeft`: how many reports the waiting buckets can still lead to;
* `Idle`, `Idle.dequeue`: what the worker gets when it asks for work;
* `Busy`, `Busy.accept`: the report on the one bucket in flight is accepted.
-/

namespace TestFleet

namespace JobQueue

variable {q : JobQueue}

/-- How many reports a bucket and those that run its failed tests again can lead to. -/
def attemptsOf (q : JobQueue) (b : Bucket) : Nat :=
  b.retries.toNat - (q.lineageOf b.id).attempt + 1

/-- How many reports the waiting buckets can lead to. -/
def attemptsLeft (q : JobQueue) : Nat := (q.waiting.map fun b => q.attemptsOf b.bucket).sum

theorem attemptsLeft_handedOut {b : WaitingBucket} {rest : List WaitingBucket}
    (waiting : q.waiting = b :: rest) (w : WorkerId) (now : Instant) :
    q.attemptsLeft = (q.handedOut b rest w now).attemptsLeft + q.attemptsOf b.bucket := by
  rw [attemptsLeft, waiting, List.map_cons, List.sum_cons, Nat.add_comm]
  rfl

/-- A bucket that runs failed tests again has one attempt less than the bucket they failed in. -/
theorem attemptsLeft_reported {q' : JobQueue} {gone : List BucketId} (placed : Placed q gone)
    {b : BucketId} {a : Acceptance} {now : Instant} (reported : Reported q b a now q') :
    q'.attemptsLeft < q.attemptsLeft + q.attemptsOf a.taken.bucket := by
  cases reported with
  | final =>
    have same : (q.settled b).attemptsLeft = q.attemptsLeft := rfl
    rw [same, attemptsOf]
    omega
  | again failed entries left fresh some =>
    generalize lineage : q.lineageOf a.taken.bucket.id = l at left fresh
    have others : (q.waiting.map fun c => attemptsOf (q.retried b l.next failed
        a.taken.bucket.configuration now) c.bucket) =
          q.waiting.map fun c => q.attemptsOf c.bucket := by
      refine List.map_congr_left fun c hc => ?_
      have known := placed.known_of_waiting (List.mem_map_of_mem (f := (·.bucket.id)) hc)
      have other : c.bucket.id ≠ l.next.bucketId := fun e => fresh (e ▸ known)
      rw [attemptsOf, lineageOf, retried, Directory.get?_insert_of_ne _ _ other]
      rfl
    have retry : attemptsOf (q.retried b l.next failed a.taken.bucket.configuration now)
        ⟨l.next.bucketId, failed, a.taken.bucket.configuration⟩ =
          a.taken.bucket.retries.toNat - (l.attempt + 1) + 1 := by
      rw [attemptsOf, lineageOf, retried, Directory.get?_insert_self]
      rfl
    have all : (q.retried b l.next failed a.taken.bucket.configuration now).attemptsLeft =
        a.taken.bucket.retries.toNat - (l.attempt + 1) + 1 + q.attemptsLeft := by
      rw [attemptsLeft, attemptsLeft, ← others, ← retry]
      rfl
    rw [all, attemptsOf, lineage]
    omega

end JobQueue

namespace Roster

/-- The worker is cleared for work and was heard of. -/
def Alive (r : Roster) (w : WorkerId) : Prop :=
  ∃ s, r.workers.get? w = some s ∧ s.standing = .alive

variable {r : Roster} {w : WorkerId}

theorem Alive.liveness (h : r.Alive w) : r.liveness w = .alive := by
  obtain ⟨s, known, alive⟩ := h
  rw [Roster.liveness, known]
  dsimp only
  rw [WorkerRecord.liveness, alive]

theorem Alive.mem_workers (h : r.Alive w) : w ∈ r.workers.keys := by
  obtain ⟨s, known, -⟩ := h
  exact Directory.mem_keys.2 ⟨s, known⟩

theorem Alive.modify (h : r.Alive w) {f : WorkerRecord → WorkerRecord}
    (keeps : ∀ s : WorkerRecord, s.standing = .alive → (f s).standing = .alive) (w' : WorkerId) :
    (r.modify w' f).Alive w := by
  obtain ⟨s, known, alive⟩ := h
  by_cases e : w = w'
  · subst e
    exact ⟨f s, by rw [Roster.modify, Directory.get?_modify_self, known]; rfl, keeps s alive⟩
  · exact ⟨s, by rw [Roster.modify, Directory.get?_modify_of_ne _ _ e, known], alive⟩

theorem touch_of_alive {s : WorkerRecord} (alive : s.standing = .alive) (now : Instant) :
    (s.touch now).standing = .alive := by
  rw [WorkerRecord.touch]
  simp [alive]

theorem Alive.setAlive (h : r.Alive w) (w' : WorkerId) (now : Instant) :
    (r.setAlive w' now).Alive w :=
  h.modify (fun _ alive => touch_of_alive alive now) w'

theorem Alive.didDequeue (h : r.Alive w) (w' : WorkerId) (b : BucketId) (now : Instant) :
    (r.didDequeue w' b now).Alive w :=
  h.modify (fun s alive =>
    touch_of_alive (s := { s with buckets := s.buckets.insert b () }) alive now) w'

theorem Alive.didReceive (h : r.Alive w) (w' : WorkerId) (b : BucketId) (now : Instant) :
    (r.didReceive w' b now).Alive w :=
  h.modify (fun s alive =>
    touch_of_alive (s := { s with buckets := s.buckets.erase b }) alive now) w'

/-- A worker that is not blocked is alive once it is registered. -/
theorem alive_register (notBlocked : r.liveness w ≠ .blocked) (now : Instant) :
    ((r.beginRegistration w now).register w now).Alive w := by
  rw [register, enter, beginRegistration, enter]
  refine ⟨_, Directory.get?_insert_self _ _ _, ?_⟩
  rw [Directory.get?_insert_self]
  rw [liveness] at notBlocked
  cases known : r.workers.get? w with
  | none => rfl
  | some s =>
    rw [known] at notBlocked
    have other : s.standing ≠ .blocked := fun blocked => notBlocked (by
      dsimp only
      rw [WorkerRecord.liveness, blocked])
    simp [other]

end Roster

namespace Dispatcher

variable {d : Dispatcher} {w : WorkerId} {j : JobId}

/-- How many reports the waiting buckets of all jobs can lead to. -/
def attemptsLeft (d : Dispatcher) : Nat := (d.jobs.values.map fun job => job.queue.attemptsLeft).sum

/-- A change of one job's queue. -/
theorem attemptsLeft_withQueue {job : Job} (live : d.jobs.get? j = some job) (q : JobQueue) :
    (d.withQueue j q).attemptsLeft + job.queue.attemptsLeft = d.attemptsLeft + q.attemptsLeft := by
  have sums {jobs : Directory JobId Job} {job : Job} (live : jobs.get? j = some job) :
      (jobs.values.map fun job => job.queue.attemptsLeft).sum = job.queue.attemptsLeft +
        ((jobs.erase j).values.map fun job => job.queue.attemptsLeft).sum := by
    rw [((Directory.values_erase_perm live).map _).sum_nat, List.map_cons, List.sum_cons]
  have rest : (d.withQueue j q).jobs.erase j = d.jobs.erase j := by
    refine Directory.ext_get? fun k => ?_
    by_cases e : k = j
    · rw [e, Directory.get?_erase_self, Directory.get?_erase_self]
    · rw [Directory.get?_erase_of_ne _ e, Directory.get?_erase_of_ne _ e, get?_withQueue_of_ne e]
  rw [attemptsLeft, attemptsLeft, sums live, sums (get?_withQueue_self live q), rest]
  dsimp only
  omega

/-- Jobs that are done leave no attempts. -/
theorem attemptsLeft_eq_zero
    (done : ∀ j job, d.jobs.get? j = some job → job.queue.isDepleted = true) :
    d.attemptsLeft = 0 := by
  refine List.sum_eq_zero_iff_forall_eq_nat.2 fun n mem => ?_
  obtain ⟨job, value, rfl⟩ := List.mem_map.1 mem
  obtain ⟨j, live⟩ := Directory.mem_values.1 value
  rw [JobQueue.attemptsLeft, (JobQueue.isDepleted_iff.1 (done j job live)).1]
  rfl

/-- The worker is alive and may hold a bucket, and nothing is in flight. -/
structure Idle (d : Dispatcher) (w : WorkerId) : Prop where
  composed : d.Composed Derived
  indexed : d.Indexed
  alive : d.roster.Alive w
  room : 0 < d.config.bucketsPerWorker
  nothing : d.anyInFlight = false

/-- The worker is alive and holds the one bucket in flight, which is of the job `j`. -/
structure Busy (d : Dispatcher) (w : WorkerId) (j : JobId) (job : Job) (f : InFlightBucket) :
    Prop where
  composed : d.Composed Derived
  indexed : d.Indexed
  alive : d.roster.Alive w
  room : 0 < d.config.bucketsPerWorker
  live : d.jobs.get? j = some job
  inFlight : job.queue.inFlight.get? f.id = some f
  worker : f.worker = w
  only : ∀ k other, d.jobs.get? k = some other → ∀ b ∈ other.queue.inFlight.keys, k = j ∧ b = f.id

theorem keys_inFlight_eq_nil (nothing : d.anyInFlight = false) {job : Job}
    (live : d.jobs.get? j = some job) : job.queue.inFlight.keys = [] :=
  Decidable.byContradiction fun some =>
    absurd (anyInFlight_iff.2 ⟨j, job, live, some⟩) (Bool.eq_false_iff.1 nothing)

theorem Idle.held_eq_nil (h : d.Idle w) : d.roster.held w = [] := by
  refine List.eq_nil_iff_forall_not_mem.2 fun b hb => ?_
  obtain ⟨j, f, inFlight, -⟩ := (h.indexed.held w b).1 hb
  obtain ⟨job, live, inFlight⟩ := inFlight_queueOf_eq_some.1 inFlight
  have mem := Directory.mem_keys.2 ⟨f, inFlight⟩
  rw [keys_inFlight_eq_nil h.nothing live] at mem
  cases mem

/-- The worker that was idle holds the bucket that was handed out to it. -/
theorem Idle.handedOut (h : d.Idle w) {job : Job} (live : d.jobs.get? j = some job)
    {b : WaitingBucket} {rest : List WaitingBucket} (waiting : job.queue.waiting = b :: rest)
    (now clock : Instant) : (d.handedOut j job.queue b rest w now clock).Busy w j
      { job with queue := job.queue.handedOut b rest w now } ⟨b, w, now⟩ where
  composed := h.composed.handedOut live waiting w now clock
  indexed := by
    refine h.indexed.handedOut live waiting h.alive.mem_workers ?_ now clock
    rw [h.held_eq_nil]
    exact h.room
  alive := h.alive.didDequeue w b.bucket.id clock
  room := h.room
  live := get?_withQueue_self live _
  inFlight := Directory.get?_insert_self _ _ _
  worker := rfl
  only k other live' c hc := by
    have isLive : (d.withQueue j (job.queue.handedOut b rest w now)).jobs.get? k = some other :=
      live'
    by_cases e : k = j
    · subst e
      rw [get?_withQueue_self live] at isLive
      cases isLive
      refine ⟨rfl, ((Directory.mem_keys_insert _).1 hc).resolve_right fun old => ?_⟩
      rw [keys_inFlight_eq_nil h.nothing live] at old
      cases old
    · rw [get?_withQueue_of_ne e] at isLive
      rw [keys_inFlight_eq_nil h.nothing isLive] at hc
      cases hc

theorem attemptsLeft_handedOut {job : Job} (live : d.jobs.get? j = some job) {b : WaitingBucket}
    {rest : List WaitingBucket} (waiting : job.queue.waiting = b :: rest) (now clock : Instant) :
    d.attemptsLeft = (d.handedOut j job.queue b rest w now clock).attemptsLeft +
      job.queue.attemptsOf b.bucket := by
  have change := attemptsLeft_withQueue live (job.queue.handedOut b rest w now)
  rw [JobQueue.attemptsLeft_handedOut waiting w now] at change
  have same : (d.handedOut j job.queue b rest w now clock).attemptsLeft =
      (d.withQueue j (job.queue.handedOut b rest w now)).attemptsLeft := rfl
  omega

/-- The worker that was idle gets a bucket, unless all jobs are done. -/
theorem Idle.dequeue (h : d.Idle w) (now clock : Instant) :
    ((∀ j job, d.jobs.get? j = some job → job.queue.isDepleted = true) ∧
      d.dequeue w now clock = (.ok (.queueIsEmpty d.config.checkAgainAfter), [], d)) ∨
    ∃ j job f events d', d'.Busy w j job f ∧
      d.attemptsLeft = d'.attemptsLeft + job.queue.attemptsOf f.bucket ∧
      d.dequeue w now clock = (.ok (.bucket f), events, d') := by
  have answer : d.dequeue w now clock = (.ok (d.handOutWork w now clock).1,
      (d.handOutWork w now clock).2) := by
    rw [Dispatcher.dequeue, h.alive.liveness]
  have notFull : ¬d.config.bucketsPerWorker ≤ (d.roster.held w).length := by
    rw [h.held_eq_nil]
    exact Nat.not_le.2 h.room
  have work : d.handOutWork w now clock =
      if (d.candidates w).isEmpty then (.queueIsEmpty d.config.checkAgainAfter, [], d)
      else d.handOut w now clock (d.config.precedence.rank (d.candidates w)) := by
    rw [handOutWork]
    dsimp only
    rw [if_neg notFull, h.nothing]
    rfl
  rw [answer, work]
  by_cases none : d.candidates w = []
  · rw [if_pos (List.isEmpty_iff.2 none)]
    exact .inl ⟨all_depleted_iff.2 ⟨none, h.nothing⟩, rfl⟩
  · obtain ⟨c, cs, ranked⟩ := d.config.precedence.exists_rank_eq_cons none
    obtain ⟨j, job, live, some, rfl⟩ := mem_candidates.1 (mem_of_sortBy_eq_cons ranked)
    obtain ⟨b, rest, waiting⟩ := List.exists_cons_of_length_pos some
    rw [if_neg fun empty => none (List.isEmpty_iff.1 empty), ranked,
      handOut_candidate h.composed.orderly live waiting]
    exact .inr ⟨j, _, _, _, _, h.handedOut live waiting now clock,
      attemptsLeft_handedOut live waiting now clock, rfl⟩

variable {job : Job} {f : InFlightBucket}

/-- A sign of life changes nothing of what is in flight. -/
theorem Busy.heartbeat (h : d.Busy w j job f) (now : Instant) :
    (d.withRoster (·.setAlive w now)).Busy w j job f where
  composed := h.composed
  indexed := h.indexed.withRoster fun _ => Roster.held_setAlive
  alive := h.alive.setAlive w now
  room := h.room
  live := h.live
  inFlight := h.inFlight
  worker := h.worker
  only := h.only

/-- Nothing is in flight once the one bucket in flight was reported on. -/
theorem Busy.nothing_settled (h : d.Busy w j job f) {report : BucketReport} {now : Instant}
    {wall : Timestamp} {a : Acceptance} {q : JobQueue}
    (ok : job.queue.accept f.id w report now wall = .ok (a, q)) :
    (d.settled j f.id w a q now).anyInFlight = false := by
  obtain ⟨-, -, -, reported⟩ := JobQueue.of_accept_ok ok
  have left : q.inFlight = job.queue.inFlight.erase f.id := by cases reported <;> rfl
  refine Bool.eq_false_iff.2 fun some => ?_
  obtain ⟨k, other, live, inFlight⟩ := anyInFlight_iff.1 some
  rw [settled_jobs] at live
  obtain ⟨b, hb⟩ := List.exists_mem_of_ne_nil _ inFlight
  by_cases e : k = j
  · subst e
    rw [get?_withQueue_self h.live] at live
    cases live
    obtain ⟨notB, old⟩ := Directory.mem_keys_erase.1 (left ▸ hb)
    exact notB (h.only k job h.live b old).2
  · rw [get?_withQueue_of_ne e] at live
    exact e (h.only k other live b hb).1

/-- The report of the worker that holds the bucket is accepted if it fits, and leaves fewer
attempts. -/
theorem Busy.accept (h : d.Busy w j job f) {report : BucketReport}
    (fits : ∀ r ∈ report.results, r.entry ∈ f.bucket.entries) (now : Instant) (wall : Timestamp) :
    ∃ routed events d', d'.Idle w ∧
      d'.attemptsLeft < d.attemptsLeft + job.queue.attemptsOf f.bucket ∧
      d.accept f.id w report now wall = (.ok routed, events, d') := by
  obtain ⟨gone, placed⟩ := h.composed.placed h.live
  obtain ⟨a, q, ok⟩ := JobQueue.exists_accept_eq_ok h.inFlight fits now wall
  rw [h.worker] at ok
  have accepted := h.indexed.accept_eq_ok h.live ok
  have after : d.perform (.accept f.id w report now wall) = d.settled j f.id w a q now := by
    rw [perform, accepted]
  obtain ⟨inFlight, -, -, reported⟩ := JobQueue.of_accept_ok ok
  have taken : f = a.taken := Option.some.inj (h.inFlight.symm.trans inFlight)
  refine ⟨_, _, _, ⟨?_, ?_, ?_, ?_, h.nothing_settled ok⟩, ?_, accepted⟩
  · exact h.composed.settled h.live ok
  · exact after ▸ h.indexed.perform (h.composed.not_clashes _)
  · rw [settled_roster]
    exact h.alive.didReceive w f.id now
  · rw [settled_config]
    exact h.room
  · have change := attemptsLeft_withQueue h.live q
    have fewer := JobQueue.attemptsLeft_reported placed reported
    have same : (d.settled j f.id w a q now).attemptsLeft = (d.withQueue j q).attemptsLeft := by
      rw [attemptsLeft, settled_jobs, attemptsLeft]
    rw [← taken] at fewer
    omega

end Dispatcher

end TestFleet
