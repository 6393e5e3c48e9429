import Mathlib.Data.Nat.Dist
import TestFleet.Proofs.Queue.Handouts

/-!
# Fair shares

Two jobs of one priority that no worker prefers to one another share the workers fairly. While both
have buckets waiting, the one with more buckets in flight is passed over, so the numbers of their
buckets in flight never come to be more than one apart, and if they start out further apart than
that, they never get any further.

* `Turn`, `turn_dequeue`: a job that is asked for work is the best one, and every other is left
  alone;
* `Peers`: two jobs that only fairness and age tell apart;
* `Sharing.gap_ask_le`: one question for work does not widen the gap between them;
* `Sharing.gap_asked_le`: nor does any number of questions;
* `sharesFairly_run`: what that says from every state that a dispatcher can come to.
-/

namespace TestFleet

theorem JobQueue.dequeuedCount_handedOut {q : JobQueue} {b : WaitingBucket}
    (free : b.bucket.id ∉ q.inFlight.keys) (rest : List WaitingBucket) (w : WorkerId)
    (now : Instant) : (q.handedOut b rest w now).dequeuedCount = q.dequeuedCount + 1 := by
  have added := Directory.entries_insert_perm (⟨b, w, now⟩ : InFlightBucket)
    (Directory.get?_eq_none_iff.2 free)
  simpa [dequeuedCount, Directory.size, handedOut] using added.length_eq

namespace Dispatcher

/-- A worker's question for work. -/
structure Question where
  worker : WorkerId
  now : Instant
  clock : Instant

/-- The dispatcher after a worker asked for work. -/
def ask (d : Dispatcher) (q : Question) : Dispatcher := d.perform (.dequeue q.worker q.now q.clock)

/-- The dispatcher after workers asked for work, one after the other. -/
def asked (d : Dispatcher) (questions : List Question) : Dispatcher := questions.foldl ask d

/-- How many buckets of a job are in flight. -/
def inFlightCount (d : Dispatcher) (j : JobId) : Nat := (d.queueOf j).dequeuedCount

/-- How far the numbers of buckets in flight of two jobs are apart. -/
def gap (d : Dispatcher) (j k : JobId) : Nat := Nat.dist (d.inFlightCount j) (d.inFlightCount k)

/-- A job has a bucket waiting. -/
def HasWork (d : Dispatcher) (j : JobId) : Prop := (d.queueOf j).waiting ≠ []

/-- Whoever asks for work, at whatever time, is handed out no bucket of the job. -/
def PassedOver (d : Dispatcher) (j : JobId) : Prop :=
  ∀ w now clock, (∀ b, .bucketDequeued j b w ∉ (d.dequeue w now clock).2.1) ∧
    (d.dequeue w now clock).2.2.queueOf j = d.queueOf j

variable {d : Dispatcher} {w : WorkerId} {j k : JobId} {job : Job} {now clock : Instant}

/-! ## What a question for work does to a job -/

/-- What becomes of a live job when the worker `w` asks for work: it is left alone, or it is the
best job and hands out the head of its line. -/
inductive Turn (d : Dispatcher) (w : WorkerId) (now : Instant) (j : JobId) (job : Job)
    (outcome : List Event × Dispatcher) : Prop where
  | passed (untold : ∀ b, .bucketDequeued j b w ∉ outcome.1)
      (same : outcome.2.jobs.get? j = some job)
  | served (best : d.IsBest w j job) {b : WaitingBucket} {rest : List WaitingBucket}
      (waiting : job.queue.waiting = b :: rest)
      (after : outcome.2.jobs.get? j =
        some { job with queue := job.queue.handedOut b rest w now })

/-- The best job is served, and any other job is passed over. -/
theorem turn_handedOut (live : d.jobs.get? j = some job) {other : Job} (best : d.IsBest w k other)
    {b : WaitingBucket} {rest : List WaitingBucket} (waiting : other.queue.waiting = b :: rest)
    (now clock : Instant) : Turn d w now j job
      ([.bucketDequeued k b.bucket.id w], d.handedOut k other.queue b rest w now clock) := by
  by_cases e : j = k
  · subst e
    obtain rfl : job = other := Option.some.inj (live.symm.trans best.1)
    exact .served best waiting (get?_withQueue_self live _)
  · refine .passed (fun c told => ?_) ((get?_withQueue_of_ne e _).trans live)
    obtain ⟨same, -⟩ := Event.bucketDequeued.inj (List.mem_singleton.1 told)
    exact e same

theorem turn_dequeue (orderly : d.Orderly) (aged : d.Aged)
    (usual : d.config.precedence = .priorityThenFairness) (live : d.jobs.get? j = some job)
    (w : WorkerId) (now clock : Instant) :
    Turn d w now j job (d.dequeue w now clock).2 := by
  have silent : ∀ b, Event.bucketDequeued j b w ∉ ([] : List Event) := fun _ => List.not_mem_nil
  by_cases may : d.MayWork w
  · obtain ⟨r, -, answer⟩ := answered_of_mayWork may clock
    rw [dequeue_eq_answered, answer, handOutWork]
    dsimp only
    split
    · exact .passed silent live
    split
    · exact .passed silent live
    rename_i some
    have candidates : { d with roster := r }.candidates w ≠ [] := fun none =>
      some (List.isEmpty_iff.2 none)
    obtain ⟨k, other, b, rest, best, waiting, handed⟩ :=
      handOut_rank (d := { d with roster := r }) orderly ⟨aged.below, aged.distinct⟩ usual
        candidates now clock
    rw [handed]
    have turn := turn_handedOut (d := { d with roster := r }) live best waiting now clock
    cases turn with
    | passed untold same => exact .passed untold same
    | served best waiting after => exact .served best waiting after
  · rw [dequeue]
    split
    · exact .passed silent live
    · exact .passed silent live
    · exact .passed silent live
    · rename_i bs isSilent
      exact absurd ⟨by simp [isSilent], by simp [isSilent], by simp [isSilent]⟩ may
    · rename_i isAlive
      exact absurd ⟨by simp [isAlive], by simp [isAlive], by simp [isAlive]⟩ may

/-! ## Two jobs alike -/

/-- The workers that a job prefers. -/
def preferred (d : Dispatcher) (j : JobId) : List WorkerId := (d.preferences.get? j).getD []

/-- Two live jobs of one priority, and no worker is on the list of preferred workers of one of them
alone. There may be no such lists for them at all. -/
structure Peers (d : Dispatcher) (j k : JobId) : Prop where
  priority : ∃ job other, d.jobs.get? j = some job ∧ d.jobs.get? k = some other ∧
    job.priority = other.priority
  alike : ∀ w, (d.preferred j).contains w = (d.preferred k).contains w

theorem Peers.symm (peers : d.Peers j k) : d.Peers k j where
  priority := by
    obtain ⟨job, other, live, live', same⟩ := peers.priority
    exact ⟨other, job, live', live, same.symm⟩
  alike w := (peers.alike w).symm

theorem inFlightCount_of_live (live : d.jobs.get? j = some job) :
    d.inFlightCount j = job.queue.dequeuedCount := by
  rw [inFlightCount, queueOf_of_live live]

theorem hasWork_of_live (live : d.jobs.get? j = some job) :
    d.HasWork j ↔ job.queue.waiting ≠ [] := by
  rw [HasWork, queueOf_of_live live]

/-- Of two jobs alike, the better one has no more buckets in flight. -/
theorem Peers.le_of_isBest (peers : d.Peers j k) (other : k ≠ j) (work : d.HasWork k)
    (best : d.IsBest w j job) : d.inFlightCount j ≤ d.inFlightCount k := by
  obtain ⟨job', second, live, live', same⟩ := peers.priority
  obtain rfl : job' = job := Option.some.inj (live.symm.trans best.1)
  have precedes := best.2.2 k second other live' ((hasWork_of_live live').1 work)
  have alike : (d.candidate w j job').isPreferred = (d.candidate w k second).isPreferred :=
    peers.alike w
  rw [inFlightCount_of_live live, inFlightCount_of_live live']
  rcases precedes with higher | ⟨-, ⟨prefers, doesNot⟩ | ⟨-, fewer | ⟨asMany, -⟩⟩⟩
  · rw [candidate, candidate, same] at higher
    exact absurd higher (UInt32.lt_irrefl _)
  · rw [alike, doesNot] at prefers
    cases prefers
  · exact Nat.le_of_lt fewer
  · exact Nat.le_of_eq asMany

/-! ## One question for work -/

/-- Two jobs alike, in a dispatcher of the usual precedence. -/
structure Sharing (d : Dispatcher) (j k : JobId) : Prop where
  orderly : d.Orderly
  aged : d.Aged
  usual : d.config.precedence = .priorityThenFairness
  peers : d.Peers j k

namespace Sharing

theorem symm (h : d.Sharing j k) : d.Sharing k j :=
  ⟨h.orderly, h.aged, h.usual, h.peers.symm⟩

/-- What becomes of one of the jobs when a worker asks for work. -/
theorem turn (h : d.Sharing j k) (w : WorkerId) (now clock : Instant) :
    ∃ job, d.jobs.get? j = some job ∧ Turn d w now j job (d.dequeue w now clock).2 := by
  obtain ⟨job, -, live, -, -⟩ := h.peers.priority
  exact ⟨job, live, turn_dequeue h.orderly h.aged h.usual live w now clock⟩

/-- The job keeps its priority. -/
theorem priority_ask (h : d.Sharing j k) (q : Question) : ∃ job job',
    d.jobs.get? j = some job ∧ (d.ask q).jobs.get? j = some job' ∧
      job'.priority = job.priority := by
  obtain ⟨job, live, turn⟩ := h.turn q.worker q.now q.clock
  cases turn with
  | passed untold same => exact ⟨job, job, live, same, rfl⟩
  | served best waiting after => exact ⟨job, _, live, after, rfl⟩

theorem ask (h : d.Sharing j k) (q : Question) : (d.ask q).Sharing j k := by
  have preferences : (d.ask q).preferences = d.preferences := by
    rw [Dispatcher.ask, perform]
    generalize outcome : d.dequeue q.worker q.now q.clock = answer
    cases outcome ▸ d.dequeue_cases h.orderly q.worker q.now q.clock <;> rfl
  refine ⟨h.orderly.perform (admitted_of_forall _), h.aged.perform h.orderly _, ?_, ?_, ?_⟩
  · rw [Dispatcher.ask, config_perform h.orderly]
    exact h.usual
  · obtain ⟨job, job', live, after, same⟩ := h.priority_ask q
    obtain ⟨other, other', live', after', same'⟩ := h.symm.priority_ask q
    obtain ⟨first, second, isFirst, isSecond, alike⟩ := h.peers.priority
    obtain rfl : first = job := Option.some.inj (isFirst.symm.trans live)
    obtain rfl : second = other := Option.some.inj (isSecond.symm.trans live')
    exact ⟨job', other', after, after', same.trans (alike.trans same'.symm)⟩
  · rw [preferred, preferred, preferences]
    exact h.peers.alike

/-- No line gets longer. -/
theorem hasWork_of_ask (h : d.Sharing j k) {q : Question} (work : (d.ask q).HasWork j) :
    d.HasWork j := by
  obtain ⟨job, live, turn⟩ := h.turn q.worker q.now q.clock
  rw [hasWork_of_live live]
  cases turn with
  | passed untold same => exact (hasWork_of_live same).1 work
  | served best waiting after => exact waiting ▸ List.cons_ne_nil _ _

/-- A job gets one more bucket in flight only if the other has no fewer. -/
theorem inFlightCount_ask (h : d.Sharing j k) (other : k ≠ j) (work : d.HasWork k)
    (q : Question) : (d.ask q).inFlightCount j = d.inFlightCount j ∨
      d.inFlightCount j ≤ d.inFlightCount k ∧
        (d.ask q).inFlightCount j = d.inFlightCount j + 1 := by
  obtain ⟨job, live, turn⟩ := h.turn q.worker q.now q.clock
  cases turn with
  | passed untold same =>
    left
    rw [inFlightCount_of_live live]
    exact inFlightCount_of_live same
  | @served best b rest waiting after =>
    right
    have notMore := h.peers.le_of_isBest other work best
    obtain ⟨gone, placed⟩ := h.orderly.placed live
    have free : b.bucket.id ∉ job.queue.inFlight.keys :=
      placed.not_inFlight b (waiting ▸ List.mem_cons_self)
    refine ⟨notMore, ?_⟩
    rw [inFlightCount_of_live live, ← JobQueue.dequeuedCount_handedOut free rest q.worker q.now]
    exact inFlightCount_of_live after

theorem gap_ask_le (h : d.Sharing j k) (work : d.HasWork j) (work' : d.HasWork k) (q : Question) :
    (d.ask q).gap j k ≤ max 1 (d.gap j k) := by
  rw [gap, gap]
  by_cases e : k = j
  · subst e
    simp
  · have count := h.inFlightCount_ask e work' q
    have count' := h.symm.inFlightCount_ask (Ne.symm e) work q
    unfold Nat.dist
    omega

/-- The job that is ahead is passed over. -/
theorem passedOver (h : d.Sharing j k) (work : d.HasWork k)
    (ahead : d.inFlightCount k < d.inFlightCount j) : d.PassedOver j := by
  intro w now clock
  obtain ⟨job, live, turn⟩ := h.turn w now clock
  cases turn with
  | passed untold same =>
    refine ⟨untold, ?_⟩
    rw [queueOf_of_live live]
    exact queueOf_of_live same
  | served best waiting after =>
    have other : k ≠ j := by
      rintro rfl
      exact Nat.lt_irrefl _ ahead
    exact absurd (h.peers.le_of_isBest other work best) (Nat.not_le.2 ahead)

/-! ## Any number of questions -/

theorem asked (h : d.Sharing j k) (questions : List Question) :
    (d.asked questions).Sharing j k := by
  induction questions generalizing d with
  | nil => exact h
  | cons q questions ih => exact ih (h.ask q)

theorem hasWork_of_asked (h : d.Sharing j k) {questions : List Question}
    (work : (d.asked questions).HasWork j) : d.HasWork j := by
  induction questions generalizing d with
  | nil => exact work
  | cons q questions ih => exact h.hasWork_of_ask (ih (h.ask q) work)

/-- While both jobs have work, no question takes them further apart than they were at first, unless
that is one bucket. -/
theorem gap_asked_le (h : d.Sharing j k) {questions : List Question}
    (work : (d.asked questions).HasWork j) (work' : (d.asked questions).HasWork k) :
    (d.asked questions).gap j k ≤ max 1 (d.gap j k) := by
  induction questions generalizing d with
  | nil => exact Nat.le_max_right ..
  | cons q questions ih =>
    have later := (h.ask q).hasWork_of_asked work
    have later' := (h.ask q).symm.hasWork_of_asked work'
    have first := h.gap_ask_le (h.hasWork_of_ask later) (h.symm.hasWork_of_ask later') q
    calc (d.asked (q :: questions)).gap j k
      _ ≤ max 1 ((d.ask q).gap j k) := ih (h.ask q) work work'
      _ ≤ max 1 (d.gap j k) := Nat.max_le.2 ⟨Nat.le_max_left .., first⟩

end Sharing

/-- What holds after some questions for work: the numbers of buckets in flight of the two jobs are
no further apart than they were at first, or one apart; so they are after one more question; and if
one job has more buckets in flight than the other, it is handed out none of its buckets, whoever
asks next. -/
structure SharesFairly (d : Dispatcher) (j k : JobId) (questions : List Question) : Prop where
  bounded : (d.asked questions).gap j k ≤ max 1 (d.gap j k)
  next (q : Question) : (d.asked (questions ++ [q])).gap j k ≤ max 1 (d.gap j k)
  ahead : (d.asked questions).inFlightCount k < (d.asked questions).inFlightCount j →
    (d.asked questions).PassedOver j
  behind : (d.asked questions).inFlightCount j < (d.asked questions).inFlightCount k →
    (d.asked questions).PassedOver k

theorem Sharing.sharesFairly (h : d.Sharing j k) {questions : List Question}
    (work : (d.asked questions).HasWork j) (work' : (d.asked questions).HasWork k) :
    d.SharesFairly j k questions where
  bounded := h.gap_asked_le work work'
  next q := by
    have last := (h.asked questions).gap_ask_le work work' q
    rw [Dispatcher.asked, List.foldl_append]
    exact Nat.le_trans last (Nat.max_le.2 ⟨Nat.le_max_left .., h.gap_asked_le work work'⟩)
  ahead := (h.asked questions).passedOver work'
  behind := (h.asked questions).symm.passedOver work

/-- From every state that a dispatcher of the usual precedence can come to, two live jobs of one
priority that no worker prefers to one another share the workers fairly while both have buckets
waiting, whoever asks for work and in whatever order, and whatever other jobs there are. -/
theorem sharesFairly_run (config : DispatcherConfig) (silence : Duration) (ops : List Operation)
    (j k : JobId) (questions : List Question)
    (peers : ((new { config with precedence := .priorityThenFairness } silence).run ops).Peers
      j k)
    (work : (((new { config with precedence := .priorityThenFairness } silence).run
      ops).asked questions).HasWork j)
    (work' : (((new { config with precedence := .priorityThenFairness } silence).run
      ops).asked questions).HasWork k) :
    ((new { config with precedence := .priorityThenFairness } silence).run ops).SharesFairly
      j k questions := by
  have composed := composed_new (fun _ _ => True)
    { config with precedence := .priorityThenFairness } silence
  have usual : ((new { config with precedence := .priorityThenFairness } silence).run
      ops).config.precedence = .priorityThenFairness := by
    rw [config_run composed]
    rfl
  have sharing : ((new { config with precedence := .priorityThenFairness } silence).run
      ops).Sharing j k :=
    ⟨composed.run fun op _ => admitted_of_forall op, (aged_new _ silence).run composed ops, usual,
      peers⟩
  exact sharing.sharesFairly work work'

/-- Two jobs of one priority, two workers that no job prefers, and a job that is more urgent. -/
def contested : List Operation :=
  [.roster (.register ⟨"w1"⟩ ⟨0⟩), .roster (.register ⟨"w2"⟩ ⟨0⟩),
    .enqueue ⟨"old"⟩ [single "o1", single "o2"] ⟨0⟩ ⟨1⟩,
    .enqueue ⟨"new"⟩ [single "n1", single "n2"] ⟨0⟩ ⟨2⟩,
    .enqueue ⟨"urgent"⟩ [single "u"] ⟨1⟩ ⟨3⟩]
where
  single (name : String) : Bucket := ⟨⟨name⟩, [⟨⟨"C", name⟩, [], none⟩], onceMore⟩

theorem sharesFairly_run_contested :
    ((new {} (.ofSeconds 30)).run contested).SharesFairly ⟨"old"⟩ ⟨"new"⟩
      [⟨⟨"w1"⟩, ⟨4⟩, ⟨4⟩⟩, ⟨⟨"w2"⟩, ⟨5⟩, ⟨5⟩⟩] :=
  sharesFairly_run {} (.ofSeconds 30) contested ⟨"old"⟩ ⟨"new"⟩
    [⟨⟨"w1"⟩, ⟨4⟩, ⟨4⟩⟩, ⟨⟨"w2"⟩, ⟨5⟩, ⟨5⟩⟩] ⟨⟨_, _, rfl, rfl, rfl⟩, fun _ => rfl⟩
    (List.cons_ne_nil _ _) (List.cons_ne_nil _ _)

end Dispatcher

end TestFleet
