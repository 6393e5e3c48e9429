import TestFleet.Proofs.Queue.Activity
import TestFleet.Proofs.Queue.Handouts
import TestFleet.Proofs.Server.VersionGate

/-!
# Buckets that were lost on the way

A bucket may be lost on its way to the worker that it was handed out to. The worker then asks for
work again, is told to come back later for as long as it holds all that it may, and has nothing to
report. Such questions are no signs of life, so the first sweep after the worker was quiet for too
long takes the bucket back, and the next question is answered with a bucket.

* `SignOfLife`, `Starved`: how a worker comes to be in want of a bucket that it holds;
* `heardAt_run`: when it was last heard of then;
* `Awaited`: the state of the worker after the sweep, and `Awaited.run`: nothing but a request
  changes it;
* `recovers_run`: the worker gets a bucket again.
-/

namespace TestFleet

namespace Dispatcher

variable {d : Dispatcher} {w : WorkerId} {t now : Instant}

/-- A worker that has room gets a bucket as long as one waits. -/
theorem exists_dequeue_eq_bucket (orderly : d.Orderly) (room : d.HasRoom w)
    (waiting : d.candidates w ≠ []) (now clock : Instant) :
    ∃ taken, (d.dequeue w now clock).1 = .ok (.bucket taken) := by
  obtain ⟨r, held, answer⟩ := answered_of_mayWork room.1 clock
  have notFull : ¬d.config.bucketsPerWorker ≤ (r.held w).length := by
    rw [held]
    exact Nat.not_le.2 room.2
  have same : { d with roster := r }.candidates w = d.candidates w := rfl
  obtain ⟨c, cs, ranked⟩ := d.config.precedence.exists_rank_eq_cons waiting
  obtain ⟨j, job, live, some, rfl⟩ := mem_candidates.1 (mem_of_sortBy_eq_cons ranked)
  obtain ⟨first, rest, line⟩ := List.exists_cons_of_length_pos some
  have handed := handOut_candidate (d := { d with roster := r }) orderly live line w now clock cs
  refine ⟨⟨first, w, now⟩, ?_⟩
  rw [dequeue_eq_answered, answer, handOutWork]
  dsimp only
  rw [if_neg notFull, same, if_neg fun empty => waiting (List.isEmpty_iff.1 empty), ranked]
  exact congrArg (fun outcome => Except.ok outcome.1) handed

/-! ## A worker that is overdue -/

/-- The worker is alive and was last heard of at `t`. -/
structure HeardAt (d : Dispatcher) (w : WorkerId) (t : Instant) : Prop where
  alive : d.roster.liveness w = .alive
  last : d.roster.lastActivity? w = some t

theorem HeardAt.exists_record (h : d.HeardAt w t) : ∃ s, d.roster.workers.get? w = some s ∧
    s.standing = .alive ∧ s.lastActivity = t := by
  obtain ⟨s, known, last⟩ := Option.map_eq_some_iff.1 h.last
  refine ⟨s, known, ?_, last⟩
  have alive := h.alive
  rw [Roster.liveness, known] at alive
  cases standing : s.standing with
  | alive => rfl
  | _ => simp [WorkerRecord.liveness, standing] at alive

/-- The worker is alive, was last heard of longer ago than the roster allows, and some bucket is in
flight for it. -/
theorem HeardAt.quiet (h : d.HeardAt w t)
    (late : t.nanoseconds + d.roster.threshold.nanoseconds < now.nanoseconds)
    {j : JobId} {b : BucketId} {f : InFlightBucket}
    (inFlight : (d.queueOf j).inFlight.get? b = some f) (worker : f.worker = w) :
    d.Quiet now w := by
  obtain ⟨s, known, alive, last⟩ := h.exists_record
  refine ⟨s, known, alive, ⟨j, b, f, inFlight, worker⟩, ?_⟩
  rw [last, Instant.since]
  omega

/-- A sweep marks a quiet worker silent. -/
theorem Indexed.silent_of_quiet (h : d.Indexed) (quiet : d.Quiet now w) :
    ∃ s, (d.swept now).roster.workers.get? w = some s ∧ s.standing = .silent := by
  obtain ⟨s, known, -⟩ := id quiet
  obtain ⟨s', known', -, silent, -⟩ := (h.sweepsExactly now).standing w s known
  rw [reclaim_state] at known'
  exact ⟨s', known', silent quiet⟩

theorem Indexed.gone_of_quiet (h : d.Indexed) (quiet : d.Quiet now w) :
    (d.swept now).roster.Gone w := by
  obtain ⟨s, known, silent⟩ := h.silent_of_quiet quiet
  intro s' known'
  obtain rfl := Option.some.inj (known.symm.trans known')
  exact .inl silent

/-- What is in flight for an overdue worker waits again after a sweep, in front of the others. -/
theorem Indexed.exists_front (h : d.Indexed) (heard : d.HeardAt w t)
    (late : t.nanoseconds + d.roster.threshold.nanoseconds < now.nanoseconds) (j : JobId) :
    ∃ front, ((d.swept now).queueOf j).waiting = front ++ (d.queueOf j).waiting ∧
      ∀ b f, (d.queueOf j).inFlight.get? b = some f → f.worker = w → f.waiting ∈ front := by
  obtain ⟨gone, placed⟩ := h.orderly.placed_queueOf j
  refine ⟨_, congrArg JobQueue.waiting (d.queueOf_swept now j), fun b f inFlight worker => ?_⟩
  obtain rfl := placed.own b f inFlight
  have isGone : (d.marked now).roster.Gone f.worker := by
    rw [← Roster.gone_relieved, worker]
    exact h.gone_of_quiet (heard.quiet late inFlight worker)
  exact List.mem_map_of_mem (placed.mem_stuck.2 ⟨inFlight, Roster.isStuck_iff.2 (.inl isGone)⟩)

/-- Nothing is in flight for an overdue worker after a sweep. -/
theorem Indexed.held_swept_of_heardAt (h : d.Indexed) (heard : d.HeardAt w t)
    (late : t.nanoseconds + d.roster.threshold.nanoseconds < now.nanoseconds) :
    (d.swept now).roster.held w = [] := by
  by_cases some : d.inFlightFor w = []
  · have none := (h.inFlightFor_perm_held w).symm
    rw [some] at none
    refine List.eq_nil_iff_forall_not_mem.2 fun b hb => ?_
    rw [← reclaim_state] at hb
    have before := ((h.sweepsExactly now).held w b).1 hb
    rw [none.eq_nil] at before
    cases before.1
  · obtain ⟨b, hb⟩ := List.exists_mem_of_ne_nil _ some
    obtain ⟨j, f, inFlight, worker⟩ := (mem_inFlightFor h.orderly).1 hb
    exact h.held_swept_of_gone (h.gone_of_quiet (heard.quiet late inFlight worker))

/-! ## A worker that is awaited -/

/-- The worker is silent and holds nothing, though it may, and a bucket waits. -/
structure Awaited (d : Dispatcher) (w : WorkerId) : Prop where
  indexed : d.Indexed
  silent : ∃ s, d.roster.workers.get? w = some s ∧ s.standing = .silent
  nothing : d.roster.held w = []
  room : 0 < d.config.bucketsPerWorker
  waiting : ∃ j job, d.jobs.get? j = some job ∧ job.queue.waiting ≠ []

/-- After a sweep an overdue worker that a bucket was in flight for is awaited. -/
theorem Indexed.awaited_swept (h : d.Indexed) (heard : d.HeardAt w t)
    (late : t.nanoseconds + d.roster.threshold.nanoseconds < now.nanoseconds)
    (some : d.inFlightFor w ≠ []) : (d.swept now).Awaited w := by
  obtain ⟨b, hb⟩ := List.exists_mem_of_ne_nil _ some
  obtain ⟨j, f, inFlight, worker⟩ := (mem_inFlightFor h.orderly).1 hb
  refine ⟨h.swept now, h.silent_of_quiet (heard.quiet late inFlight worker),
    h.held_swept_of_heardAt heard late, ?_, ?_⟩
  · have holds : 0 < (d.roster.held w).length := by
      rw [← (h.inFlightFor_perm_held w).length_eq]
      exact List.length_pos_iff.2 some
    exact Nat.lt_of_lt_of_le holds (h.limit w)
  · obtain ⟨job, live, -⟩ := inFlight_queueOf_eq_some.1 inFlight
    obtain ⟨front, waiting, back⟩ := h.exists_front heard late j
    refine ⟨j, _, get?_swept live now, ?_⟩
    rw [queueOf_of_live (get?_swept live now)] at waiting
    rw [waiting]
    exact List.append_ne_nil_of_left_ne_nil (List.ne_nil_of_mem (back b f inFlight worker)) _

namespace Awaited

/-- An awaited worker gets a bucket when it asks for work. -/
theorem dequeue (h : d.Awaited w) (now clock : Instant) :
    ∃ taken, (d.dequeue w now clock).1 = .ok (.bucket taken) := by
  obtain ⟨s, known, silent⟩ := h.silent
  have isSilent : d.roster.liveness w = .silent s.buckets.keys := by
    rw [Roster.liveness, known]
    dsimp only
    rw [WorkerRecord.liveness, silent]
  refine exists_dequeue_eq_bucket h.indexed.orderly ⟨⟨?_, ?_, ?_⟩, ?_⟩ ?_ now clock
  · simp [isSilent]
  · simp [isSilent]
  · simp [isSilent]
  · rw [h.nothing]
    exact h.room
  · obtain ⟨j, job, live, waiting⟩ := h.waiting
    exact fun none => waiting (candidates_eq_nil_iff.1 none j job live)

/-- Another sweep makes no difference to it. -/
theorem swept (h : d.Awaited w) (now : Instant) : (d.swept now).Awaited w := by
  have sweep := h.indexed.sweepsExactly now
  refine ⟨h.indexed.swept now, ?_, ?_, h.room, ?_⟩
  · obtain ⟨s, known, silent⟩ := h.silent
    obtain ⟨s', known', -, -, kept⟩ := sweep.standing w s known
    have notQuiet : ¬d.Quiet now w := by
      rintro ⟨s'', known'', alive, -⟩
      obtain rfl := Option.some.inj (known.symm.trans known'')
      rw [silent] at alive
      cases alive
    rw [reclaim_state] at known'
    exact ⟨s', known', (kept notQuiet).trans silent⟩
  · refine List.eq_nil_iff_forall_not_mem.2 fun b hb => ?_
    rw [← reclaim_state] at hb
    have before := ((sweep.held w b).1 hb).1
    rw [h.nothing] at before
    cases before
  · obtain ⟨j, job, live, waiting⟩ := h.waiting
    refine ⟨j, _, get?_swept live now, ?_⟩
    exact List.append_ne_nil_of_right_ne_nil _ waiting

theorem rebalance (h : d.Awaited w) (a : Assignment) : (d.rebalance a).Awaited w := by
  have indexed : (d.perform (.rebalance a)).Indexed := h.indexed.perform id
  exact ⟨indexed, h.silent, h.nothing, h.room, h.waiting⟩

end Awaited

end Dispatcher

namespace Server

variable {s : Server} {w : WorkerId} {t : Instant} {step : Step}

/-! ## What a worker sends -/

/-- The worker sends something at `t` that counts as a sign of life if it is alive then. -/
inductive SignOfLife (s : Server) (w : WorkerId) (t : Instant) : Step → Prop where
  | registers (wall : Timestamp) (version : String) :
      SignOfLife s w t (.request t wall (.registerWorker w version))
  | beats (wall : Timestamp) : SignOfLife s w t (.request t wall (.heartbeat w))
  | reports (wall : Timestamp) (report : BucketReport) :
      SignOfLife s w t (.request t wall (.bucketResult w report))
  | takes (wall : Timestamp) {b : Bucket}
      (given : (s.handle t wall (.dequeueBucket w)).1 = .dequeue (.bucket b)) :
      SignOfLife s w t (.request t wall (.dequeueBucket w))

/-- The worker asks for work and gets none now. -/
inductive Unfed (s : Server) (w : WorkerId) : Step → Prop where
  | asks (now : Instant) (wall : Timestamp) (after : Duration)
      (answer : (s.handle now wall (.dequeueBucket w)).1 = .dequeue (.checkAgainLater after) ∨
        (s.handle now wall (.dequeueBucket w)).1 = .dequeue (.queueIsEmpty after)) :
      Unfed s w (.request now wall (.dequeueBucket w))

/-- Along the steps the worker stays alive, and all that it sends are questions for work that it
gets none on. -/
def Starved (s : Server) (w : WorkerId) : List Step → Prop
  | [] => s.dispatcher.roster.liveness w = .alive
  | step :: steps => s.dispatcher.roster.liveness w = .alive ∧
      (step.worker? = some w → s.Unfed w step) ∧ (s.perform step).Starved w steps

theorem Starved.alive {steps : List Step} (h : s.Starved w steps) :
    s.dispatcher.roster.liveness w = .alive := by
  cases steps with
  | nil => exact h
  | cons step steps => exact h.1

/-! ## When it was last heard of -/

theorem lastActivity?_admitted_of_ne {v : WorkerId} (h : w ≠ v) (ours version : String)
    (now : Instant) (r : Roster) :
    (admitted ours v version now r).lastActivity? w = r.lastActivity? w := by
  rw [admitted]
  have announced : (r.beginRegistration v now).lastActivity? w = r.lastActivity? w :=
    Roster.lastActivity?_enter_of_ne r _ _ h
  split <;> exact (Roster.lastActivity?_enter_of_ne _ _ _ h).trans announced

/-- What others send, and what the server does on its own account, is no sign of life. -/
theorem lastActivity?_perform_of_ne (orderly : s.dispatcher.Orderly)
    (other : step.worker? ≠ some w) : (s.perform step).dispatcher.roster.lastActivity? w =
      s.dispatcher.roster.lastActivity? w := by
  generalize moved : (s.perform step).dispatcher = d
  cases moved ▸ s.moved_perform step with
  | stays => rfl
  | performs _ op _ asks => exact Dispatcher.lastActivity?_perform_of_ne orderly (asks ▸ other)
  | registers v version now _ asks =>
    have ne : w ≠ v := fun e => other (asks.trans (congrArg some e.symm))
    exact lastActivity?_admitted_of_ne ne _ _ _ _

/-- A worker is alive after it registered only if that was noted as a sign of life. -/
theorem lastActivity?_admitted {ours version : String} {now : Instant} {r : Roster}
    (alive : (admitted ours w version now r).liveness w = .alive) :
    (admitted ours w version now r).lastActivity? w = some now := by
  rw [admitted] at alive ⊢
  split at alive
  · rename_i same
    rw [if_pos same]
    exact Roster.lastActivity?_register _ alive
  · have blocked := Roster.liveness_eq_blocked_iff.2
      (Roster.clearance_block (r.beginRegistration w now) w now)
    rw [blocked] at alive
    cases alive

/-- A worker that is alive after a sign of life was heard of then. -/
theorem SignOfLife.heardAt (sign : s.SignOfLife w t step) (orderly : s.dispatcher.Orderly)
    (alive : (s.perform step).dispatcher.roster.liveness w = .alive) :
    (s.perform step).dispatcher.HeardAt w t := by
  refine ⟨alive, ?_⟩
  have listed : w ∈ (s.perform step).dispatcher.roster.workers.keys :=
    Roster.mem_workers_of_liveness (by rw [alive]; exact nofun)
  cases sign with
  | registers wall version =>
    have admits := s.register_dispatcher w version t
    have state : (s.perform (.request t wall (.registerWorker w version))).dispatcher =
        s.dispatcher.withRoster (admitted s.version w version t) := admits
    rw [state] at alive ⊢
    exact lastActivity?_admitted alive
  | beats wall =>
    exact Roster.lastActivity?_setAlive (Roster.mem_workers_setAlive.1 listed)
  | reports wall report =>
    exact Dispatcher.lastActivity?_accept (Dispatcher.mem_workers_accept.1 listed)
  | takes wall given =>
    obtain ⟨taken, answer, -⟩ := dequeue_eq_bucket_iff.1 (Reply.dequeue.inj given)
    exact Dispatcher.lastActivity?_dequeue orderly answer

/-- A question for work that an alive worker gets none on changes nothing. -/
theorem Unfed.dispatcher_perform (unfed : s.Unfed w step) (orderly : s.dispatcher.Orderly)
    (alive : s.dispatcher.roster.liveness w = .alive) :
    (s.perform step).dispatcher = s.dispatcher := by
  obtain ⟨now, wall, after, answer⟩ := unfed
  rcases Dispatcher.dequeue_of_alive orderly alive now now with ⟨taken, given⟩ | same
  · have gives : (s.handle now wall (.dequeueBucket w)).1 = .dequeue (.bucket taken.bucket) :=
      congrArg Reply.dequeue (dequeue_eq_bucket_iff.2 ⟨taken, given, rfl⟩)
    rw [gives] at answer
    rcases answer with later | none
    · cases later
    · cases none
  · exact same

/-- A worker that gets nothing was last heard of before it began to ask. -/
theorem heardAt_run {steps : List Step} (heard : s.dispatcher.HeardAt w t)
    (starved : s.Starved w steps) (orderly : s.dispatcher.Orderly) :
    (s.run steps).dispatcher.HeardAt w t := by
  induction steps generalizing s with
  | nil => exact heard
  | cons step steps ih =>
    obtain ⟨alive, unfed, rest⟩ := starved
    refine ih ⟨rest.alive, ?_⟩ rest (orderly_perform orderly step)
    by_cases own : step.worker? = some w
    · rw [(unfed own).dispatcher_perform orderly alive]
      exact heard.last
    · exact (lastActivity?_perform_of_ne orderly own).trans heard.last

/-! ## Recovery -/

/-- The step is none that somebody asks for. -/
def Step.IsInternal : Step → Prop
  | .request .. => False
  | _ => True

theorem awaited_perform (awaited : s.dispatcher.Awaited w) (internal : step.IsInternal) :
    (s.perform step).dispatcher.Awaited w := by
  cases step with
  | request => cases internal
  | sweep now =>
    have state : (s.perform (.sweep now)).dispatcher = s.dispatcher.swept now :=
      Dispatcher.reclaim_state ..
    rw [state]
    exact awaited.swept now
  | rebalance a => exact awaited.rebalance a
  | retire => exact awaited

/-- Only a request changes that a worker is awaited. -/
theorem awaited_run {steps : List Step} (awaited : s.dispatcher.Awaited w)
    (internal : ∀ step ∈ steps, step.IsInternal) : (s.run steps).dispatcher.Awaited w := by
  induction steps generalizing s with
  | nil => exact awaited
  | cons step steps ih =>
    obtain ⟨first, rest⟩ := List.forall_mem_cons.1 internal
    exact ih (awaited_perform awaited first) rest

/-- What a sweep at `now` does for a worker: in each job, all that is in flight for the worker waits
again, in front of all that waited before, and nothing is in flight for it any more; and if anything
was, it gets a bucket when it next asks for work, as long as no other request comes in between. -/
structure Recovers (s : Server) (w : WorkerId) (now : Instant) : Prop where
  front (j : JobId) : ∃ front,
    ((s.sweep now).2.dispatcher.queueOf j).waiting = front ++ (s.dispatcher.queueOf j).waiting ∧
      ∀ b f, (s.dispatcher.queueOf j).inFlight.get? b = some f → f.worker = w → f.waiting ∈ front
  nothing : (s.sweep now).2.dispatcher.inFlightFor w = []
  again : s.dispatcher.inFlightFor w ≠ [] → ∀ more : List Step,
    (∀ step ∈ more, step.IsInternal) → ∀ later wall, ∃ b,
      (((s.sweep now).2.run more).handle later wall (.dequeueBucket w)).1 = .dequeue (.bucket b)

theorem recovers_of_heardAt {now : Instant} (indexed : s.dispatcher.Indexed)
    (heard : s.dispatcher.HeardAt w t)
    (late : t.nanoseconds + s.dispatcher.roster.threshold.nanoseconds < now.nanoseconds) :
    s.Recovers w now := by
  have state : (s.sweep now).2.dispatcher = s.dispatcher.swept now := Dispatcher.reclaim_state ..
  refine ⟨fun j => ?front, ?nothing, fun some more internal later wall => ?again⟩
  case front =>
    rw [state]
    exact indexed.exists_front heard late j
  case nothing =>
    have perm := (indexed.swept now).inFlightFor_perm_held w
    rw [indexed.held_swept_of_heardAt heard late] at perm
    rw [state]
    exact perm.eq_nil
  case again =>
    have awaited : (s.sweep now).2.dispatcher.Awaited w := by
      rw [state]
      exact indexed.awaited_swept heard late some
    obtain ⟨taken, given⟩ := (awaited_run awaited internal).dequeue later later
    exact ⟨taken.bucket, congrArg Reply.dequeue (dequeue_eq_bucket_iff.2 ⟨taken, given, rfl⟩)⟩

end Server

namespace ServerSetup

open Server

theorem threshold_run (setup : ServerSetup) (steps : List Step) :
    (setup.server.run steps).dispatcher.roster.threshold = setup.silence := by
  obtain ⟨ops, -, run⟩ := setup.exists_run steps
  rw [run, Dispatcher.threshold_run (Dispatcher.composed_new _ setup.dispatcher setup.silence)]
  rfl

/-- After any requests, sweeps and rebalances: if a worker gives a sign of life and from then on
stays alive and sends nothing but questions for work that it gets none on, every sweep after the
time for which it may be quiet puts all that is in flight for it back to the front of its job's
line; and if there was anything, the worker gets a bucket when it next asks. -/
theorem recovers_run (setup : ServerSetup) {steps since : List Step} {step : Step} {w : WorkerId}
    {t now : Instant} (sign : (setup.server.run steps).SignOfLife w t step)
    (starved : (setup.server.run (steps ++ [step])).Starved w since)
    (late : t.nanoseconds + setup.silence.nanoseconds < now.nanoseconds) :
    (setup.server.run (steps ++ step :: since)).Recovers w now := by
  have orderly (steps : List Step) : (setup.server.run steps).dispatcher.Orderly :=
    (setup.composed_run steps).orderly
  have after : setup.server.run (steps ++ [step]) = (setup.server.run steps).perform step :=
    run_append ..
  have whole : setup.server.run (steps ++ step :: since) =
      (setup.server.run (steps ++ [step])).run since := by
    rw [← run_append, List.append_assoc]
    rfl
  have first : (setup.server.run (steps ++ [step])).dispatcher.HeardAt w t := by
    have alive := starved.alive
    rw [after] at alive ⊢
    exact sign.heardAt (orderly steps) alive
  have heard : (setup.server.run (steps ++ step :: since)).dispatcher.HeardAt w t := by
    rw [whole]
    exact heardAt_run first starved (orderly _)
  refine recovers_of_heardAt (setup.indexed_run _) heard ?_
  rw [setup.threshold_run]
  exact late

/-- A worker registers, and then a job of one bucket comes in. -/
def oneBucket : List Step :=
  [.request ⟨0⟩ ⟨0⟩ (.registerWorker ⟨"worker"⟩ protocolVersion),
    .request ⟨1⟩ ⟨0⟩ (.scheduleTests ⟨⟨"job"⟩, ⟨0⟩, .unsplit,
      [⟨⟨⟨"A", "a"⟩, [], none⟩, Dispatcher.onceMore⟩]⟩)]

/-- The worker does not hear that it was handed the bucket, and asks again. -/
theorem recovers_run_lost : (({} : ServerSetup).server.run (oneBucket ++
    .request ⟨2⟩ ⟨0⟩ (.dequeueBucket ⟨"worker"⟩) ::
      [.request ⟨3⟩ ⟨0⟩ (.dequeueBucket ⟨"worker"⟩), .sweep ⟨4⟩])).Recovers ⟨"worker"⟩
        ⟨31 * nanosPerSecond⟩ :=
  recovers_run {} (.takes ⟨0⟩ rfl)
    ⟨rfl, fun _ => .asks ⟨3⟩ ⟨0⟩ _ (.inl rfl), rfl, nofun, rfl⟩ (by decide)

end ServerSetup

end TestFleet
