import TestFleet.Proofs.Queue.Clearance
import TestFleet.Proofs.Server.Indexes

/-!
# The version gate

A server gives work only to workers that registered with its own version. A worker that ever
registered with another one is blocked for good: nothing that it or anyone else sends clears it
again, and what it still holds is taken back by the next sweep.

* `versionsOf`: the versions that a worker registered with along some steps;
* `Moved`, `moved_perform`: a step of a server registers a worker, or keeps the clearance of all;
* `clearance_run`: the clearance of a worker is what its registrations have made of it;
* `versions_of_cleared`, `inFlightFor_of_blocked`: what follows for one that is cleared or blocked;
* `version_gate`: what that says of the answers that the worker gets, and of its buckets.
-/

namespace TestFleet

namespace Server

/-- The version that a step lets a worker register with, if it does. -/
def Step.versionOf? (w : WorkerId) : Step → Option String
  | .request _ _ (.registerWorker v version) => if v = w then some version else none
  | _ => none

/-- The versions that a worker registered with, in order. -/
def versionsOf (w : WorkerId) (steps : List Step) : List String :=
  steps.filterMap (Step.versionOf? w)

/-- What a registration makes of a worker's clearance. -/
def clearedBy (ours : String) (before : Option Standing) (version : String) : Option Standing :=
  if before = some .blocked ∨ version ≠ ours then some .blocked else some .alive

variable {s : Server} {w : WorkerId} {ours version : String} {now : Instant} {step : Step}
  {steps : List Step}

theorem foldl_clearedBy_blocked (ours : String) (versions : List String) :
    versions.foldl (clearedBy ours) (some .blocked) = some .blocked := by
  induction versions with
  | nil => rfl
  | cons version versions ih =>
    rw [List.foldl_cons, clearedBy, if_pos (.inl rfl)]
    exact ih

/-- One registration with another version is enough. -/
theorem foldl_clearedBy_of_mem {versions : List String} (mem : version ∈ versions)
    (other : version ≠ ours) (before : Option Standing) :
    versions.foldl (clearedBy ours) before = some .blocked := by
  induction versions generalizing before with
  | nil => cases mem
  | cons first versions ih =>
    rw [List.foldl_cons]
    rcases List.mem_cons.1 mem with rfl | mem
    · rw [clearedBy, if_pos (.inr other)]
      exact foldl_clearedBy_blocked ours versions
    · exact ih mem _

/-! ## Steps -/

/-- The roster after a worker registered. -/
def admitted (ours : String) (w : WorkerId) (version : String) (now : Instant) (r : Roster) :
    Roster :=
  if version = ours then (r.beginRegistration w now).register w now
  else (r.beginRegistration w now).block w now

theorem clearance_admitted (ours : String) (w : WorkerId) (version : String) (now : Instant)
    (r : Roster) :
    (admitted ours w version now r).clearance w = clearedBy ours (r.clearance w) version := by
  rw [admitted, clearedBy]
  by_cases e : version = ours
  · rw [if_pos e, Roster.clearance_register]
    simp [e]
  · rw [if_neg e, Roster.clearance_block, if_pos (.inr e)]

theorem clearance_admitted_of_ne {v : WorkerId} (h : w ≠ v) (r : Roster) :
    (admitted ours v version now r).clearance w = r.clearance w := by
  rw [admitted]
  split
  · exact Roster.clearance_register_of_ne h r now
  · exact Roster.clearance_block_of_ne h r now

theorem held_admitted (r : Roster) (v : WorkerId) :
    (admitted ours v version now r).held w = r.held w := by
  rw [admitted]
  split <;> simp

theorem register_dispatcher (s : Server) (w : WorkerId) (version : String) (now : Instant) :
    (s.register w version now).2.2.dispatcher =
      s.dispatcher.withRoster (admitted s.version w version now) := by
  rw [register]
  dsimp only
  split
  · rename_i same
    have admitted : admitted s.version w version now =
        fun r => (r.beginRegistration w now).register w now :=
      funext fun r => if_pos same
    rw [admitted]
    split <;> rfl
  · rename_i other
    have admitted : admitted s.version w version now =
        fun r => (r.beginRegistration w now).block w now :=
      funext fun r => if_neg other
    rw [admitted]
    rfl

/-- The worker whose message a step answers, if it is a worker's. -/
def Step.worker? : Step → Option WorkerId
  | .request _ _ (.registerWorker w _) => some w
  | .request _ _ (.dequeueBucket w) => some w
  | .request _ _ (.bucketResult w _) => some w
  | .request _ _ (.heartbeat w) => some w
  | _ => none

/-- What a step makes of the dispatcher: a worker registers, or all clearances are kept. -/
inductive Moved (s : Server) (step : Step) : Dispatcher → Prop where
  | stays (none : ∀ w, step.versionOf? w = none) : Moved s step s.dispatcher
  | performs (none : ∀ w, step.versionOf? w = none) (op : Dispatcher.Operation)
      (keeps : op.KeepsClearance) (asks : op.worker? = step.worker?) :
      Moved s step (s.dispatcher.perform op)
  | registers (v : WorkerId) (version : String) (now : Instant)
      (some : ∀ w, step.versionOf? w = if v = w then some version else none)
      (asks : step.worker? = Option.some v) :
      Moved s step (s.dispatcher.withRoster (admitted s.version v version now))

theorem moved_schedule (s : Server) (job : Submission) (now : Instant) (wall : Timestamp) :
    s.Moved (.request now wall (.scheduleTests job)) (s.schedule job now).2.2.dispatcher := by
  rw [schedule]
  split
  · exact .stays fun _ => rfl
  · split
    · exact .stays fun _ => rfl
    · rename_i buckets _
      have performs : s.Moved (.request now wall (.scheduleTests job))
          (s.dispatcher.enqueue job.job buckets job.priority now).2.2 :=
        .performs (fun _ => rfl) (.enqueue job.job buckets job.priority now) trivial rfl
      split <;> rename_i enqueued <;> rw [enqueued] at performs <;> exact performs

theorem moved_perform (s : Server) (step : Step) : s.Moved step (s.perform step).dispatcher := by
  cases step with
  | request now wall message =>
    cases message with
    | registerWorker v version =>
      have moved := s.register_dispatcher v version now
      rw [show (s.perform (.request now wall (.registerWorker v version))).dispatcher = _ from
        moved]
      exact .registers v version now (fun _ => rfl) rfl
    | dequeueBucket v => exact .performs (fun _ => rfl) (.dequeue v now now) trivial rfl
    | bucketResult v report =>
      exact .performs (fun _ => rfl) (.accept report.bucket v report now wall) trivial rfl
    | heartbeat v => exact .performs (fun _ => rfl) (.roster (.heartbeat v now)) trivial rfl
    | scheduleTests job => exact s.moved_schedule job now wall
    | deleteJob j => exact .performs (fun _ => rfl) (.delete j) trivial rfl
    | cancelJob j => exact .performs (fun _ => rfl) (.cancel j) trivial rfl
    | healthCheck => exact .stays fun _ => rfl
    | jobState => exact .stays fun _ => rfl
    | workerAliveness => exact .stays fun _ => rfl
    | activeJobs => exact .stays fun _ => rfl
  | sweep now => exact .performs (fun _ => rfl) (.reclaim now) trivial rfl
  | rebalance a => exact .performs (fun _ => rfl) (.rebalance a) trivial rfl
  | retire => exact .stays fun _ => rfl

/-- A step changes the clearance of a worker only if it lets the worker register. -/
theorem clearance_perform (orderly : s.dispatcher.Orderly) (step : Step) (w : WorkerId) :
    (s.perform step).dispatcher.roster.clearance w =
      (step.versionOf? w).elim (s.dispatcher.roster.clearance w)
        (clearedBy s.version (s.dispatcher.roster.clearance w)) := by
  generalize moved : (s.perform step).dispatcher = d
  cases moved ▸ s.moved_perform step with
  | stays none =>
    rw [none]
    rfl
  | performs none op keeps =>
    rw [none, Dispatcher.clearance_perform orderly keeps]
    rfl
  | registers v version now some =>
    rw [some]
    by_cases e : v = w
    · subst e
      rw [if_pos rfl]
      exact clearance_admitted ..
    · rw [if_neg e]
      exact clearance_admitted_of_ne (Ne.symm e) s.dispatcher.roster

/-- The clearance of a worker is what its registrations make of it, one by one. -/
theorem clearance_run (orderly : s.dispatcher.Orderly) (steps : List Step) (w : WorkerId) :
    (s.run steps).dispatcher.roster.clearance w =
      (versionsOf w steps).foldl (clearedBy s.version) (s.dispatcher.roster.clearance w) := by
  induction steps generalizing s with
  | nil => rfl
  | cons step steps ih =>
    have first := clearance_perform orderly step w
    have rest := ih (orderly_perform orderly step)
    rw [first, version_perform] at rest
    refine rest.trans ?_
    rw [versionsOf, versionsOf, List.filterMap_cons]
    cases step.versionOf? w <;> rfl

/-- What a blocked worker holds after a step, it held before. -/
theorem mem_held_of_blocked (orderly : s.dispatcher.Orderly)
    (blocked : s.dispatcher.roster.clearance w = some .blocked) {b : BucketId}
    (held : b ∈ (s.perform step).dispatcher.roster.held w) : b ∈ s.dispatcher.roster.held w := by
  generalize moved : (s.perform step).dispatcher = d at held
  cases moved ▸ s.moved_perform step with
  | stays => exact held
  | performs none op keeps =>
    refine (Dispatcher.mem_held_perform orderly held).resolve_right fun cleared => ?_
    rw [blocked] at cleared
    cases cleared
  | registers v version now => exact held_admitted s.dispatcher.roster v ▸ held

/-- A blocked worker that holds nothing never holds a bucket again. -/
theorem held_run_of_blocked (orderly : s.dispatcher.Orderly)
    (blocked : s.dispatcher.roster.clearance w = some .blocked)
    (none : s.dispatcher.roster.held w = []) (steps : List Step) :
    (s.run steps).dispatcher.roster.held w = [] := by
  induction steps generalizing s with
  | nil => exact none
  | cons step steps ih =>
    refine ih (orderly_perform orderly step) ?_ ?_
    · rw [clearance_perform orderly, blocked]
      cases step.versionOf? w with
      | none => rfl
      | some version => rw [Option.elim_some, clearedBy, if_pos (.inl rfl)]
    · refine List.eq_nil_iff_forall_not_mem.2 fun b held => ?_
      have before := mem_held_of_blocked orderly blocked held
      rw [none] at before
      cases before

/-! ## Answers -/

theorem register_eq_blocked (s : Server) {w : WorkerId} {version : String}
    (blocked : clearedBy s.version (s.dispatcher.roster.clearance w) version = some .blocked)
    (now : Instant) : ∃ reason, (s.register w version now).1 = .blocked reason := by
  have cleared := clearance_admitted s.version w version now s.dispatcher.roster
  rw [blocked, ← Roster.liveness_eq_blocked_iff, admitted] at cleared
  rw [register]
  dsimp only
  split
  · rename_i same
    rw [if_pos (show version = s.version from same)] at cleared
    have isBlocked : ((s.withRoster (·.beginRegistration w now)).withRoster
        (·.register w now)).dispatcher.roster.liveness w = .blocked := cleared
    rw [isBlocked]
    exact ⟨"worker is blocked", rfl⟩
  · exact ⟨versionMismatch version s.version, rfl⟩

theorem dequeue_of_blocked (blocked : s.dispatcher.roster.clearance w = some .blocked)
    (now : Instant) : (s.dequeue w now).1 = .workerBlocked := by
  rw [dequeue, Dispatcher.dequeue_of_blocked blocked]

/-- The server gives what the dispatcher hands out. -/
theorem dequeue_eq_bucket_iff {b : Bucket} : (s.dequeue w now).1 = .bucket b ↔
    ∃ taken, (s.dispatcher.dequeue w now now).1 = .ok (.bucket taken) ∧ taken.bucket = b := by
  rw [dequeue]
  generalize s.dispatcher.dequeue w now now = answer
  obtain ⟨handout, events, d⟩ := answer
  cases handout with
  | ok h => cases h <;> simp
  | error e => cases e <;> simp

/-- A bucket is given only to a worker that is cleared. -/
theorem clearance_of_dequeue_eq_bucket {b : Bucket} (given : (s.dequeue w now).1 = .bucket b) :
    s.dispatcher.roster.clearance w = some .alive := by
  obtain ⟨taken, answer, -⟩ := dequeue_eq_bucket_iff.1 given
  exact Dispatcher.clearance_of_dequeue_ok answer

theorem heartbeat_of_blocked (blocked : s.dispatcher.roster.clearance w = some .blocked)
    (now : Instant) : (s.heartbeat w now).1 = .workerBlocked := by
  have isBlocked : (s.dispatcher.roster.setAlive w now).liveness w = .blocked :=
    Roster.liveness_eq_blocked_iff.2 ((Roster.clearance_setAlive ..).trans blocked)
  rw [heartbeat]
  dsimp only
  rw [show (s.withRoster (·.setAlive w now)).dispatcher.roster.liveness w = _ from isBlocked]

end Server

namespace ServerSetup

open Server

/-- The clearance of a worker after any steps of a new server. -/
theorem clearance_run (setup : ServerSetup) (steps : List Step) (w : WorkerId) :
    (setup.server.run steps).dispatcher.roster.clearance w =
      (versionsOf w steps).foldl (clearedBy setup.version) none :=
  Server.clearance_run (Dispatcher.composed_new _ setup.dispatcher setup.silence) steps w

/-- A worker that is cleared registered with the version of the server, and with no other. -/
theorem versions_of_cleared (setup : ServerSetup) {steps : List Step} {w : WorkerId}
    (cleared : (setup.server.run steps).dispatcher.roster.clearance w = some .alive) :
    setup.version ∈ versionsOf w steps ∧
      ∀ version ∈ versionsOf w steps, version = setup.version := by
  rw [setup.clearance_run] at cleared
  have all : ∀ version ∈ versionsOf w steps, version = setup.version := fun version mem =>
    Decidable.byContradiction fun other => by
      rw [foldl_clearedBy_of_mem mem other] at cleared
      cases cleared
  refine ⟨?_, all⟩
  cases versions : versionsOf w steps with
  | nil =>
    rw [versions] at cleared
    cases cleared
  | cons first rest =>
    have same := all first (versions ▸ List.mem_cons_self)
    exact same ▸ List.mem_cons_self

theorem blocked_of_mem (setup : ServerSetup) {steps : List Step} {w : WorkerId} {version : String}
    (mem : version ∈ versionsOf w steps) (other : version ≠ setup.version) :
    (setup.server.run steps).dispatcher.roster.clearance w = some .blocked :=
  (setup.clearance_run steps w).trans (foldl_clearedBy_of_mem mem other none)

/-- Once a sweep came after a worker was blocked, no bucket is in flight for it, whatever happens
then. -/
theorem inFlightFor_of_blocked (setup : ServerSetup) {steps : List Step} {w : WorkerId}
    (blocked : (setup.server.run steps).dispatcher.roster.clearance w = some .blocked)
    (now : Instant) (more : List Step) :
    (setup.server.run (steps ++ .sweep now :: more)).dispatcher.inFlightFor w = [] := by
  have indexed := setup.indexed_run steps
  have swept : ((setup.server.run steps).perform (.sweep now)).dispatcher =
      (setup.server.run steps).dispatcher.swept now := Dispatcher.reclaim_state ..
  have held : (setup.server.run (steps ++ .sweep now :: more)).dispatcher.roster.held w = [] := by
    rw [run_append]
    refine held_run_of_blocked (orderly_perform indexed.orderly _) ?_ ?_ more
    · rw [swept, Dispatcher.clearance_swept, blocked]
    · rw [swept]
      exact indexed.held_swept_of_blocked blocked now
  have perm := (setup.indexed_run (steps ++ .sweep now :: more)).inFlightFor_perm_held w
  rw [held] at perm
  exact perm.eq_nil

/-- After any requests, sweeps and rebalances: a worker is given a bucket only if it registered with
the version of the server, and with no other. Once it has registered with another one, each of its
registrations is answered that it is blocked, and so is each question for work and each heartbeat;
and whatever happens after the next sweep, no bucket is in flight for it. -/
theorem version_gate (setup : ServerSetup) (w : WorkerId) (steps : List Step) :
    (∀ now wall b, ((setup.server.run steps).handle now wall (.dequeueBucket w)).1 =
        .dequeue (.bucket b) →
      setup.version ∈ versionsOf w steps ∧ ∀ version ∈ versionsOf w steps,
        version = setup.version) ∧
    ((∃ version ∈ versionsOf w steps, version ≠ setup.version) →
      (∀ now wall version, ∃ reason,
        ((setup.server.run steps).handle now wall (.registerWorker w version)).1 =
          .register (.blocked reason)) ∧
      (∀ now wall, ((setup.server.run steps).handle now wall (.dequeueBucket w)).1 =
        .dequeue .workerBlocked) ∧
      (∀ now wall, ((setup.server.run steps).handle now wall (.heartbeat w)).1 =
        .heartbeat .workerBlocked) ∧
      ∀ now more, (setup.server.run (steps ++ .sweep now :: more)).dispatcher.inFlightFor w =
        []) := by
  constructor
  · intro now wall b given
    exact setup.versions_of_cleared (clearance_of_dequeue_eq_bucket (Reply.dequeue.inj given))
  · rintro ⟨version, mem, other⟩
    have blocked := setup.blocked_of_mem mem other
    refine ⟨fun now wall version => ?_, fun now wall => ?_, fun now wall => ?_, fun now more => ?_⟩
    · obtain ⟨reason, answer⟩ := register_eq_blocked _ (if_pos (.inl blocked)) now
      exact ⟨reason, congrArg Reply.register answer⟩
    · exact congrArg Reply.dequeue (dequeue_of_blocked blocked now)
    · exact congrArg Reply.heartbeat (heartbeat_of_blocked blocked now)
    · exact setup.inFlightFor_of_blocked blocked now more

/-- A worker that registered with another version stays blocked, even if it registers with the
version of the server afterwards. -/
example : ((({} : ServerSetup).server.run
    [.request ⟨0⟩ ⟨0⟩ (.registerWorker ⟨"w"⟩ "0.1.0"), .request ⟨1⟩ ⟨0⟩ (.registerWorker ⟨"w"⟩ "2"),
      .request ⟨2⟩ ⟨0⟩ (.registerWorker ⟨"w"⟩ "0.1.0")]).heartbeat ⟨"w"⟩ ⟨3⟩).1 =
    .workerBlocked := by
  decide

end ServerSetup

end TestFleet
