import TestFleet.Proofs.Queue.Sweeps

/-!
# The clearance of workers

Whether a worker is cleared for work is decided when it registers, and by an operator who blocks or
unblocks it. All else that is noted of a worker leaves its clearance alone: it may fall silent and
come back, but one that is blocked stays so, and gets no bucket.

* `clearance`: what is left of a worker's standing if silent workers count as alive;
* `clearance_register`, `clearance_block`: what registering makes of it;
* `Noted`, `noted_perform`: what an operation of the dispatcher notes on the roster;
* `clearance_perform`: the operations that keep all clearances;
* `mem_held_perform`: only a worker that is cleared comes to hold a bucket;
* `Indexed.held_swept_of_blocked`: a sweep leaves a blocked worker with nothing.
-/

namespace TestFleet

/-- The standing of a worker that is to be heard from again. -/
def WorkerRecord.clearance (s : WorkerRecord) : Standing :=
  if s.standing = .silent then .alive else s.standing

theorem WorkerRecord.clearance_touch (s : WorkerRecord) (now : Instant) :
    (s.touch now).clearance = s.clearance := by
  cases standing : s.standing <;> simp [clearance, touch, standing]

namespace Roster

variable {r : Roster} {w w' : WorkerId} {now : Instant}

/-- The standing of a worker on the roster; one that is silent counts as alive. -/
def clearance (r : Roster) (w : WorkerId) : Option Standing :=
  (r.workers.get? w).map WorkerRecord.clearance

theorem liveness_eq_blocked_iff : r.liveness w = .blocked ↔ r.clearance w = some .blocked := by
  rw [liveness, clearance]
  cases r.workers.get? w with
  | none => simp
  | some s =>
    cases standing : s.standing <;>
      simp [WorkerRecord.liveness, WorkerRecord.clearance, standing]

theorem clearance_eq_alive_iff :
    r.clearance w = some .alive ↔ r.liveness w = .alive ∨ ∃ bs, r.liveness w = .silent bs := by
  rw [liveness, clearance]
  cases r.workers.get? w with
  | none => simp
  | some s =>
    cases standing : s.standing <;>
      simp [WorkerRecord.liveness, WorkerRecord.clearance, standing]

/-- A worker that is blocked counts as gone. -/
theorem gone_of_blocked (blocked : r.clearance w = some .blocked) : r.Gone w := by
  intro s known
  rw [clearance, known, Option.map_some, Option.some.injEq, WorkerRecord.clearance] at blocked
  split at blocked
  · cases blocked
  · exact .inr blocked

/-! ## Changes that keep it -/

theorem clearance_modify {f : WorkerRecord → WorkerRecord}
    (keeps : ∀ s, (f s).clearance = s.clearance) (r : Roster) (w w' : WorkerId) :
    (r.modify w f).clearance w' = r.clearance w' := by
  rw [clearance, clearance, modify]
  by_cases e : w' = w
  · rw [e, Directory.get?_modify_self, Option.map_map]
    exact congrArg (Option.map · _) (funext keeps)
  · rw [Directory.get?_modify_of_ne _ _ e]

theorem clearance_setAlive (r : Roster) (w : WorkerId) (now : Instant) (w' : WorkerId) :
    (r.setAlive w now).clearance w' = r.clearance w' :=
  clearance_modify (fun s => s.clearance_touch now) r w w'

theorem clearance_didDequeue (r : Roster) (w : WorkerId) (b : BucketId) (now : Instant)
    (w' : WorkerId) : (r.didDequeue w b now).clearance w' = r.clearance w' :=
  clearance_modify (fun s =>
    { s with buckets := s.buckets.insert b () }.clearance_touch now) r w w'

theorem clearance_didReceive (r : Roster) (w : WorkerId) (b : BucketId) (now : Instant)
    (w' : WorkerId) : (r.didReceive w b now).clearance w' = r.clearance w' :=
  clearance_modify (fun s =>
    { s with buckets := s.buckets.erase b }.clearance_touch now) r w w'

theorem clearance_relieved (r : Roster) (taken : List InFlightBucket) (w : WorkerId) :
    (r.relieved taken).clearance w = r.clearance w := by
  rw [clearance, get?_relieved, Option.map_map]
  rfl

/-- Only workers that are alive are marked silent. -/
theorem clearance_markQuietSilent (r : Roster) (now : Instant) (w : WorkerId) :
    (r.markQuietSilent now).clearance w = r.clearance w := by
  rw [clearance, get?_markQuietSilent, Option.map_map, clearance]
  congr 1
  funext s
  rw [Function.comp_apply]
  split
  · rename_i quiet
    simp [WorkerRecord.clearance, (isQuiet_iff.1 quiet).1]
  · rfl

/-! ## Registering -/

theorem clearance_enter_of_ne (h : w' ≠ w) (standing : Standing)
    (f : WorkerRecord → WorkerRecord) :
    (r.enter w standing now f).clearance w' = r.clearance w' := by
  rw [clearance, enter, Directory.get?_insert_of_ne _ _ h, clearance]

theorem clearance_enter_self (standing : Standing) (f : WorkerRecord → WorkerRecord) :
    (r.enter w standing now f).clearance w =
      some (f ((r.workers.get? w).getD (.new standing now))).clearance := by
  rw [clearance, enter, Directory.get?_insert_self, Option.map_some]

/-- A worker that registers is cleared for work, unless it is blocked. -/
theorem clearance_register (r : Roster) (w : WorkerId) (now : Instant) :
    ((r.beginRegistration w now).register w now).clearance w =
      if r.clearance w = some .blocked then some .blocked else some .alive := by
  rw [register, clearance_enter_self, beginRegistration, enter, Directory.get?_insert_self,
    Option.getD_some, clearance]
  cases r.workers.get? w with
  | none => rfl
  | some s => cases standing : s.standing <;> simp [WorkerRecord.clearance, standing]

theorem clearance_register_of_ne (h : w' ≠ w) (r : Roster) (now : Instant) :
    ((r.beginRegistration w now).register w now).clearance w' = r.clearance w' :=
  (clearance_enter_of_ne h _ _).trans (clearance_enter_of_ne h _ _)

theorem clearance_block (r : Roster) (w : WorkerId) (now : Instant) :
    (r.block w now).clearance w = some .blocked :=
  clearance_enter_self _ _

theorem clearance_block_of_ne (h : w' ≠ w) (r : Roster) (now : Instant) :
    ((r.beginRegistration w now).block w now).clearance w' = r.clearance w' :=
  (clearance_enter_of_ne h _ _).trans (clearance_enter_of_ne h _ _)

end Roster

namespace Dispatcher

variable {d : Dispatcher} {w : WorkerId} {b : BucketId} {now clock : Instant}

/-! ## Questions for work -/

/-- A worker that is blocked gets no work, and nothing is noted of it. -/
theorem dequeue_of_blocked (blocked : d.roster.clearance w = some .blocked) (now clock : Instant) :
    d.dequeue w now clock = (.error (.workerBlocked w), [], d) := by
  rw [dequeue, Roster.liveness_eq_blocked_iff.2 blocked]

/-- Only a worker that is cleared gets work. -/
theorem clearance_of_dequeue_ok {h : Handout} (ok : (d.dequeue w now clock).1 = .ok h) :
    d.roster.clearance w = some .alive := by
  rw [Roster.clearance_eq_alive_iff]
  rw [dequeue] at ok
  split at ok
  · cases ok
  · cases ok
  · cases ok
  · rename_i bs silent
    exact .inr ⟨bs, silent⟩
  · rename_i alive
    exact .inl alive

/-! ## Operations -/

theorem cancelled_roster (d : Dispatcher) (j : JobId) (q : JobQueue) :
    (d.cancelled j q).roster = d.roster.relieved q.inFlight.values :=
  Roster.foldl_release_eq ..

/-- The worker that an operation is done for, if it is done for one. -/
def Operation.worker? : Operation → Option WorkerId
  | .dequeue w .. => some w
  | .accept _ w .. => some w
  | .roster op => op.worker?
  | _ => none

/-- What is noted on the roster in an operation. -/
inductive Noted (r : Roster) : Operation → Roster → Prop where
  | nothing (op : Operation) : Noted r op r
  | seen {op : Operation} {w : WorkerId} (asks : op.worker? = some w) (now : Instant) :
      Noted r op (r.setAlive w now)
  /-- A bucket is handed out, but only to a worker that is cleared. -/
  | handedOut {op : Operation} {r' : Roster} {w : WorkerId} {clock : Instant}
      (asks : op.worker? = some w) (seen : r' = r ∨ r' = r.setAlive w clock)
      (known : w ∈ r'.workers.keys) (cleared : r.clearance w = some .alive) (b : BucketId) :
      Noted r op (r'.didDequeue w b clock)
  | reported {op : Operation} {w : WorkerId} (asks : op.worker? = some w) (b : BucketId)
      (now : Instant) : Noted r op (r.didReceive w b now)
  | swept (op : Operation) (now : Instant) (taken : List InFlightBucket) :
      Noted r op ((r.markQuietSilent now).relieved taken)
  | released (op : Operation) (taken : List InFlightBucket) : Noted r op (r.relieved taken)
  | told (op : Roster.Operation) : Noted r (.roster op) (r.perform op)

theorem noted_perform (orderly : d.Orderly) (op : Operation) :
    Noted d.roster op (d.perform op).roster := by
  cases op with
  | enqueue j buckets priority now =>
    rw [perform]
    rcases d.enqueue_cases j buckets priority now with ⟨e, same⟩ | ⟨-, -, -, added⟩
    · rw [same]
      exact .nothing _
    · rw [added, enqueued_roster]
      exact .nothing _
  | dequeue w now clock =>
    rw [perform]
    generalize outcome : d.dequeue w now clock = answer
    cases outcome ▸ d.dequeue_cases orderly w now clock with
    | nothing r seen =>
      rcases seen with rfl | rfl
      · exact .nothing _
      · exact .seen rfl clock
    | bucket r seen known =>
      have cleared := clearance_of_dequeue_ok (congrArg Prod.fst outcome)
      exact .handedOut rfl seen known cleared _
  | accept b w report now wall =>
    rw [perform]
    generalize outcome : d.accept b w report now wall = answer
    cases outcome ▸ d.accept_cases b w report now wall with
    | rejected => exact .seen rfl now
    | accepted =>
      rw [settled_roster]
      exact .reported rfl b now
  | reclaim now =>
    rw [perform, reclaim_state]
    exact .swept _ now _
  | delete j =>
    rw [perform]
    rcases d.delete_cases j with ⟨e, same⟩ | ⟨job, -, -, removed⟩
    · rw [same]
      exact .nothing _
    · rw [removed]
      exact .nothing _
  | cancel j =>
    rw [perform]
    rcases d.cancel_cases j with ⟨-, e, same⟩ | ⟨job, -, removed⟩
    · rw [same]
      exact .nothing _
    · rw [removed, cancelled_roster]
      exact .released _ _
  | rebalance => exact .nothing _
  | prefer => exact .nothing _
  | roster op => exact .told op

/-- The operation is none of those that may clear or block a worker. -/
def Operation.KeepsClearance : Operation → Prop
  | .roster (.heartbeat ..) | .roster (.markQuietSilent _) => True
  | .roster _ => False
  | _ => True

/-- Whatever a worker does but register leaves its clearance alone. -/
theorem clearance_perform (orderly : d.Orderly) {op : Operation} (keeps : op.KeepsClearance)
    (w : WorkerId) : (d.perform op).roster.clearance w = d.roster.clearance w := by
  generalize after : (d.perform op).roster = r
  cases after ▸ noted_perform orderly op with
  | nothing => rfl
  | seen => exact Roster.clearance_setAlive ..
  | handedOut _ seen =>
    rw [Roster.clearance_didDequeue]
    rcases seen with rfl | rfl
    · rfl
    · exact Roster.clearance_setAlive ..
  | reported => exact Roster.clearance_didReceive ..
  | swept => exact (Roster.clearance_relieved ..).trans (Roster.clearance_markQuietSilent ..)
  | released => exact Roster.clearance_relieved ..
  | told op =>
    cases op with
    | heartbeat => exact Roster.clearance_setAlive ..
    | markQuietSilent => exact Roster.clearance_markQuietSilent ..
    | _ => exact keeps.elim

/-- Only a worker that is cleared comes to hold a bucket. -/
theorem mem_held_perform (orderly : d.Orderly) {op : Operation}
    (held : b ∈ (d.perform op).roster.held w) :
    b ∈ d.roster.held w ∨ d.roster.clearance w = some .alive := by
  generalize after : (d.perform op).roster = r at held
  cases after ▸ noted_perform orderly op with
  | nothing => exact .inl held
  | seen => exact .inl (Roster.held_setAlive ▸ held)
  | @handedOut _ r' v clock _ seen known cleared =>
    have same : r'.held w = d.roster.held w := by
      rcases seen with rfl | rfl <;> simp
    rcases (Roster.mem_held_didDequeue known).1 held with ⟨rfl, -⟩ | held
    · exact .inr cleared
    · exact .inl (same ▸ held)
  | reported => exact .inl (Roster.mem_held_didReceive.1 held).1
  | swept =>
    exact .inl (Roster.held_markQuietSilent ▸ ((Roster.mem_held_relieved _ _).1 held).1)
  | released => exact .inl ((Roster.mem_held_relieved _ _).1 held).1
  | told op => exact .inl (Roster.held_perform op ▸ held)

theorem clearance_swept (d : Dispatcher) (now : Instant) (w : WorkerId) :
    (d.swept now).roster.clearance w = d.roster.clearance w :=
  (Roster.clearance_relieved ..).trans (Roster.clearance_markQuietSilent ..)

/-- A sweep takes back all that a blocked worker holds. -/
theorem Indexed.held_swept_of_blocked (h : d.Indexed)
    (blocked : d.roster.clearance w = some .blocked) (now : Instant) :
    (d.swept now).roster.held w = [] :=
  h.held_swept_of_gone (Roster.gone_of_blocked ((d.clearance_swept now w).trans blocked))

end Dispatcher

end TestFleet
