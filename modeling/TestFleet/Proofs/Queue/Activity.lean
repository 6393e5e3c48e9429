import TestFleet.Proofs.Queue.Clearance

/-!
# When workers were last heard of

A worker shows a sign of life by what it sends, with one exception: an alive worker that asks for
work and gets none leaves no trace. What the dispatcher does for others, or on its own account,
never counts as a sign of life.

* `Roster.lastActivity?`: when a worker was last heard of;
* `Roster.lastActivity?_modify_self`, `lastActivity?_register`: what a sign of life makes of it;
* `lastActivity?_perform_of_ne`: operations for others leave it alone;
* `dequeue_of_alive`: so does a question for work that gets none.
-/

namespace TestFleet

namespace Roster

variable {r : Roster} {v w : WorkerId} {now : Instant}

/-- When a worker was last heard of. -/
def lastActivity? (r : Roster) (w : WorkerId) : Option Instant :=
  (r.workers.get? w).map WorkerRecord.lastActivity

/-! ## Changes that are no signs of life -/

theorem lastActivity?_modify_of_ne (r : Roster) (f : WorkerRecord → WorkerRecord) (h : w ≠ v) :
    (r.modify v f).lastActivity? w = r.lastActivity? w := by
  rw [lastActivity?, modify, Directory.get?_modify_of_ne _ _ h, lastActivity?]

theorem lastActivity?_enter_of_ne (r : Roster) (standing : Standing)
    (f : WorkerRecord → WorkerRecord) (h : w ≠ v) :
    (r.enter v standing now f).lastActivity? w = r.lastActivity? w := by
  rw [lastActivity?, enter, Directory.get?_insert_of_ne _ _ h, lastActivity?]

theorem lastActivity?_relieved (r : Roster) (taken : List InFlightBucket) (w : WorkerId) :
    (r.relieved taken).lastActivity? w = r.lastActivity? w := by
  rw [lastActivity?, get?_relieved, Option.map_map]
  rfl

theorem lastActivity?_markQuietSilent (r : Roster) (now : Instant) (w : WorkerId) :
    (r.markQuietSilent now).lastActivity? w = r.lastActivity? w := by
  rw [lastActivity?, get?_markQuietSilent, Option.map_map, lastActivity?]
  congr 1
  funext s
  rw [Function.comp_apply]
  split <;> rfl

theorem lastActivity?_perform_of_ne (r : Roster) {op : Operation} (other : op.worker? ≠ some w) :
    (r.perform op).lastActivity? w = r.lastActivity? w := by
  have ne {v : WorkerId} (h : some v ≠ some w) : w ≠ v := fun e => h (congrArg some e.symm)
  cases op with
  | beginRegistration v now => exact lastActivity?_enter_of_ne r _ _ (ne other)
  | register v now => exact lastActivity?_enter_of_ne r _ _ (ne other)
  | heartbeat v now => exact lastActivity?_modify_of_ne r _ (ne other)
  | block v now => exact lastActivity?_enter_of_ne r _ _ (ne other)
  | unblock v now => exact lastActivity?_modify_of_ne r _ (ne other)
  | markSilent v => exact lastActivity?_modify_of_ne r _ (ne other)
  | markQuietSilent now => exact lastActivity?_markQuietSilent r now w

/-! ## Signs of life -/

/-- A change of a worker's record that notes the time. -/
theorem lastActivity?_modify_self {f : WorkerRecord → WorkerRecord}
    (notes : ∀ s, (f s).lastActivity = now) (listed : w ∈ r.workers.keys) :
    (r.modify w f).lastActivity? w = some now := by
  obtain ⟨s, known⟩ := Directory.mem_keys.1 listed
  rw [lastActivity?, modify, Directory.get?_modify_self, known, Option.map_some, Option.map_some,
    notes]

theorem lastActivity?_setAlive (listed : w ∈ r.workers.keys) :
    (r.setAlive w now).lastActivity? w = some now :=
  lastActivity?_modify_self (fun _ => rfl) listed

theorem lastActivity?_didDequeue (listed : w ∈ r.workers.keys) (b : BucketId) :
    (r.didDequeue w b now).lastActivity? w = some now :=
  lastActivity?_modify_self (fun _ => rfl) listed

theorem lastActivity?_didReceive (listed : w ∈ r.workers.keys) (b : BucketId) :
    (r.didReceive w b now).lastActivity? w = some now :=
  lastActivity?_modify_self (fun _ => rfl) listed

/-- A worker is alive once it registered only if that was noted as a sign of life. -/
theorem lastActivity?_register (r : Roster) (alive : (r.register w now).liveness w = .alive) :
    (r.register w now).lastActivity? w = some now := by
  rw [liveness, register, enter, Directory.get?_insert_self] at alive
  rw [lastActivity?, register, enter, Directory.get?_insert_self, Option.map_some]
  dsimp only at alive
  split at alive
  · rename_i blocked
    rw [WorkerRecord.liveness, blocked] at alive
    cases alive
  · rename_i notBlocked
    rw [if_neg notBlocked]

end Roster

namespace Dispatcher

variable {d : Dispatcher} {w : WorkerId} {op : Operation} {now clock : Instant}

/-- What is done for others, or for no worker, is no sign of life. -/
theorem lastActivity?_perform_of_ne (orderly : d.Orderly) (other : op.worker? ≠ some w) :
    (d.perform op).roster.lastActivity? w = d.roster.lastActivity? w := by
  have ne {v : WorkerId} (asks : op.worker? = some v) : w ≠ v := fun e => other (e ▸ asks)
  generalize after : (d.perform op).roster = r
  cases after ▸ noted_perform orderly op with
  | nothing => rfl
  | seen asks => exact Roster.lastActivity?_modify_of_ne _ _ (ne asks)
  | handedOut asks seen =>
    refine (Roster.lastActivity?_modify_of_ne _ _ (ne asks)).trans ?_
    rcases seen with rfl | rfl
    · rfl
    · exact Roster.lastActivity?_modify_of_ne _ _ (ne asks)
  | reported asks => exact Roster.lastActivity?_modify_of_ne _ _ (ne asks)
  | swept =>
    exact (Roster.lastActivity?_relieved ..).trans (Roster.lastActivity?_markQuietSilent ..)
  | released => exact Roster.lastActivity?_relieved ..
  | told op => exact Roster.lastActivity?_perform_of_ne _ other

theorem threshold_perform (orderly : d.Orderly) (op : Operation) :
    (d.perform op).roster.threshold = d.roster.threshold := by
  generalize after : (d.perform op).roster = r
  cases after ▸ noted_perform orderly op with
  | handedOut _ seen => rcases seen with rfl | rfl <;> rfl
  | told op => cases op <;> rfl
  | _ => rfl

/-- How long a worker may stay quiet is what it was set up with. -/
theorem threshold_run (orderly : d.Orderly) (ops : List Operation) :
    (d.run ops).roster.threshold = d.roster.threshold := by
  induction ops generalizing d with
  | nil => rfl
  | cons op ops ih =>
    exact (ih (orderly.perform (admitted_of_forall op))).trans (threshold_perform orderly op)

/-- An alive worker that asks for work gets a bucket, or it changes nothing. -/
theorem dequeue_of_alive (orderly : d.Orderly) (alive : d.roster.liveness w = .alive)
    (now clock : Instant) : (∃ taken, (d.dequeue w now clock).1 = .ok (.bucket taken)) ∨
      (d.dequeue w now clock).2.2 = d := by
  rw [dequeue, alive]
  rcases d.handOutWork_cases orderly w now clock with ⟨h, -, nothing⟩ |
    ⟨-, j, job, b, rest, -, -, handed⟩
  · rw [nothing]
    exact .inr rfl
  · rw [handed]
    exact .inl ⟨_, rfl⟩

/-- A worker that is handed a bucket was heard of. -/
theorem lastActivity?_dequeue (orderly : d.Orderly) {taken : InFlightBucket}
    (given : (d.dequeue w now clock).1 = .ok (.bucket taken)) :
    (d.dequeue w now clock).2.2.roster.lastActivity? w = some clock := by
  generalize outcome : d.dequeue w now clock = answer at given
  cases outcome ▸ d.dequeue_cases orderly w now clock with
  | nothing _ _ _ none => exact absurd given (none taken)
  | bucket r _ listed => exact Roster.lastActivity?_didDequeue listed _

/-- A worker that reports and is on the roster was heard of. -/
theorem lastActivity?_accept {b : BucketId} {report : BucketReport} {wall : Timestamp}
    (listed : w ∈ d.roster.workers.keys) :
    (d.accept b w report now wall).2.2.roster.lastActivity? w = some now := by
  generalize outcome : d.accept b w report now wall = answer
  cases outcome ▸ d.accept_cases b w report now wall with
  | rejected => exact Roster.lastActivity?_setAlive listed
  | accepted =>
    rw [settled_roster]
    exact Roster.lastActivity?_didReceive listed b

theorem mem_workers_accept {b : BucketId} {report : BucketReport} {wall : Timestamp} :
    w ∈ (d.accept b w report now wall).2.2.roster.workers.keys ↔ w ∈ d.roster.workers.keys := by
  generalize outcome : d.accept b w report now wall = answer
  cases outcome ▸ d.accept_cases b w report now wall with
  | rejected => exact Roster.mem_workers_setAlive
  | accepted =>
    rw [settled_roster, Roster.didReceive, Roster.modify, Directory.keys_modify]

end Dispatcher

end TestFleet
