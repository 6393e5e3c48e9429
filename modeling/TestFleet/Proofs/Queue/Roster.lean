import TestFleet.Queue.JobQueue
import TestFleet.Proofs.Directory

/-!
# What workers hold

How the operations of the roster change the buckets that the workers hold. Only three of
them do: handing a bucket out, taking in a report, and taking a bucket back.

* `held_modify`, `held_enter`: what leaves a worker's buckets alone leaves all holdings alone;
* `held_perform`: so do all other operations;
* `mem_held_didDequeue`, `mem_held_didReceive`, `mem_held_release`: the three that do not;
* `mem_held_foldl_release`: taking back a list of buckets.
-/

namespace TestFleet.Roster

variable {r : Roster} {w w' : WorkerId} {b b' : BucketId} {now : Instant}

/-- The buckets that the record of a worker lists, if there is a record. -/
theorem held_eq (r : Roster) (w : WorkerId) :
    r.held w = ((r.workers.get? w).map fun s => s.buckets.keys).getD [] := by
  rw [held]
  cases r.workers.get? w <;> rfl

theorem held_nodup (r : Roster) (w : WorkerId) : (r.held w).Nodup := by
  rw [held]
  split
  · exact Directory.keys_nodup _
  · exact List.nodup_nil

theorem held_modify_of_ne (r : Roster) (f : WorkerRecord → WorkerRecord) (h : w' ≠ w) :
    (r.modify w f).held w' = r.held w' := by
  rw [held_eq, held_eq, modify, Directory.get?_modify_of_ne _ _ h]

theorem mem_workers_of_liveness (h : r.liveness w ≠ .notRegistered) : w ∈ r.workers.keys := by
  rw [liveness] at h
  cases known : r.workers.get? w with
  | none => simp [known] at h
  | some s => exact Directory.mem_keys.2 ⟨s, known⟩

theorem mem_workers_setAlive : w' ∈ (r.setAlive w now).workers.keys ↔ w' ∈ r.workers.keys := by
  rw [setAlive, modify, Directory.keys_modify]

/-- A worker that is unblocked and then registers may be handed work. -/
theorem liveness_unblock_register (r : Roster) (w : WorkerId) (now : Instant) :
    ((r.unblock w now).register w now).liveness w = .alive := by
  rw [liveness, register, enter, Directory.get?_insert_self, unblock, modify,
    Directory.get?_modify_self]
  cases r.workers.get? w with
  | none => rfl
  | some s =>
    by_cases h : s.standing = .blocked <;> simp [h, WorkerRecord.liveness]

/-! ## Operations that leave the holdings alone -/

theorem held_modify {f : WorkerRecord → WorkerRecord} (keeps : ∀ s, (f s).buckets = s.buckets) :
    (r.modify w f).held w' = r.held w' := by
  by_cases h : w' = w
  · subst h
    rw [held_eq, held_eq, modify, Directory.get?_modify_self]
    cases r.workers.get? w' with
    | none => rfl
    | some s => simp [keeps]
  · exact held_modify_of_ne r f h

theorem held_enter {standing : Standing} {f : WorkerRecord → WorkerRecord}
    (keeps : ∀ s, (f s).buckets = s.buckets) : (r.enter w standing now f).held w' = r.held w' := by
  rw [held_eq, held_eq, enter]
  by_cases h : w' = w
  · subst h
    rw [Directory.get?_insert_self]
    cases r.workers.get? w' with
    | none => simp [keeps, WorkerRecord.new, Directory.keys]; rfl
    | some s => simp [keeps]
  · rw [Directory.get?_insert_of_ne _ _ h]

@[simp] theorem held_setAlive : (r.setAlive w now).held w' = r.held w' := held_modify fun _ => rfl

@[simp] theorem held_register : (r.register w now).held w' = r.held w' :=
  held_enter fun s => by split <;> rfl

@[simp] theorem held_beginRegistration : (r.beginRegistration w now).held w' = r.held w' :=
  held_enter fun s => by split <;> rfl

@[simp] theorem held_block : (r.block w now).held w' = r.held w' := held_enter fun _ => rfl

@[simp] theorem held_unblock : (r.unblock w now).held w' = r.held w' :=
  held_modify fun s => by split <;> rfl

@[simp] theorem held_markSilent : (r.markSilent w).held w' = r.held w' :=
  held_modify fun s => by split <;> rfl

@[simp] theorem held_markQuietSilent : (r.markQuietSilent now).held w' = r.held w' := by
  rw [held_eq, held_eq, markQuietSilent, Directory.get?_mapValues]
  cases r.workers.get? w' with
  | none => rfl
  | some s =>
    simp only [Option.map_some, Option.getD_some]
    split <;> rfl

/-- What may be noted of a worker that is neither handed a bucket nor loses one. -/
inductive Operation where
  | beginRegistration (worker : WorkerId) (now : Instant)
  | register (worker : WorkerId) (now : Instant)
  | heartbeat (worker : WorkerId) (now : Instant)
  | block (worker : WorkerId) (now : Instant)
  | unblock (worker : WorkerId) (now : Instant)
  | markSilent (worker : WorkerId)
  | markQuietSilent (now : Instant)

/-- The roster after an operation. -/
def perform (r : Roster) : Operation → Roster
  | .beginRegistration w now => r.beginRegistration w now
  | .register w now => r.register w now
  | .heartbeat w now => r.setAlive w now
  | .block w now => r.block w now
  | .unblock w now => r.unblock w now
  | .markSilent w => r.markSilent w
  | .markQuietSilent now => r.markQuietSilent now

theorem held_perform (op : Operation) : (r.perform op).held w = r.held w := by
  cases op <;> simp [perform]

/-- The worker that something is noted of, if it is noted of one only. -/
def Operation.worker? : Operation → Option WorkerId
  | .beginRegistration w _ => some w
  | .register w _ => some w
  | .heartbeat w _ => some w
  | .block w _ => some w
  | .unblock w _ => some w
  | .markSilent w => some w
  | .markQuietSilent _ => none

/-! ## Operations that change the holdings -/

/-- A worker on the roster is noted for the bucket that it was handed. -/
theorem mem_held_didDequeue (known : w ∈ r.workers.keys) :
    b' ∈ (r.didDequeue w b now).held w' ↔ (w' = w ∧ b' = b) ∨ b' ∈ r.held w' := by
  by_cases h : w' = w
  · subst h
    obtain ⟨s, hs⟩ := Directory.mem_keys.1 known
    rw [held_eq, held_eq, didDequeue, modify, Directory.get?_modify_self, hs]
    simp [WorkerRecord.touch, Directory.mem_keys_insert]
  · rw [didDequeue, held_modify_of_ne _ _ h]
    simp [h]

/-- Nothing else is noted, whether the worker is on the roster or not. -/
theorem of_mem_held_didDequeue (held : b' ∈ (r.didDequeue w b now).held w') :
    (w' = w ∧ b' = b) ∨ b' ∈ r.held w' := by
  by_cases known : w ∈ r.workers.keys
  · exact (mem_held_didDequeue known).1 held
  · right
    have unknown : r.workers.get? w = none := Directory.get?_eq_none_iff.2 known
    by_cases h : w' = w
    · subst h
      rw [held_eq, didDequeue, modify, Directory.get?_modify_self, unknown] at held
      cases held
    · rwa [didDequeue, held_modify_of_ne _ _ h] at held

theorem length_held_didDequeue_le (known : w ∈ r.workers.keys) :
    ((r.didDequeue w b now).held w).length ≤ (r.held w).length + 1 := by
  rw [← List.length_cons (a := b)]
  refine (held_nodup _ _).length_le_of_subset fun c hc => ?_
  rcases (mem_held_didDequeue known).1 hc with ⟨-, rfl⟩ | hc
  · exact List.mem_cons_self
  · exact List.mem_cons_of_mem _ hc

/-- A bucket that is erased from a worker's record is what the worker holds less. -/
theorem mem_held_modify_of_erases {f : WorkerRecord → WorkerRecord}
    (erases : ∀ s, (f s).buckets = s.buckets.erase b) :
    b' ∈ (r.modify w f).held w' ↔ b' ∈ r.held w' ∧ ¬(w' = w ∧ b' = b) := by
  by_cases h : w' = w
  · subst h
    rw [held_eq, held_eq, modify, Directory.get?_modify_self]
    cases r.workers.get? w' with
    | none => simp
    | some s => simp [erases, Directory.mem_keys_erase, and_comm]
  · rw [held_modify_of_ne _ _ h]
    simp [h]

theorem mem_held_didReceive :
    b' ∈ (r.didReceive w b now).held w' ↔ b' ∈ r.held w' ∧ ¬(w' = w ∧ b' = b) :=
  mem_held_modify_of_erases fun _ => rfl

theorem mem_held_release :
    b' ∈ (r.release w b).held w' ↔ b' ∈ r.held w' ∧ ¬(w' = w ∧ b' = b) :=
  mem_held_modify_of_erases fun _ => rfl

/-- Taking back a list of buckets. -/
theorem mem_held_foldl_release (taken : List InFlightBucket) (r : Roster) :
    b' ∈ (taken.foldl (fun r d => r.release d.worker d.id) r).held w' ↔
      b' ∈ r.held w' ∧ ∀ d ∈ taken, ¬(w' = d.worker ∧ b' = d.id) := by
  induction taken generalizing r with
  | nil => simp
  | cons d ds ih =>
    rw [List.foldl_cons, ih, mem_held_release, List.forall_mem_cons, and_assoc]

end TestFleet.Roster
