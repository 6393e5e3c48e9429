import TestFleet.Proofs.Queue.Roster

/-!
# The standing of workers in a sweep

A sweep first marks the quiet workers silent and then takes buckets away from workers. The second
changes no standing, so which workers are gone is settled once the first is done.

* `relieved`: the roster without some of the buckets, whatever the order they are taken in;
* `Gone`: a worker whose buckets are taken back;
* `get?_markQuietSilent`, `mem_quietWorkers`: whom a sweep marks silent.
-/

namespace TestFleet

/-- The record of the worker `w` once the buckets `taken` were taken away from their workers. -/
def WorkerRecord.without (s : WorkerRecord) (w : WorkerId) (taken : List InFlightBucket) :
    WorkerRecord :=
  { s with buckets := s.buckets.filter fun b _ => !taken.any fun f => f.worker = w && f.id = b }

namespace Roster

variable {r : Roster} {w : WorkerId} {b : BucketId} {now : Instant} {taken : List InFlightBucket}

/-- The roster once the buckets `taken` were taken away from their workers. -/
def relieved (r : Roster) (taken : List InFlightBucket) : Roster :=
  { r with workers := r.workers.mapValues fun w s => s.without w taken }

theorem get?_relieved (r : Roster) (taken : List InFlightBucket) (w : WorkerId) :
    (r.relieved taken).workers.get? w = (r.workers.get? w).map (·.without w taken) := by
  rw [relieved, Directory.get?_mapValues]

/-- Two rosters of one threshold are the same if they record the same of every worker. -/
theorem ext_get? {r r' : Roster} (threshold : r.threshold = r'.threshold)
    (workers : ∀ w, r.workers.get? w = r'.workers.get? w) : r = r' := by
  have same : r.workers = r'.workers := Directory.ext_get? workers
  cases r
  cases r'
  cases threshold
  cases same
  rfl

theorem without_nil (s : WorkerRecord) (w : WorkerId) : s.without w [] = s := by
  have all : (s.buckets.filter fun _ _ => true) = s.buckets := Directory.ext_get? fun b => by
    rw [Directory.get?_filter]
    cases s.buckets.get? b <;> rfl
  rw [WorkerRecord.without]
  exact congrArg (fun buckets => { s with buckets := buckets }) all

/-- Taking a bucket away, and then others. -/
theorem relieved_release (r : Roster) (f : InFlightBucket) (taken : List InFlightBucket) :
    (r.release f.worker f.id).relieved taken = r.relieved (f :: taken) := by
  refine ext_get? rfl fun w => ?_
  rw [get?_relieved, get?_relieved, release, modify]
  by_cases e : w = f.worker
  · subst e
    rw [Directory.get?_modify_self, Option.map_map]
    congr 1
    funext s
    simp only [Function.comp_apply, WorkerRecord.without, WorkerRecord.mk.injEq, true_and,
      and_true]
    refine Directory.ext_get? fun b => ?_
    rw [Directory.get?_filter, Directory.get?_filter]
    by_cases e : b = f.id
    · subst e
      rw [Directory.get?_erase_self]
      cases s.buckets.get? f.id <;> simp [Option.filter]
    · rw [Directory.get?_erase_of_ne _ e]
      simp [Ne.symm e]
  · rw [Directory.get?_modify_of_ne _ _ e]
    simp [WorkerRecord.without, Ne.symm e]

theorem foldl_release_eq (taken : List InFlightBucket) (r : Roster) :
    taken.foldl (fun r f => r.release f.worker f.id) r = r.relieved taken := by
  induction taken generalizing r with
  | nil =>
    refine ext_get? rfl fun w => ?_
    rw [List.foldl_nil, get?_relieved]
    cases r.workers.get? w with
    | none => rfl
    | some s => exact congrArg some (without_nil s w).symm
  | cons f fs ih => rw [List.foldl_cons, ih, relieved_release]

theorem mem_held_relieved (r : Roster) (taken : List InFlightBucket) :
    b ∈ (r.relieved taken).held w ↔ b ∈ r.held w ∧ ∀ f ∈ taken, ¬(w = f.worker ∧ b = f.id) := by
  rw [← foldl_release_eq, mem_held_foldl_release]

theorem relieved_relieved (r : Roster) (taken more : List InFlightBucket) :
    (r.relieved taken).relieved more = r.relieved (taken ++ more) := by
  simp only [← foldl_release_eq, List.foldl_append]

/-- The order in which buckets are taken away makes no difference. -/
theorem relieved_eq_of_perm {more : List InFlightBucket} (perm : taken.Perm more) (r : Roster) :
    r.relieved taken = r.relieved more := by
  refine ext_get? rfl fun w => ?_
  simp only [get?_relieved, WorkerRecord.without, perm.any_eq]

/-! ## Workers that are gone -/

/-- A worker that is silent or blocked, or is not on the roster at all. -/
def Gone (r : Roster) (w : WorkerId) : Prop :=
  ∀ s, r.workers.get? w = some s → s.standing = .silent ∨ s.standing = .blocked

theorem gone_relieved : (r.relieved taken).Gone w ↔ r.Gone w := by
  rw [Gone, get?_relieved]
  cases known : r.workers.get? w <;> simp [Gone, known, WorkerRecord.without]

/-- A bucket in flight is stuck if its worker is gone, or if it was handed out too long ago. -/
theorem isStuck_iff {maximum : Duration} {f : InFlightBucket} :
    JobQueue.isStuck r maximum now f = true ↔
      r.Gone f.worker ∨ maximum.nanoseconds < now.since f.dequeuedAt := by
  rw [JobQueue.isStuck, Bool.or_eq_true, Instant.isBeyond, decide_eq_true_eq]
  refine or_congr_left ?_
  rw [liveness, Gone]
  cases r.workers.get? f.worker with
  | none => simp
  | some s => cases standing : s.standing <;> simp [WorkerRecord.liveness, standing]

/-- Whether a bucket is stuck does not depend on the buckets that its worker holds. -/
theorem isStuck_relieved (r : Roster) (taken : List InFlightBucket) (maximum : Duration)
    (now : Instant) : JobQueue.isStuck (r.relieved taken) maximum now =
      JobQueue.isStuck r maximum now := by
  funext f
  rw [Bool.eq_iff_iff, isStuck_iff, isStuck_iff, gone_relieved]

/-! ## Quiet workers -/

theorem get?_markQuietSilent (r : Roster) (now : Instant) (w : WorkerId) :
    (r.markQuietSilent now).workers.get? w = (r.workers.get? w).map fun s =>
      if r.isQuiet now s then { s with standing := .silent } else s := by
  rw [markQuietSilent, Directory.get?_mapValues]

theorem mem_quietWorkers : w ∈ r.quietWorkers now ↔
    ∃ s, r.workers.get? w = some s ∧ r.isQuiet now s = true := by
  simp only [quietWorkers, Directory.mem_keys, Directory.get?_filter, Option.filter_eq_some_iff]

/-- A worker is quiet if it is alive, holds a bucket, and was last heard of too long ago. -/
theorem isQuiet_iff {s : WorkerRecord} : r.isQuiet now s = true ↔
    s.standing = .alive ∧ (∃ b, b ∈ s.buckets.keys) ∧
      r.threshold.nanoseconds < now.since s.lastActivity := by
  have holds : (!s.buckets.isEmpty) = true ↔ ∃ b, b ∈ s.buckets.keys := by
    rw [Directory.isEmpty, Directory.keys]
    cases s.buckets.entries with
    | nil => simp
    | cons e es => exact iff_of_true rfl ⟨e.1, List.mem_map_of_mem List.mem_cons_self⟩
  rw [isQuiet, Bool.and_eq_true, Bool.and_eq_true, decide_eq_true_eq, holds, Instant.isBeyond,
    decide_eq_true_eq, and_assoc]

/-- Once the quiet workers are marked and buckets were taken away, no worker is quiet. -/
theorem not_isQuiet_relieved {s : WorkerRecord}
    (known : ((r.markQuietSilent now).relieved taken).workers.get? w = some s) :
    r.isQuiet now s = false := by
  rw [get?_relieved, get?_markQuietSilent, Option.map_map, Option.map_eq_some_iff] at known
  obtain ⟨old, -, rfl⟩ := known
  rw [Bool.eq_false_iff, ne_eq, isQuiet_iff]
  rintro ⟨alive, ⟨b, hb⟩, long⟩
  dsimp only [Function.comp_apply] at alive hb long
  split at alive
  · cases alive
  rename_i notQuiet
  rw [if_neg notQuiet] at hb long
  obtain ⟨_, held⟩ := Directory.mem_keys.1 hb
  rw [WorkerRecord.without, Directory.get?_filter, Option.filter_eq_some_iff] at held
  exact notQuiet (isQuiet_iff.2 ⟨alive, ⟨b, Directory.mem_keys.2 ⟨_, held.1⟩⟩, long⟩)

end Roster

end TestFleet
