import TestFleet.Proofs.Queue.JobQueue

/-!
# Every bucket is in one place

A bucket that a job's queue ever took in waits, is in flight, was reported on, or was dropped when
the job was cancelled, and is so only once. This is kept by every operation of the queue, whatever
the buckets, workers, reports and times are.

* `Placed`: the places of all known ids, with the ids that have left the queue;
* `Placed.perform`, `Placed.run`: what one operation keeps, and what every run keeps;
* `exactly_one_place`: a known id is waiting, in flight, accepted or dropped, exactly once.
-/

namespace TestFleet.JobQueue

/-! ## Runs of a queue -/

/-- An operation of a job's queue. -/
inductive Operation where
  | enqueue (buckets : List Bucket) (now : Instant)
  | dequeue (worker : WorkerId) (now : Instant)
  | accept (bucket : BucketId) (worker : WorkerId) (report : BucketReport) (now : Instant)
      (wall : Timestamp)
  | reclaim (roster : Roster) (maximum : Duration) (now : Instant)
  | cancel

/-- The queue after an operation. -/
def perform (q : JobQueue) : Operation → JobQueue
  | .enqueue buckets now => (q.enqueue buckets now).toOption.getD q
  | .dequeue w now => (q.dequeue w now).2
  | .accept b w report now wall => ((q.accept b w report now wall).toOption.map (·.2)).getD q
  | .reclaim roster maximum now => (q.reclaim roster maximum now).2.1
  | .cancel => q.cancel.2

/-- The queue after some operations. -/
def run (q : JobQueue) (ops : List Operation) : JobQueue := ops.foldl perform q

/-- The operation takes in only what `admits` allows. -/
def Operation.Admitted (admits : List Bucket → Prop) : Operation → Prop
  | .enqueue buckets _ => admits buckets
  | _ => True

/-- The buckets whose reports an operation accepts. -/
def accepts (q : JobQueue) : Operation → List BucketId
  | .accept b w report now wall => if (q.accept b w report now wall).isOk then [b] else []
  | _ => []

/-- The buckets that an operation drops. -/
def drops (q : JobQueue) : Operation → List BucketId
  | .cancel => q.waitingIds ++ q.inFlight.keys
  | _ => []

/-- The buckets whose reports were accepted along a run. -/
def accepted (q : JobQueue) : List Operation → List BucketId
  | [] => []
  | op :: ops => q.accepts op ++ (q.perform op).accepted ops

/-- The buckets that were dropped along a run. -/
def dropped (q : JobQueue) : List Operation → List BucketId
  | [] => []
  | op :: ops => q.drops op ++ (q.perform op).dropped ops

/-! ## Places -/

/-- Every known id waits, is in flight or has left the queue, and every bucket in flight is kept
under its own id. -/
structure Placed (q : JobQueue) (gone : List BucketId) : Prop where
  perm : (q.waitingIds ++ q.inFlight.keys ++ gone).Perm q.known.keys
  own : ∀ b d, q.inFlight.get? b = some d → d.id = b

theorem run_append (q : JobQueue) (ops more : List Operation) :
    q.run (ops ++ more) = (q.run ops).run more :=
  List.foldl_append

/-- Buckets that are kept under their own ids are listed by their keys. -/
theorem ids_values {inFlight : Directory BucketId InFlightBucket}
    (own : ∀ b d, inFlight.get? b = some d → d.id = b) :
    inFlight.values.map InFlightBucket.id = inFlight.keys := by
  rw [Directory.values, Directory.keys, List.map_map]
  exact List.map_congr_left fun e he => own e.1 e.2 (Directory.get?_eq_some_iff.2 he)

namespace Placed

variable {q : JobQueue} {gone : List BucketId}

theorem nodup (h : Placed q gone) : (q.waitingIds ++ q.inFlight.keys ++ gone).Nodup :=
  h.perm.nodup_iff.2 q.known.keys_nodup

theorem of_perm {left : List BucketId} (h : Placed q gone) (perm : left.Perm gone) :
    Placed q left :=
  ⟨(perm.append_left _).trans h.perm, h.own⟩

theorem known_of_waiting (h : Placed q gone) {b : BucketId} (hb : b ∈ q.waitingIds) :
    b ∈ q.known.keys :=
  h.perm.subset (List.mem_append_left _ (List.mem_append_left _ hb))

theorem known_of_inFlight (h : Placed q gone) {b : BucketId} (hb : b ∈ q.inFlight.keys) :
    b ∈ q.known.keys :=
  h.perm.subset (List.mem_append_left _ (List.mem_append_right _ hb))

theorem not_inFlight (h : Placed q gone) : ∀ b ∈ q.waiting, b.bucket.id ∉ q.inFlight.keys :=
  fun b hb hin => (List.nodup_append.1 (List.nodup_append.1 h.nodup).1).2.2 b.bucket.id
    (List.mem_map.2 ⟨b, hb, rfl⟩) b.bucket.id hin rfl

/-- What has left the queue neither waits nor is in flight. -/
theorem not_held (h : Placed q gone) {b : BucketId} (hb : b ∈ gone) :
    b ∉ q.waitingIds ∧ b ∉ q.inFlight.keys := by
  have apart := (List.nodup_append.1 h.nodup).2.2
  exact ⟨fun hw => apart b (List.mem_append_left _ hw) b hb rfl,
    fun hi => apart b (List.mem_append_right _ hi) b hb rfl⟩

/-- New ids wait at the end of the line. -/
theorem enqueue {q' : JobQueue} {buckets : List Bucket} {now : Instant} (h : Placed q gone)
    (ok : q.enqueue buckets now = .ok q') : Placed q' gone := by
  obtain ⟨fresh, nodup, rfl⟩ := enqueue_eq_ok_iff.1 ok
  refine ⟨List.perm_iff_count.2 fun b => ?_, h.own⟩
  have before := h.perm.count_eq b
  have known := (known_appended nodup fresh now).count_eq b
  rw [waitingIds_appended]
  simp only [appended, List.count_append] at before known ⊢
  omega

/-- The head of the line moves to the buckets in flight. -/
theorem dequeue (h : Placed q gone) (w : WorkerId) (now : Instant) :
    Placed (q.dequeue w now).2 gone := by
  rw [dequeue_eq h.not_inFlight]
  split
  · exact h
  rename_i b rest waiting
  have notIn := h.not_inFlight b (waiting ▸ List.mem_cons_self)
  refine ⟨List.perm_iff_count.2 fun c => ?_, fun c d hc => ?_⟩
  · have before := h.perm.count_eq c
    have moved := (Directory.keys_insert_perm (⟨b, w, now⟩ : InFlightBucket) notIn).count_eq c
    simp only [waitingIds, waiting, handedOut, List.map_cons, List.count_append,
      List.count_cons] at before moved ⊢
    omega
  · by_cases e : c = b.bucket.id
    · subst e
      rw [handedOut, Directory.get?_insert_self] at hc
      cases hc
      rfl
    · rw [handedOut, Directory.get?_insert_of_ne _ _ e] at hc
      exact h.own c d hc

/-- The bucket reported on leaves the queue; a bucket that runs its failed tests again is new. -/
theorem accept {q' : JobQueue} {b : BucketId} {w : WorkerId} {report : BucketReport}
    {now : Instant} {wall : Timestamp} {a : Acceptance} (h : Placed q gone)
    (ok : q.accept b w report now wall = .ok (a, q')) : Placed q' (b :: gone) := by
  obtain ⟨inFlight, -, -, reported⟩ := of_accept_ok ok
  have own (c : BucketId) (d : InFlightBucket) (hd : (q.inFlight.erase b).get? c = some d) :
      d.id = c := by
    by_cases e : c = b
    · subst e
      rw [Directory.get?_erase_self] at hd
      cases hd
    · rw [Directory.get?_erase_of_ne _ e] at hd
      exact h.own c d hd
  have left := Directory.keys_erase_perm inFlight
  cases reported with
  | final =>
    refine ⟨List.perm_iff_count.2 fun c => ?_, own⟩
    have before := h.perm.count_eq c
    have left := left.count_eq c
    simp only [settled, waitingIds, List.count_append, List.count_cons] at before left ⊢
    omega
  | again failed _ _ fresh =>
    refine ⟨List.perm_iff_count.2 fun c => ?_, own⟩
    have before := h.perm.count_eq c
    have left := left.count_eq c
    have known := (Directory.keys_insert_perm () fresh).count_eq c
    simp only [retried, waitingIds, List.map_cons, List.count_append, List.count_cons] at *
    omega

theorem own_takenBack (h : Placed q gone) (roster : Roster) (maximum : Duration) (now : Instant)
    (b : BucketId) (d : InFlightBucket)
    (hd : (q.takenBack roster maximum now).inFlight.get? b = some d) : d.id = b := by
  rw [JobQueue.takenBack, Directory.get?_filter, Option.filter_eq_some_iff] at hd
  exact h.own b d hd.1

/-- The ids of the stuck buckets and of those that stay in flight are all ids in flight. -/
theorem stuck_ids_perm (h : Placed q gone) (roster : Roster) (maximum : Duration)
    (now : Instant) :
    ((q.stuck roster maximum now).map InFlightBucket.id ++
      (q.takenBack roster maximum now).inFlight.keys).Perm q.inFlight.keys := by
  have parts := (q.stuck_perm roster maximum now).map InFlightBucket.id
  rwa [List.map_append, ids_values h.own,
    ids_values (h.own_takenBack roster maximum now)] at parts

theorem mem_stuck (h : Placed q gone) {roster : Roster} {maximum : Duration} {now : Instant}
    {d : InFlightBucket} : d ∈ q.stuck roster maximum now ↔
      q.inFlight.get? d.id = some d ∧ isStuck roster maximum now d = true := by
  simp only [stuck, (perm_sortBy _ _).mem_iff, Directory.mem_values, Directory.get?_filter,
    Option.filter_eq_some_iff]
  constructor
  · rintro ⟨b, hd, isStuck⟩
    exact ⟨by rwa [h.own b d hd], isStuck⟩
  · exact fun hd => ⟨d.id, hd⟩

/-- A bucket in flight is taken back if it is stuck, and stays in flight if it is not. -/
theorem get?_inFlight_iff (h : Placed q gone) (roster : Roster) (maximum : Duration)
    (now : Instant) (b : BucketId) (d : InFlightBucket) :
    q.inFlight.get? b = some d ↔ (d ∈ q.stuck roster maximum now ∧ d.id = b) ∨
      (q.takenBack roster maximum now).inFlight.get? b = some d := by
  rw [h.mem_stuck, JobQueue.takenBack, Directory.get?_filter, Option.filter_eq_some_iff]
  constructor
  · intro hd
    have id := h.own b d hd
    cases isStuck : isStuck roster maximum now d with
    | true => exact .inl ⟨⟨id ▸ hd, rfl⟩, id⟩
    | false => exact .inr ⟨hd, rfl⟩
  · rintro (⟨⟨hd, -⟩, rfl⟩ | ⟨hd, -⟩)
    · exact hd
    · exact hd

theorem get?_takenBack_of_stuck (h : Placed q gone) {roster : Roster} {maximum : Duration}
    {now : Instant} {d : InFlightBucket} (stuck : d ∈ q.stuck roster maximum now) :
    (q.takenBack roster maximum now).inFlight.get? d.id = none := by
  obtain ⟨hd, isStuck⟩ := h.mem_stuck.1 stuck
  simp [JobQueue.takenBack, Directory.get?_filter, hd, isStuck]

/-- The stuck buckets wait again. -/
theorem reclaim (h : Placed q gone) (roster : Roster) (maximum : Duration) (now : Instant) :
    Placed (q.takenBack roster maximum now) gone := by
  refine ⟨List.perm_iff_count.2 fun b => ?_, h.own_takenBack roster maximum now⟩
  have ids : (q.takenBack roster maximum now).waitingIds =
      (q.stuck roster maximum now).map InFlightBucket.id ++ q.waitingIds := by
    simp only [waitingIds, takenBack, List.map_append, List.map_map]
    rfl
  have before := h.perm.count_eq b
  have parts := (h.stuck_ids_perm roster maximum now).count_eq b
  rw [ids]
  simp only [List.count_append] at before parts ⊢
  have known : (q.takenBack roster maximum now).known = q.known := rfl
  rw [known]
  omega

/-- All buckets leave a queue that is cancelled. -/
theorem cancel (h : Placed q gone) :
    Placed q.cancel.2 (q.waitingIds ++ q.inFlight.keys ++ gone) where
  perm := h.perm
  own := by simp [JobQueue.cancel]

end Placed

theorem placed_empty : Placed empty [] where
  perm := .refl _
  own := by simp [empty]

theorem Placed.perform {q : JobQueue} {gone : List BucketId} (h : Placed q gone) (op : Operation) :
    Placed (q.perform op) (q.accepts op ++ q.drops op ++ gone) := by
  cases op with
  | enqueue buckets now =>
    rw [JobQueue.perform]
    cases ok : q.enqueue buckets now with
    | error => exact h
    | ok q' => exact h.enqueue ok
  | dequeue w now => exact h.dequeue w now
  | accept b w report now wall =>
    rw [JobQueue.perform, accepts]
    cases ok : q.accept b w report now wall with
    | error => exact h
    | ok accepted => exact h.accept ok
  | reclaim roster maximum now => exact h.reclaim roster maximum now
  | cancel => exact h.cancel

theorem Placed.run {q : JobQueue} {gone : List BucketId} (h : Placed q gone)
    (ops : List Operation) :
    Placed (q.run ops) (q.accepted ops ++ q.dropped ops ++ gone) := by
  induction ops generalizing q gone with
  | nil => exact h
  | cons op ops ih =>
    refine (ih (h.perform op)).of_perm (List.perm_iff_count.2 fun b => ?_)
    simp only [accepted, dropped, List.count_append]
    omega

theorem placed_run (ops : List Operation) :
    Placed (empty.run ops) (empty.accepted ops ++ empty.dropped ops) := by
  have h := placed_empty.run ops
  rwa [List.append_nil] at h

/-- After any run of a new queue, the line has no repeated id, no waiting bucket is in flight, every
bucket in flight is kept under its own id, and a known id is waiting, in flight, accepted or
dropped, exactly once; what was accepted or dropped never waits or is in flight again. So nothing at
the front of the line is skipped, and there is nothing to hand out only if nothing waits. -/
theorem exactly_one_place (ops : List Operation) :
    (empty.run ops).waitingIds.Nodup ∧
    (∀ b ∈ (empty.run ops).waitingIds, b ∉ (empty.run ops).inFlight.keys) ∧
    (∀ b d, (empty.run ops).inFlight.get? b = some d → d.id = b) ∧
    (∀ b, (empty.run ops).waitingIds.count b + (empty.run ops).inFlight.keys.count b +
        (empty.accepted ops).count b + (empty.dropped ops).count b =
      if b ∈ (empty.run ops).known.keys then 1 else 0) ∧
    (∀ b, b ∈ empty.accepted ops ∨ b ∈ empty.dropped ops → ∀ more,
      b ∉ (empty.run (ops ++ more)).waitingIds ∧ b ∉ (empty.run (ops ++ more)).inFlight.keys) ∧
    nextWaiting? (empty.run ops).inFlight (empty.run ops).waiting =
      ((empty.run ops).waiting.head?, (empty.run ops).waiting.tail) ∧
    ∀ w now, ((empty.run ops).dequeue w now).1 = none ↔ (empty.run ops).waiting = [] := by
  have h := placed_run ops
  refine ⟨h.nodup.sublist (by simp), fun b hb => ?_, h.own, fun b => ?_, fun b hb more => ?_,
    nextWaiting?_eq h.not_inFlight, fun w now => ?_⟩
  · obtain ⟨c, hc, rfl⟩ := List.mem_map.1 hb
    exact h.not_inFlight c hc
  · have places := h.perm.count_eq b
    rw [(empty.run ops).known.keys_nodup.count] at places
    simp only [List.count_append] at places
    omega
  · have later := (placed_run ops).run more
    rw [← run_append] at later
    exact later.not_held (List.mem_append_right _ (List.mem_append.2 hb))
  · rw [dequeue_eq h.not_inFlight]
    split
    · rename_i waiting
      simp [waiting]
    · rename_i waiting
      simp [waiting]

end TestFleet.JobQueue
