import TestFleet.Queue.JobQueue
import TestFleet.Proofs.Directory

/-!
# What the operations of a queue do

One statement for each operation of a job's queue that says everything about its outcome, so that
nothing that follows opens the operations again.

* `enqueue_eq_ok_iff`: buckets are taken in only if all of their ids are new and different;
* `nextWaiting?_eq`: while no waiting bucket is in flight, the next one is the head of the line;
* `SplitOff`, `splitOff_settled`: which results of a bucket are final, and which tests run again;
* `Reported`, `of_accept_ok`: an accepted report, with and without failed tests that run again;
* `stuck_perm`: a sweep parts the buckets in flight.
-/

namespace TestFleet.JobQueue

/-! ## Taking buckets in -/

theorem firstDuplicate?_eq_none_iff {taken : BucketId → Bool} {before ids : List BucketId} :
    firstDuplicate? taken before ids = none ↔
      (∀ b ∈ ids, taken b = false ∧ b ∉ before) ∧ ids.Nodup := by
  induction ids generalizing before with
  | nil => simp [firstDuplicate?]
  | cons b bs ih =>
    simp only [firstDuplicate?]
    split
    · rename_i h
      simp only [List.contains_eq_mem, Bool.or_eq_true, decide_eq_true_eq] at h
      simp only [reduceCtorEq, List.mem_cons, forall_eq_or_imp, List.nodup_cons, false_iff]
      rintro ⟨⟨⟨hb, hbefore⟩, -⟩, -⟩
      simp [hb, hbefore] at h
    · rename_i h
      simp only [List.contains_eq_mem, Bool.or_eq_true, decide_eq_true_eq, not_or,
        Bool.not_eq_true] at h
      rw [ih]
      simp only [List.mem_cons, forall_eq_or_imp, List.nodup_cons, not_or]
      constructor
      · rintro ⟨hbs, nodup⟩
        exact ⟨⟨h, fun c hc => ⟨(hbs c hc).1, (hbs c hc).2.2⟩⟩, fun hb => (hbs b hb).2.1 rfl, nodup⟩
      · rintro ⟨⟨-, hbs⟩, hb, nodup⟩
        exact ⟨fun c hc => ⟨(hbs c hc).1, fun e => hb (e ▸ hc), (hbs c hc).2⟩, nodup⟩

/-- The queue after buckets were put at the end of the line. -/
def appended (q : JobQueue) (buckets : List Bucket) (now : Instant) : JobQueue :=
  { q with
    waiting := q.waiting ++ buckets.map fun b => ⟨b, now⟩
    known := (buckets.map (·.id)).foldl (fun known b => known.insert b ()) q.known }

theorem enqueue_eq_ok_iff {q q' : JobQueue} {buckets : List Bucket} {now : Instant} :
    q.enqueue buckets now = .ok q' ↔
      (∀ b ∈ buckets.map (·.id), b ∉ q.known.keys) ∧ (buckets.map (·.id)).Nodup ∧
        q' = q.appended buckets now := by
  have fresh : firstDuplicate? q.known.contains [] (buckets.map (·.id)) = none ↔
      (∀ b ∈ buckets.map (·.id), b ∉ q.known.keys) ∧ (buckets.map (·.id)).Nodup := by
    rw [firstDuplicate?_eq_none_iff]
    simp [← Directory.contains_iff_mem_keys]
  rw [← and_assoc, ← fresh, enqueue]
  cases h : firstDuplicate? q.known.contains [] (buckets.map (·.id)) with
  | none => simp [appended, eq_comm]
  | some b => simp

theorem known_appended {q : JobQueue} {buckets : List Bucket}
    (nodup : (buckets.map (·.id)).Nodup) (fresh : ∀ b ∈ buckets.map (·.id), b ∉ q.known.keys)
    (now : Instant) :
    (q.appended buckets now).known.keys.Perm (buckets.map (·.id) ++ q.known.keys) :=
  Directory.keys_foldl_insert_perm _ _ _ nodup fresh

theorem waitingIds_appended (q : JobQueue) (buckets : List Bucket) (now : Instant) :
    (q.appended buckets now).waitingIds = q.waitingIds ++ buckets.map (·.id) := by
  simp [waitingIds, appended]

/-! ## Handing out -/

theorem nextWaiting?_eq {inFlight : Directory BucketId InFlightBucket}
    {waiting : List WaitingBucket} (h : ∀ b ∈ waiting, b.bucket.id ∉ inFlight.keys) :
    nextWaiting? inFlight waiting = (waiting.head?, waiting.tail) := by
  cases waiting with
  | nil => rfl
  | cons b bs =>
    have hb : inFlight.contains b.bucket.id = false := by
      rw [Bool.eq_false_iff, ne_eq, Directory.contains_iff_mem_keys]
      exact h b List.mem_cons_self
    simp [nextWaiting?, hb]

/-- The queue after the bucket at the front of the line, `b`, was handed out. -/
def handedOut (q : JobQueue) (b : WaitingBucket) (rest : List WaitingBucket) (w : WorkerId)
    (now : Instant) : JobQueue :=
  { q with waiting := rest, inFlight := q.inFlight.insert b.bucket.id ⟨b, w, now⟩ }

theorem dequeue_eq {q : JobQueue} (h : ∀ b ∈ q.waiting, b.bucket.id ∉ q.inFlight.keys)
    (w : WorkerId) (now : Instant) :
    q.dequeue w now =
      match q.waiting with
      | [] => (none, q)
      | b :: rest => (some ⟨b, w, now⟩, q.handedOut b rest w now) := by
  rw [dequeue, nextWaiting?_eq h]
  obtain ⟨waiting, inFlight, known, lineages⟩ := q
  cases waiting <;> rfl

/-! ## Reports -/

theorem entries_mergeResults (wall : Timestamp) (results : List EntryResult)
    (before es : List TestEntry) :
    (mergeResults wall results before es).map (·.entry) = es := by
  induction es generalizing before with
  | nil => rfl
  | cons e es ih =>
    have head (runs : List TestRun) :
        (if runs.isEmpty then EntryResult.didNotRun wall "" "" e else ⟨e, runs⟩).entry = e := by
      split <;> rfl
    rw [mergeResults, List.map_cons, ih, head]

theorem unexpectedEntries_eq_nil_iff {b : Bucket} {results : List EntryResult} :
    unexpectedEntries b results = [] ↔ ∀ r ∈ results, r.entry ∈ b.entries := by
  -- The fold only ever adds to what it found, so it starts from any list.
  suffices ∀ found : List TestEntry, results.foldl (fun found r =>
      if b.entries.contains r.entry || found.contains r.entry then found
      else found ++ [r.entry]) found = [] ↔ found = [] ∧ ∀ r ∈ results, r.entry ∈ b.entries by
    simpa [unexpectedEntries] using this []
  induction results with
  | nil => simp
  | cons r rs ih =>
    intro found
    rw [List.foldl_cons, ih]
    by_cases hr : r.entry ∈ b.entries
    · simp [hr]
    · by_cases hf : r.entry ∈ found
      · simp [hr, hf, List.ne_nil_of_mem hf]
      · simp [hr, hf]

/-- The queue after a report on the bucket `b` was accepted and nothing runs again. -/
def settled (q : JobQueue) (b : BucketId) : JobQueue := { q with inFlight := q.inFlight.erase b }

/-- The queue after a report on the bucket `b` was accepted and the entries `failed` run again, by
the lineage `l`. -/
def retried (q : JobQueue) (b : BucketId) (l : Lineage) (failed : List TestEntry)
    (configuration : TestConfiguration) (now : Instant) : JobQueue where
  waiting := ⟨⟨l.bucketId, failed, configuration⟩, now⟩ :: q.waiting
  inFlight := q.inFlight.erase b
  known := q.known.insert l.bucketId ()
  lineages := q.lineages.insert l.bucketId l

/-- What the acceptance of a report makes of a queue: the results that are final and the failed
entries that run again are the entries of the bucket. -/
inductive Reported (q : JobQueue) (b : BucketId) (a : Acceptance) (now : Instant) :
    JobQueue → Prop where
  | final (none : a.retry = none)
      (entries : (a.results.map (·.entry)).Perm a.taken.bucket.entries) :
      Reported q b a now (q.settled b)
  | again (failed : List TestEntry)
      (entries : (a.results.map (·.entry) ++ failed).Perm a.taken.bucket.entries)
      (left : (q.lineageOf a.taken.bucket.id).attempt < a.taken.bucket.retries.toNat)
      (fresh : (q.lineageOf a.taken.bucket.id).next.bucketId ∉ q.known.keys)
      (some : a.retry = some (q.lineageOf a.taken.bucket.id).next.bucketId) :
      Reported q b a now (q.retried b (q.lineageOf a.taken.bucket.id).next failed
        a.taken.bucket.configuration now)

theorem partition_succeeded_perm (results : List EntryResult) :
    ((results.filter EntryResult.succeeded ++ results.filter fun r => !r.succeeded).map
      (·.entry)).Perm (results.map (·.entry)) :=
  (List.filter_append_perm _ _).map _

/-- What becomes of the merged results of the bucket `c`, by its lineage `l`. They are all final if
no attempts are left or nothing failed, and if the id under which the failed tests would run again
is known already; otherwise the failed tests run again. -/
inductive SplitOff (q : JobQueue) (b : BucketId) (c : Bucket) (l : Lineage)
    (merged : List EntryResult) (now : Instant) :
    List EntryResult × Option BucketId × JobQueue → Prop where
  | spent (noneLeft : c.retries.toNat ≤ l.attempt) :
      SplitOff q b c l merged now (merged, none, q.settled b)
  | passed (left : l.attempt < c.retries.toNat) (all : ∀ r ∈ merged, r.succeeded = true) :
      SplitOff q b c l merged now (merged, none, q.settled b)
  | clash (left : l.attempt < c.retries.toNat) (failed : ∃ r ∈ merged, r.succeeded = false)
      (known : l.next.bucketId ∈ q.known.keys) :
      SplitOff q b c l merged now (merged.filter EntryResult.succeeded ++
        merged.filter fun r => !r.succeeded, none, q.settled b)
  | again (left : l.attempt < c.retries.toNat) (failed : ∃ r ∈ merged, r.succeeded = false)
      (fresh : l.next.bucketId ∉ q.known.keys) :
      SplitOff q b c l merged now (merged.filter EntryResult.succeeded, some l.next.bucketId,
        q.retried b l.next ((merged.filter fun r => !r.succeeded).map (·.entry)) c.configuration
          now)

theorem splitOff_settled (q : JobQueue) (b : BucketId) (c : Bucket) (merged : List EntryResult)
    (now : Instant) : SplitOff q b c (q.lineageOf c.id) merged now
      ((q.settled b).splitOffRetries c merged now) := by
  simp only [splitOffRetries]
  split
  · rename_i noneLeft
    exact .spent noneLeft
  rename_i left
  have left := Nat.not_le.1 left
  split
  · rename_i none
    have all : ∀ r ∈ merged, r.succeeded = true := by
      simpa [List.isEmpty_iff, List.filter_eq_nil_iff] using none
    rw [List.filter_eq_self.2 all]
    exact .passed left all
  rename_i some
  have failed : ∃ r ∈ merged, r.succeeded = false := by
    simpa [List.isEmpty_iff, List.filter_eq_nil_iff] using some
  split
  · rename_i known
    exact .clash left failed (Directory.contains_iff_mem_keys.1 known)
  · rename_i fresh
    exact .again left failed fun known => fresh (Directory.contains_iff_mem_keys.2 known)

theorem SplitOff.reported {q : JobQueue} {b : BucketId} {taken : InFlightBucket}
    {merged : List EntryResult} {now : Instant}
    {outcome : List EntryResult × Option BucketId × JobQueue}
    (h : SplitOff q b taken.bucket (q.lineageOf taken.bucket.id) merged now outcome)
    (entries : merged.map (·.entry) = taken.bucket.entries) :
    Reported q b ⟨taken, outcome.1, outcome.2.1⟩ now outcome.2.2 := by
  have parts := partition_succeeded_perm merged
  rw [entries] at parts
  cases h with
  | spent => exact .final rfl (.of_eq entries)
  | passed => exact .final rfl (.of_eq entries)
  | clash => exact .final rfl parts
  | again left _ fresh =>
    rw [List.map_append] at parts
    exact .again _ parts left fresh rfl

/-- Which reports are accepted. -/
theorem accept_eq_ok_iff {q q' : JobQueue} {b : BucketId} {w : WorkerId} {report : BucketReport}
    {now : Instant} {wall : Timestamp} {a : Acceptance} :
    q.accept b w report now wall = .ok (a, q') ↔
      q.inFlight.get? b = some a.taken ∧ a.taken.worker = w ∧
        (∀ r ∈ report.results, r.entry ∈ a.taken.bucket.entries) ∧
        (q.settled b).splitOffRetries a.taken.bucket
          (mergeResults wall report.results [] a.taken.bucket.entries) now =
            (a.results, a.retry, q') := by
  constructor
  · intro h
    rw [accept] at h
    split at h
    · cases h
    rename_i taken inFlight
    split at h
    · cases h
    rename_i owner
    dsimp only at h
    split at h
    · cases h
    rename_i expected
    rw [Bool.not_eq_true', Bool.not_eq_false, List.isEmpty_iff,
      unexpectedEntries_eq_nil_iff] at expected
    cases h
    exact ⟨inFlight, Decidable.not_not.1 owner, expected, rfl⟩
  · rintro ⟨inFlight, rfl, expected, parts⟩
    rw [settled] at parts
    simp [accept, inFlight, unexpectedEntries_eq_nil_iff.2 expected, parts]

theorem of_accept_ok {q q' : JobQueue} {b : BucketId} {w : WorkerId} {report : BucketReport}
    {now : Instant} {wall : Timestamp} {a : Acceptance}
    (h : q.accept b w report now wall = .ok (a, q')) :
    q.inFlight.get? b = some a.taken ∧ a.taken.worker = w ∧
      (∀ r ∈ report.results, r.entry ∈ a.taken.bucket.entries) ∧ Reported q b a now q' := by
  obtain ⟨inFlight, owner, expected, parts⟩ := accept_eq_ok_iff.1 h
  have split := splitOff_settled q b a.taken.bucket
    (mergeResults wall report.results [] a.taken.bucket.entries) now
  rw [parts] at split
  have reported := split.reported (entries_mergeResults ..)
  exact ⟨inFlight, owner, expected, reported⟩

/-- The worker that holds a bucket may report on it, as long as the report names tests of it. -/
theorem exists_accept_eq_ok {q : JobQueue} {b : BucketId} {d : InFlightBucket}
    (inFlight : q.inFlight.get? b = some d) {report : BucketReport}
    (expected : ∀ r ∈ report.results, r.entry ∈ d.bucket.entries) (now : Instant)
    (wall : Timestamp) : ∃ a q', q.accept b d.worker report now wall = .ok (a, q') := by
  obtain ⟨results, retry, q', parts⟩ : ∃ results retry q', (q.settled b).splitOffRetries d.bucket
      (mergeResults wall report.results [] d.bucket.entries) now = (results, retry, q') :=
    ⟨_, _, _, rfl⟩
  exact ⟨⟨d, results, retry⟩, q', accept_eq_ok_iff.2 ⟨inFlight, rfl, expected, parts⟩⟩

/-! ## Taking back -/

/-- The queue after the stuck buckets were put back to the front of the line. -/
def takenBack (q : JobQueue) (roster : Roster) (maximum : Duration) (now : Instant) : JobQueue :=
  { q with
    waiting := (q.stuck roster maximum now).map (·.waiting) ++ q.waiting
    inFlight := q.inFlight.filter fun _ d => !isStuck roster maximum now d }

theorem stuck_perm (q : JobQueue) (roster : Roster) (maximum : Duration) (now : Instant) :
    (q.stuck roster maximum now ++ (q.takenBack roster maximum now).inFlight.values).Perm
      q.inFlight.values := by
  refine ((perm_sortBy _ _).append_right _).trans ?_
  have parts := q.inFlight.entries_filter_perm fun _ d => isStuck roster maximum now d
  have values := parts.map Prod.snd
  rwa [List.map_append] at values

/-! ## Being done -/

theorem isDepleted_iff {q : JobQueue} :
    q.isDepleted = true ↔ q.waiting = [] ∧ q.inFlight.keys = [] := by
  simp [isDepleted, Directory.isEmpty, Directory.keys]

end TestFleet.JobQueue
