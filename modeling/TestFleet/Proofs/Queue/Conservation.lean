import TestFleet.Proofs.Queue.Queues

/-!
# No test is lost or recorded twice

A test that is enqueued waits, is in flight, or has one result, however its bucket is handed out,
taken back, reported on and split up on the way. So the results of a job that is done are one for
each test that was enqueued, as often as it was enqueued.

* `entries_reported`, `entries_takenBack`: what single operations of a queue do to its entries;
* `Balanced`: the account of one job, against the record of what was enqueued;
* `Balanced.perform`: every operation keeps the account of every job;
* `entries_conserved`: the account holds after every run.
-/

namespace TestFleet

/-! ## The entries that a queue holds -/

namespace JobQueue

/-- The entries of the buckets that wait or are in flight. -/
def heldEntries (q : JobQueue) : List TestEntry :=
  q.waiting.flatMap (·.bucket.entries) ++ q.inFlight.values.flatMap (·.bucket.entries)

theorem entries_appended (q : JobQueue) (buckets : List Bucket) (now : Instant) :
    (q.appended buckets now).heldEntries.Perm (q.heldEntries ++ buckets.flatMap (·.entries)) := by
  refine List.perm_iff_count.2 fun e => ?_
  have new : (buckets.map fun b => (⟨b, now⟩ : WaitingBucket)).flatMap (·.bucket.entries) =
      buckets.flatMap (·.entries) := by
    rw [List.flatMap_map]
  simp only [heldEntries, appended, List.flatMap_append, new, List.count_append]
  omega

theorem entries_handedOut {q : JobQueue} {b : WaitingBucket} {rest : List WaitingBucket}
    (waiting : q.waiting = b :: rest) (notIn : b.bucket.id ∉ q.inFlight.keys) (w : WorkerId)
    (now : Instant) : (q.handedOut b rest w now).heldEntries.Perm q.heldEntries := by
  refine List.perm_iff_count.2 fun e => ?_
  have moved := ((Directory.values_insert_perm (⟨b, w, now⟩ : InFlightBucket) notIn).flatMap_right
    (·.bucket.entries)).count_eq e
  simp only [heldEntries, handedOut, waiting, List.flatMap_cons, List.count_append] at moved ⊢
  simp only [InFlightBucket.bucket] at moved ⊢
  omega

/-- The final results, and the entries that run again, are the entries of the bucket that was
reported on. -/
theorem entries_reported {q q' : JobQueue} {b : BucketId} {a : Acceptance} {now : Instant}
    (inFlight : q.inFlight.get? b = some a.taken) (reported : Reported q b a now q') :
    (a.results.map (·.entry) ++ q'.heldEntries).Perm q.heldEntries := by
  refine List.perm_iff_count.2 fun e => ?_
  have left := ((Directory.values_erase_perm inFlight).flatMap_right
    (·.bucket.entries)).count_eq e
  cases reported with
  | final _ entries =>
    have done := entries.count_eq e
    simp only [heldEntries, settled, List.flatMap_cons, List.count_append] at left ⊢
    omega
  | again failed entries =>
    have done := entries.count_eq e
    simp only [heldEntries, retried, List.flatMap_cons, List.count_append] at left done ⊢
    omega

theorem entries_takenBack (q : JobQueue) (roster : Roster) (maximum : Duration) (now : Instant) :
    (q.takenBack roster maximum now).heldEntries.Perm q.heldEntries := by
  refine List.perm_iff_count.2 fun e => ?_
  have parts := ((q.stuck_perm roster maximum now).flatMap_right
    (·.bucket.entries)).count_eq e
  have back : ((q.stuck roster maximum now).map (·.waiting)).flatMap (·.bucket.entries) =
      (q.stuck roster maximum now).flatMap (·.bucket.entries) := by
    rw [List.flatMap_map]
    rfl
  have waiting : (q.takenBack roster maximum now).waiting =
      (q.stuck roster maximum now).map (·.waiting) ++ q.waiting := rfl
  simp only [heldEntries, waiting, List.flatMap_append, back, List.count_append] at parts ⊢
  omega

theorem entries_of_depleted {q : JobQueue} (waiting : q.enqueuedCount = 0)
    (inFlight : q.dequeuedCount = 0) : q.heldEntries = [] := by
  have noneInFlight : q.inFlight.entries = [] := List.length_eq_zero_iff.1 inFlight
  rw [heldEntries, List.length_eq_zero_iff.1 waiting, Directory.values, noneInFlight]
  rfl

end JobQueue

/-! ## The ledger -/

namespace Ledger

theorem results_add_self (l : Ledger) (j : JobId) (b : BucketId) (results : List EntryResult) :
    (l.add j b results).results j = l.results j ++ results := by
  simp only [Ledger.results, record, add, Directory.get?_insert_self, Option.getD_some]

theorem results_add_of_ne (l : Ledger) {j j' : JobId} (h : j' ≠ j) (b : BucketId)
    (results : List EntryResult) : (l.add j b results).results j' = l.results j' := by
  simp only [Ledger.results, record, add, Directory.get?_insert_of_ne _ _ h]

theorem results_remove_self (l : Ledger) (j : JobId) : (l.remove j).results j = [] := by
  simp only [Ledger.results, record, remove, Directory.get?_erase_self]
  rfl

theorem results_remove_of_ne (l : Ledger) {j j' : JobId} (h : j' ≠ j) :
    (l.remove j).results j' = l.results j' := by
  simp only [Ledger.results, record, remove, Directory.get?_erase_of_ne _ h]

end Ledger

namespace Dispatcher

/-! ## The record of what was enqueued -/

/-- The buckets that an operation adds to a job. -/
def submits (d : Dispatcher) (j : JobId) : Operation → List Bucket
  | .enqueue k buckets priority now =>
    if k = j ∧ (d.enqueue k buckets priority now).1.isOk then buckets else []
  | _ => []

/-- The record of the buckets that were added to a job, after one more operation. It starts anew
when the job is removed. -/
def recorded (d : Dispatcher) (j : JobId) (before : List Bucket) (op : Operation) : List Bucket :=
  if (d.perform op).jobs.contains j then before ++ d.submits j op else []

/-- The buckets that were added to a job along a run since the job was created, after those that
were added before the run. -/
def submitted (d : Dispatcher) (j : JobId) (before : List Bucket) : List Operation → List Bucket
  | [] => before
  | op :: ops => (d.perform op).submitted j (d.recorded j before op) ops

/-! ## The account of a job -/

/-- The results of a job and the entries that its queue holds are what was enqueued. Of a job that
is not live nothing is kept. -/
structure Balanced (d : Dispatcher) (j : JobId) (enqueued : List Bucket) : Prop where
  live : ∀ job, d.jobs.get? j = some job →
    ((d.ledger.results j).map (·.entry) ++ job.queue.heldEntries).Perm
      (enqueued.flatMap (·.entries))
  gone : d.jobs.get? j = none → d.ledger.results j = [] ∧ enqueued = []

namespace Balanced

variable {d d' : Dispatcher} {j k : JobId} {record : List Bucket}

/-- What touches neither the queue nor the results of a job leaves its account alone. -/
theorem frame (h : Balanced d j record) (jobs : d'.jobs.get? j = d.jobs.get? j)
    (results : d'.ledger.results j = d.ledger.results j) : Balanced d' j record := by
  refine ⟨fun job live => ?_, fun gone => ?_⟩
  · rw [results]
    exact h.live job (jobs ▸ live)
  · rw [results]
    exact h.gone (jobs ▸ gone)

/-- A queue that holds the same entries as before. -/
theorem withQueue (h : Balanced d j record) {job : Job} (live : d.jobs.get? k = some job)
    {q : JobQueue} (same : q.heldEntries.Perm job.queue.heldEntries) :
    Balanced (d.withQueue k q) j record := by
  by_cases e : j = k
  · subst e
    refine ⟨fun job' live' => ?_, fun gone => ?_⟩
    · rw [get?_withQueue_self live] at live'
      cases live'
      exact (same.append_left _).trans (h.live job live)
    · rw [get?_withQueue_self live] at gone
      cases gone
  · exact h.frame (get?_withQueue_of_ne e q) rfl

theorem enqueued (h : Balanced d j record) (k : JobId) (buckets : List Bucket)
    (priority : JobPriority) (now : Instant) :
    Balanced (d.enqueued k buckets priority now) j
      (record ++ if k = j then buckets else []) := by
  by_cases e : j = k
  · subst e
    -- A job that was not live starts with an empty queue and an empty record.
    have before : ((d.ledger.results j).map (·.entry) ++
        (d.jobFor j priority).1.queue.heldEntries).Perm (record.flatMap (·.entries)) := by
      cases live : d.jobs.get? j with
      | none =>
        obtain ⟨noResults, rfl⟩ := h.gone live
        rw [jobFor_of_new live, noResults]
        rfl
      | some job =>
        rw [jobFor_of_live live]
        exact h.live job live
    refine ⟨fun job live => ?_, fun gone => ?_⟩
    · rw [get?_enqueued_self] at live
      cases live
      have added := JobQueue.entries_appended (d.jobFor j priority).1.queue buckets now
      have results : (d.enqueued j buckets priority now).ledger = d.ledger := enqueued_ledger ..
      rw [results, if_pos rfl, List.flatMap_append]
      refine (added.append_left _).trans ?_
      rw [← List.append_assoc]
      exact before.append_right _
    · rw [get?_enqueued_self] at gone
      cases gone
  · rw [if_neg (Ne.symm e), List.append_nil]
    refine h.frame (get?_enqueued_of_ne d e buckets priority now) ?_
    rw [enqueued_ledger]

theorem settled (h : Balanced d j record) {job : Job} (live : d.jobs.get? k = some job)
    {b : BucketId} {w : WorkerId} {report : BucketReport} {now : Instant} {wall : Timestamp}
    {a : Acceptance} {q : JobQueue} (ok : job.queue.accept b w report now wall = .ok (a, q)) :
    Balanced (d.settled k b w a q now) j record := by
  obtain ⟨inFlight, -, -, reported⟩ := JobQueue.of_accept_ok ok
  have entries := JobQueue.entries_reported inFlight reported
  by_cases e : j = k
  · subst e
    refine ⟨fun job' live' => ?_, fun gone => ?_⟩
    · rw [settled_jobs, get?_withQueue_self live] at live'
      cases live'
      rw [settled_ledger, Ledger.results_add_self, List.map_append, List.append_assoc]
      exact (entries.append_left _).trans (h.live job live)
    · rw [settled_jobs, get?_withQueue_self live] at gone
      cases gone
  · refine h.frame ?_ ?_
    · rw [settled_jobs, get?_withQueue_of_ne e q]
    · rw [settled_ledger, Ledger.results_add_of_ne _ e]

/-- The record after an operation is what it was and what the operation adds, unless the job is
removed. -/
theorem recorded {op : Operation} (h : Balanced (d.perform op) j (record ++ d.submits j op)) :
    Balanced (d.perform op) j (d.recorded j record op) := by
  rw [Dispatcher.recorded]
  split
  · exact h
  · rename_i removed
    rw [Directory.contains_iff_mem_keys, ← Directory.get?_eq_none_iff] at removed
    exact (h.gone removed).2 ▸ h

theorem recorded_of_none {op : Operation} (h : Balanced (d.perform op) j record)
    (none : d.submits j op = []) : Balanced (d.perform op) j (d.recorded j record op) := by
  refine recorded ?_
  rw [none, List.append_nil]
  exact h

theorem recorded_of_forget {op : Operation} {q : JobQueue} (h : Balanced d' j record)
    (removes : d.perform op = d'.forget k q) (none : d.submits j op = []) :
    Balanced (d.perform op) j (d.recorded j record op) := by
  by_cases e : j = k
  · subst e
    have removed : (d.perform op).jobs.get? j = .none := by
      rw [removes]
      exact Directory.get?_erase_self _ _
    have empty : d.recorded j record op = [] := by
      rw [Directory.get?_eq_none_iff, ← Directory.contains_iff_mem_keys] at removed
      rw [Dispatcher.recorded, if_neg removed]
    refine ⟨fun job live => ?_, fun _ => ⟨?_, empty⟩⟩
    · rw [removed] at live
      cases live
    · rw [removes]
      exact Ledger.results_remove_self _ _
  · refine recorded_of_none ?_ none
    rw [removes]
    exact h.frame (Directory.get?_erase_of_ne _ e) (Ledger.results_remove_of_ne _ e)

theorem perform (h : Balanced d j record) (orderly : d.Orderly) (op : Operation) :
    Balanced (d.perform op) j (d.recorded j record op) := by
  cases op with
  | enqueue k buckets priority now =>
    rcases d.enqueue_cases k buckets priority now with ⟨e, same⟩ | ⟨-, -, -, added⟩
    · refine recorded_of_none ?_ (by simp [submits, same, Except.isOk, Except.toBool])
      rw [Dispatcher.perform, same]
      exact h
    · refine recorded ?_
      simp only [Dispatcher.perform, submits, added, Except.isOk, Except.toBool, and_true]
      exact h.enqueued k buckets priority now
  | dequeue w now clock =>
    refine recorded_of_none ?_ rfl
    rw [Dispatcher.perform]
    generalize outcome : d.dequeue w now clock = answer
    cases outcome ▸ d.dequeue_cases orderly w now clock with
    | nothing => exact h.frame rfl rfl
    | bucket r _ _ _ live waiting =>
      obtain ⟨gone, placed⟩ := orderly.placed live
      have notIn := placed.not_inFlight _ (waiting ▸ List.mem_cons_self)
      exact (h.withQueue live (JobQueue.entries_handedOut waiting notIn w now)).frame rfl rfl
  | accept b w report now wall =>
    refine recorded_of_none ?_ rfl
    rw [Dispatcher.perform]
    generalize outcome : d.accept b w report now wall = answer
    cases outcome ▸ d.accept_cases b w report now wall with
    | rejected => exact h.frame rfl rfl
    | accepted _ live ok => exact h.settled live ok
  | reclaim now =>
    refine recorded_of_none ?_ rfl
    refine reclaim_induction (P := fun d => Balanced d j record) (fun d h => h.frame rfl rfl)
      (fun d k job h live => ?_) h
    exact (h.withQueue live (JobQueue.entries_takenBack job.queue _ _ now)).frame rfl rfl
  | delete k =>
    rcases d.delete_cases k with ⟨e, same⟩ | ⟨job, -, -, removed⟩
    · refine recorded_of_none ?_ rfl
      rw [Dispatcher.perform, same]
      exact h
    · have removes : d.perform (.delete k) = d.forget k job.queue := by
        rw [Dispatcher.perform, removed]
      exact h.recorded_of_forget removes rfl
  | cancel k =>
    rcases d.cancel_cases k with ⟨-, e, same⟩ | ⟨job, -, removed⟩
    · refine recorded_of_none ?_ rfl
      rw [Dispatcher.perform, same]
      exact h
    · have removes : d.perform (.cancel k) = d.cancelled k job.queue := by
        rw [Dispatcher.perform, removed]
      exact (h.frame rfl rfl : Balanced (d.withRoster _) j record).recorded_of_forget removes rfl
  | rebalance => exact recorded_of_none (h.frame rfl rfl) rfl
  | prefer => exact recorded_of_none (h.frame rfl rfl) rfl
  | roster => exact recorded_of_none (h.frame rfl rfl) rfl

theorem run (h : Balanced d j record) (orderly : d.Orderly) (ops : List Operation) :
    Balanced (d.run ops) j (d.submitted j record ops) := by
  induction ops generalizing d record with
  | nil => exact h
  | cons op ops ih => exact ih (h.perform orderly op) (orderly.perform (admitted_of_forall op))

end Balanced

theorem balanced_new (config : DispatcherConfig) (silence : Duration) (j : JobId) :
    Balanced (new config silence) j [] :=
  ⟨nofun, fun _ => ⟨rfl, rfl⟩⟩

/-- After any run, the results of a live job together with the entries that its queue holds are the
entries of all buckets that were enqueued since the job was created; and if nothing waits or is in
flight, the results alone are, one for each test as often as it was enqueued. -/
theorem entries_conserved {config : DispatcherConfig} {silence : Duration} {ops : List Operation}
    {j : JobId} {job : Job} (live : ((new config silence).run ops).jobs.get? j = some job) :
    ∃ state, ((new config silence).run ops).snapshot? j = some state ∧
      (state.results.map (·.entry) ++ job.queue.waiting.flatMap (·.bucket.entries) ++
        job.queue.inFlight.values.flatMap (·.bucket.entries)).Perm
          (((new config silence).submitted j [] ops).flatMap (·.entries)) ∧
      (state.enqueued = 0 → state.dequeued = 0 → (state.results.map (·.entry)).Perm
        (((new config silence).submitted j [] ops).flatMap (·.entries))) := by
  have account := ((balanced_new config silence j).run (composed_new _ config silence) ops).live
    job live
  refine ⟨⟨job.queue.enqueuedCount, job.queue.dequeuedCount,
    ((new config silence).run ops).ledger.results j⟩, ?_, ?_, fun waiting inFlight => ?_⟩
  · rw [snapshot?, live]
    rfl
  · rw [List.append_assoc]
    exact account
  · rwa [JobQueue.entries_of_depleted waiting inFlight, List.append_nil] at account

/-- Nothing was heard of one of two tests, which waits to run again. -/
def reportedOnce : List Operation :=
  [.enqueue ⟨"job"⟩
      [⟨⟨"bucket"⟩, [⟨⟨"A", "a"⟩, [], none⟩, ⟨⟨"A", "b"⟩, [], none⟩], onceMore⟩] ⟨0⟩ ⟨0⟩,
    .roster (.register ⟨"worker"⟩ ⟨0⟩), .dequeue ⟨"worker"⟩ ⟨1⟩ ⟨1⟩,
    .accept ⟨"bucket"⟩ ⟨"worker"⟩ ⟨⟨"bucket"⟩, onceMore.destination,
      [⟨⟨⟨"A", "b"⟩, [], none⟩, [⟨true, [], .zero, ⟨0⟩, "host", ""⟩]⟩]⟩ ⟨2⟩ ⟨2⟩]

theorem entries_conserved_reportedOnce :
    ∃ job, ((new {} .zero).run reportedOnce).jobs.get? ⟨"job"⟩ = some job ∧
      ∃ state, ((new {} .zero).run reportedOnce).snapshot? ⟨"job"⟩ = some state ∧
        (state.results.map (·.entry) ++ job.queue.waiting.flatMap (·.bucket.entries) ++
          job.queue.inFlight.values.flatMap (·.bucket.entries)).Perm
            [⟨⟨"A", "a"⟩, [], none⟩, ⟨⟨"A", "b"⟩, [], none⟩] := by
  have isLive : (((new {} .zero).run reportedOnce).jobs.get? ⟨"job"⟩).isSome = true := by decide
  obtain ⟨job, live⟩ := Option.isSome_iff_exists.1 isLive
  obtain ⟨state, snapshot, account, -⟩ := entries_conserved live
  exact ⟨job, live, state, snapshot, account⟩

end Dispatcher

end TestFleet
