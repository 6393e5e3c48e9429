import TestFleet.Proofs.Queue.Places

/-!
# Verdicts on reports

What a job's queue makes of a report, whatever the report says and whoever sends it. A report is
rejected for the first of three reasons that applies, and then nothing changes. All others are
accepted: the runs of each test are put together, and each test is final or runs again.

* `unexpectedEntries_eq`: the tests that a report should not name, each where it is first named;
* `mergeResults_eq_map`: the results of a bucket that lists no test twice, one by one;
* `accept_eq_error_iff`: which reports are rejected, and why;
* `judgesExactly_run`: how every queue judges a report.
-/

namespace TestFleet.JobQueue

/-! ## The tests that a report names -/

/-- The tests that a report names and the bucket does not hold, each where it is first named. -/
def foreignEntries (b : Bucket) (results : List EntryResult) : List TestEntry :=
  ((results.map (·.entry)).filter fun e => !b.entries.contains e).eraseDups

theorem unexpectedEntries_eq (b : Bucket) (results : List EntryResult) :
    unexpectedEntries b results = foreignEntries b results := by
  -- The fold looks at what it found so far, where `eraseDups` looks at what is still to come.
  suffices ∀ found : List TestEntry, results.foldl (fun found r =>
      if b.entries.contains r.entry || found.contains r.entry then found
      else found ++ [r.entry]) found =
        found ++ ((results.map (·.entry)).filter fun e =>
          !found.contains e && !b.entries.contains e).eraseDups by
    simpa [unexpectedEntries, foreignEntries] using this []
  induction results with
  | nil => simp
  | cons r rs ih =>
    intro found
    rw [List.foldl_cons, ih, List.map_cons, List.filter_cons]
    by_cases known : b.entries.contains r.entry || found.contains r.entry
    · have skipped : (!found.contains r.entry && !b.entries.contains r.entry) = false := by
        rw [← Bool.not_or, Bool.or_comm, known, Bool.not_true]
      rw [if_pos known, skipped, if_neg Bool.false_ne_true]
    · have kept : (!found.contains r.entry && !b.entries.contains r.entry) = true := by
        rw [← Bool.not_or, Bool.or_comm, Bool.eq_false_iff.2 known, Bool.not_false]
      rw [if_neg known, kept, if_pos rfl, List.eraseDups_cons, List.filter_filter,
        List.append_assoc, List.singleton_append]
      congr 3
      refine List.filter_congr fun e _ => ?_
      rw [Bool.eq_iff_iff]
      simp [and_comm, and_assoc]

theorem foreignEntries_eq_nil_iff {b : Bucket} {results : List EntryResult} :
    foreignEntries b results = [] ↔ ∀ r ∈ results, r.entry ∈ b.entries := by
  rw [← unexpectedEntries_eq, unexpectedEntries_eq_nil_iff]

/-! ## The runs of each test -/

/-- The result of a test: all runs that the report holds for it, in the order of the report, or one
failure which says that the test did not run. -/
def resultOf (wall : Timestamp) (results : List EntryResult) (e : TestEntry) : EntryResult :=
  match reportedRuns results e with
  | [] => .didNotRun wall "" "" e
  | run :: runs => ⟨e, run :: runs⟩

theorem mergeResults_eq_map (wall : Timestamp) (results : List EntryResult)
    {before es : List TestEntry} (apart : ∀ e ∈ es, e ∉ before) (nodup : es.Nodup) :
    mergeResults wall results before es = es.map (resultOf wall results) := by
  induction es generalizing before with
  | nil => rfl
  | cons e es ih =>
    obtain ⟨notIn, nodup⟩ := List.nodup_cons.1 nodup
    have first : before.contains e = false := by
      simpa using apart e List.mem_cons_self
    have later : ∀ e' ∈ es, e' ∉ e :: before := fun e' mem => by
      rw [List.mem_cons, not_or]
      exact ⟨fun same => notIn (same ▸ mem), apart e' (List.mem_cons_of_mem _ mem)⟩
    rw [mergeResults, ih later nodup, List.map_cons, resultOf, first]
    cases reportedRuns results e <;> rfl

/-! ## Verdicts -/

section Verdicts

variable (q : JobQueue) (b : BucketId) (w : WorkerId) (report : BucketReport) (now : Instant)
  (wall : Timestamp)

/-- Why a report is rejected: the bucket is not in flight, or it is in flight with another worker,
or it does not hold all tests that the report names. -/
inductive Refused : Rejection → Prop where
  | notFound (none : q.inFlight.get? b = none) : Refused .bucketNotFound
  | notOwned {f : InFlightBucket} (inFlight : q.inFlight.get? b = some f) (other : f.worker ≠ w) :
      Refused (.workerDoesNotOwnBucket f.worker)
  | mismatch {f : InFlightBucket} (inFlight : q.inFlight.get? b = some f) (owner : f.worker = w)
      (foreign : ∃ r ∈ report.results, r.entry ∉ f.bucket.entries) :
      Refused (.resultsDoNotMatchRequest (foreignEntries f.bucket report.results))

theorem accept_eq_error_iff {reason : Rejection} :
    q.accept b w report now wall = .error reason ↔ Refused q b w report reason := by
  rw [accept]
  constructor
  · intro h
    split at h
    · rename_i none
      cases h
      exact .notFound none
    rename_i f inFlight
    split at h
    · rename_i other
      cases h
      exact .notOwned inFlight other
    rename_i owner
    dsimp only at h
    split at h
    · rename_i some
      cases h
      rw [Bool.not_eq_true', List.isEmpty_eq_false_iff, unexpectedEntries_eq, ne_eq,
        foreignEntries_eq_nil_iff] at some
      rw [unexpectedEntries_eq]
      exact .mismatch inFlight (Decidable.not_not.1 owner) (by simpa using some)
    · cases h
  · rintro (none | ⟨inFlight, other⟩ | ⟨inFlight, rfl, foreign⟩)
    · rw [none]
    · rw [inFlight]
      dsimp only
      rw [if_pos other]
    · have some : foreignEntries _ report.results ≠ [] := fun none => by
        obtain ⟨r, hr, notIn⟩ := foreign
        exact notIn (foreignEntries_eq_nil_iff.1 none r hr)
      rw [inFlight]
      dsimp only
      rw [if_neg fun other => other rfl, unexpectedEntries_eq,
        if_pos (by simpa using some)]

/-- A queue judges a report on a bucket. A rejected report leaves it as it is. If the worker that
has the bucket in flight reports on tests of the bucket only, the report is accepted, and the bucket
is in flight no more: there is one result for each entry, in the order of the bucket, which holds
all runs that were reported for the entry if the bucket lists it once; and the results are parted
into those that are final and the tests that run again. -/
structure JudgesExactly : Prop where
  rejected : ∀ reason, q.accept b w report now wall = .error reason ↔ Refused q b w report reason
  unchanged : ∀ reason, Refused q b w report reason →
    q.perform (.accept b w report now wall) = q
  accepted : ∀ f, q.inFlight.get? b = some f → f.worker = w →
    (∀ r ∈ report.results, r.entry ∈ f.bucket.entries) →
    ∃ merged results retry q', q.accept b w report now wall = .ok (⟨f, results, retry⟩, q') ∧
      q'.inFlight = q.inFlight.erase b ∧ merged.map (·.entry) = f.bucket.entries ∧
      (f.bucket.entries.Nodup → merged = f.bucket.entries.map (resultOf wall report.results)) ∧
      SplitOff q b f.bucket (q.lineageOf b) merged now (results, retry, q')

end Verdicts

/-- After any run of a new queue, the queue judges every report exactly. -/
theorem judgesExactly_run (ops : List Operation) (b : BucketId) (w : WorkerId)
    (report : BucketReport) (now : Instant) (wall : Timestamp) :
    (empty.run ops).JudgesExactly b w report now wall := by
  generalize state : empty.run ops = q
  have placed := state ▸ placed_run ops
  refine ⟨fun reason => accept_eq_error_iff .., fun reason refused => ?_,
    fun f inFlight owner expected => ?_⟩
  · rw [perform, (accept_eq_error_iff ..).2 refused]
    rfl
  · obtain ⟨a, q', ok⟩ := exists_accept_eq_ok inFlight expected now wall
    rw [owner] at ok
    obtain ⟨inFlight', -, -, parts⟩ := accept_eq_ok_iff.1 ok
    obtain rfl := Option.some.inj (inFlight.symm.trans inFlight')
    have split := splitOff_settled q b a.taken.bucket
      (mergeResults wall report.results [] a.taken.bucket.entries) now
    have id : a.taken.bucket.id = b := placed.own b a.taken inFlight
    rw [parts, id] at split
    refine ⟨_, a.results, a.retry, q', ok, ?_, entries_mergeResults .., fun nodup => ?_, split⟩
    · cases (of_accept_ok ok).2.2.2 <;> rfl
    · exact mergeResults_eq_map wall report.results (fun _ _ => List.not_mem_nil) nodup

end TestFleet.JobQueue
