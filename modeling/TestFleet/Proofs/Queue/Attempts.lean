import Mathlib.Data.List.Nodup
import TestFleet.Proofs.Queue.Places

/-!
# Attempts at a bucket

Every accepted report is an attempt at a bucket. Tests that fail while attempts are left are put
back in a bucket of their own, at which there may be an attempt again, and so on: the attempts that
descend from one bucket are a list, which never gets longer than the bucket's budget allows.

* `attempts`: the attempts of a run, as the queue made them;
* `descent`: the attempts that descend from a bucket, each at what the one before put back;
* `Tried`: a descent in which every attempt ended as it should;
* `Tried.withinBudget`: how many attempts such a descent has, and what it records.
-/

namespace TestFleet

/-- An accepted report on a bucket. -/
structure Attempt where
  bucket : Bucket
  /-- What became of the tests of the bucket, one result each. -/
  outcomes : List EntryResult
  /-- The results that were recorded. -/
  results : List EntryResult
  /-- The bucket that was put back to run failed tests again. -/
  retry : Option Bucket
  /-- The ids that the queue knew when the report came in. -/
  known : List BucketId

namespace JobQueue

/-- The attempt that an operation makes, if it accepts a report. -/
def attempt (q : JobQueue) : Operation → List Attempt
  | .accept b w report now wall =>
    match q.accept b w report now wall with
    | .error _ => []
    | .ok (a, q') => [{
        bucket := a.taken.bucket
        outcomes := mergeResults wall report.results [] a.taken.bucket.entries
        results := a.results
        retry := (q'.waiting.map (·.bucket)).find? fun b => some b.id = a.retry
        known := q.known.keys }]
  | _ => []

/-- The attempts along a run. -/
def attempts (q : JobQueue) : List Operation → List Attempt
  | [] => []
  | op :: ops => q.attempt op ++ (q.perform op).attempts ops

/-- The buckets that an operation takes in. -/
def takesIn (q : JobQueue) : Operation → List Bucket
  | .enqueue buckets now => if (q.enqueue buckets now).isOk then buckets else []
  | _ => []

/-- The buckets that were taken in along a run. -/
def tookIn (q : JobQueue) : List Operation → List Bucket
  | [] => []
  | op :: ops => q.takesIn op ++ (q.perform op).tookIn ops

end JobQueue

/-! ## Descents -/

/-- The attempts that descend from a bucket, and the bucket that is to be attempted next. -/
structure Descent where
  attempts : List Attempt
  next : Option Bucket

namespace Descent

/-- Goes on with an attempt, if it is at the bucket that comes next. -/
def step (c : Descent) (a : Attempt) : Descent :=
  match c.next with
  | none => c
  | some b => if a.bucket.id = b.id then ⟨c.attempts ++ [a], a.retry⟩ else c

end Descent

/-- The descent of a bucket through a list of attempts. -/
def descent (r : Bucket) (as : List Attempt) : Descent := as.foldl Descent.step ⟨[], some r⟩

theorem descent_concat (r : Bucket) (as : List Attempt) (a : Attempt) :
    descent r (as ++ [a]) = (descent r as).step a := by
  rw [descent, List.foldl_append]
  rfl

theorem Descent.step_of_eq {c : Descent} {a : Attempt} (next : c.next = some a.bucket) :
    c.step a = ⟨c.attempts ++ [a], a.retry⟩ := by
  rw [Descent.step, next]
  exact if_pos rfl

theorem Descent.step_of_ne {c : Descent} {a : Attempt}
    (other : ∀ b, c.next = some b → b.id ≠ a.bucket.id) : c.step a = c := by
  rw [Descent.step]
  cases next : c.next with
  | none => rfl
  | some b => exact if_neg fun same => other b next same.symm

/-- Attempts at other buckets are not part of a descent. -/
theorem descent_of_forall_ne {r : Bucket} {as : List Attempt}
    (other : ∀ a ∈ as, a.bucket.id ≠ r.id) : descent r as = ⟨[], some r⟩ := by
  induction as with
  | nil => rfl
  | cons a as ih =>
    obtain ⟨first, rest⟩ := List.forall_mem_cons.1 other
    have skip : Descent.step ⟨[], some r⟩ a = ⟨[], some r⟩ :=
      Descent.step_of_ne fun b next => by
        cases next
        exact Ne.symm first
    rw [descent, List.foldl_cons, skip]
    exact ih rest

/-! ## How attempts end -/

/-- How an attempt ends that has the number `l.attempt` in the descent of `l.root`: with nothing put
back and all outcomes recorded, or with the failed tests put back and the others recorded. -/
inductive Attempt.Ends (l : Lineage) (a : Attempt) : Prop where
  | final (retry : a.retry = none) (results : a.results.Perm a.outcomes)
      (why : (∀ x ∈ a.outcomes, x.succeeded = true) ∨ a.bucket.retries.toNat ≤ l.attempt ∨
        l.next.bucketId ∈ a.known)
  | again (left : l.attempt < a.bucket.retries.toNat)
      (results : a.results = a.outcomes.filter EntryResult.succeeded)
      (retry : a.retry = some ⟨l.next.bucketId,
        (a.outcomes.filter fun x => !x.succeeded).map (·.entry), a.bucket.configuration⟩)

/-- A descent of `r` in which every attempt ended as it should. -/
inductive Tried (r : Bucket) : Descent → Prop where
  | start : Tried r ⟨[], some r⟩
  | step {as : List Attempt} {a : Attempt} (before : Tried r ⟨as, some a.bucket⟩)
      (outcomes : a.outcomes.map (·.entry) = a.bucket.entries)
      (ends : a.Ends ⟨r.id, as.length⟩) : Tried r ⟨as ++ [a], a.retry⟩

/-- What the attempts that descend from the bucket `r` are, and what they record. Each is at the
bucket that the one before put back, which has the next id in order, the configuration of `r`, and
the tests that failed before. A test that passes is recorded at once, and no later attempt runs it;
that it failed is recorded only if no attempt is left, or if the next id was taken. A test whose
outcome is not recorded is put back. -/
structure WithinBudget (r : Bucket) (as : List Attempt) : Prop where
  first : ∀ a, as[0]? = some a → a.bucket = r
  next : ∀ (i : Nat) a a', as[i]? = some a → as[i + 1]? = some a' → a.retry = some a'.bucket
  retry : ∀ (i : Nat) a b, as[i]? = some a → a.retry = some b →
    i < r.retries.toNat ∧ b.id = Lineage.bucketId ⟨r.id, i + 1⟩ ∧
      b.configuration = r.configuration ∧
      b.entries = (a.outcomes.filter fun x => !x.succeeded).map (·.entry)
  length : as.length ≤ r.retries.toNat + 1
  outcomes : ∀ a ∈ as, a.outcomes.map (·.entry) = a.bucket.entries
  recorded : ∀ a ∈ as, ∀ x ∈ a.results, x ∈ a.outcomes
  passed : ∀ a ∈ as, ∀ x ∈ a.outcomes, x.succeeded = true → x ∈ a.results
  again : as.Pairwise fun before later => ∀ e ∈ later.bucket.entries,
    (∃ x ∈ before.outcomes, x.entry = e) ∧
      ∀ x ∈ before.outcomes, x.entry = e → x.succeeded = false ∧ x ∉ before.results
  failed : ∀ (i : Nat) a x, as[i]? = some a → x ∈ a.results → x.succeeded = false →
    i = r.retries.toNat ∨ Lineage.bucketId ⟨r.id, i + 1⟩ ∈ a.known
  putBack : ∀ a ∈ as, ∀ x ∈ a.outcomes, x ∉ a.results →
    ∃ b, a.retry = some b ∧ x.entry ∈ b.entries

namespace Attempt.Ends

variable {l : Lineage} {a : Attempt}

theorem mem_outcomes (h : a.Ends l) {x : EntryResult} (hx : x ∈ a.results) : x ∈ a.outcomes := by
  cases h with
  | final _ results => exact results.mem_iff.1 hx
  | again _ results =>
    rw [results] at hx
    exact List.mem_of_mem_filter hx

theorem mem_results (h : a.Ends l) {x : EntryResult} (hx : x ∈ a.outcomes)
    (passed : x.succeeded = true) : x ∈ a.results := by
  cases h with
  | final _ results => exact results.mem_iff.2 hx
  | again _ results =>
    rw [results]
    exact List.mem_filter.2 ⟨hx, passed⟩

/-- A failure is recorded only if no attempt is left, or if the next id was taken. -/
theorem of_failed (h : a.Ends l) {x : EntryResult} (hx : x ∈ a.results)
    (failed : x.succeeded = false) :
    a.bucket.retries.toNat ≤ l.attempt ∨ l.next.bucketId ∈ a.known := by
  cases h with
  | final _ results why =>
    rcases why with allPassed | why
    · rw [allPassed x (results.mem_iff.1 hx)] at failed
      cases failed
    · exact why
  | again _ results =>
    rw [results, List.mem_filter, failed] at hx
    cases hx.2

theorem of_retry (h : a.Ends l) {b : Bucket} (retry : a.retry = some b) :
    l.attempt < a.bucket.retries.toNat ∧
      a.results = a.outcomes.filter EntryResult.succeeded ∧
      b = ⟨l.next.bucketId, (a.outcomes.filter fun x => !x.succeeded).map (·.entry),
        a.bucket.configuration⟩ := by
  cases h with
  | final none =>
    rw [none] at retry
    cases retry
  | again left results some =>
    rw [some] at retry
    exact ⟨left, results, (Option.some.inj retry).symm⟩

/-- A test whose outcome is not recorded is put back. -/
theorem of_not_mem_results (h : a.Ends l) {x : EntryResult} (hx : x ∈ a.outcomes)
    (missing : x ∉ a.results) : ∃ b, a.retry = some b ∧ x.entry ∈ b.entries := by
  cases h with
  | final _ results => exact absurd (results.mem_iff.2 hx) missing
  | again _ results retry =>
    rw [results, List.mem_filter] at missing
    have failed : (!x.succeeded) = true := by simpa [hx] using missing
    exact ⟨_, retry, List.mem_map_of_mem (List.mem_filter.2 ⟨hx, failed⟩)⟩

end Attempt.Ends

namespace Tried

variable {r : Bucket} {c : Descent}

/-- The bucket that comes next is within the budget. -/
theorem next_le (h : Tried r c) {b : Bucket} (next : c.next = some b) :
    c.attempts.length ≤ r.retries.toNat ∧ b.configuration = r.configuration := by
  induction h generalizing b with
  | start =>
    cases next
    exact ⟨Nat.zero_le _, rfl⟩
  | step before outcomes ends ih =>
    obtain ⟨-, same⟩ := ih rfl
    obtain ⟨left, -, rfl⟩ := ends.of_retry next
    rw [Bucket.retries, same] at left
    rw [List.length_append]
    exact ⟨left, same⟩

theorem retries_eq {as : List Attempt} {a : Attempt} (before : Tried r ⟨as, some a.bucket⟩) :
    a.bucket.retries = r.retries := by
  rw [Bucket.retries, (before.next_le rfl).2, Bucket.retries]

theorem length_le (h : Tried r c) : c.attempts.length ≤ r.retries.toNat + 1 := by
  cases h with
  | start => exact Nat.zero_le _
  | step before =>
    rw [List.length_append]
    exact Nat.succ_le_succ (before.next_le rfl).1

/-- What holds of each attempt and its number holds of all attempts, if it holds of the last. -/
theorem forall_getElem? {P : Nat → Attempt → Prop} (h : Tried r c)
    (last : ∀ as a, Tried r ⟨as, some a.bucket⟩ → a.outcomes.map (·.entry) = a.bucket.entries →
      a.Ends ⟨r.id, as.length⟩ → P as.length a) :
    ∀ i a, c.attempts[i]? = some a → P i a := by
  induction h with
  | start =>
    intro i a ha
    cases ha
  | @step as a before outcomes ends ih =>
    intro i x hx
    rcases Nat.lt_or_ge i as.length with less | more
    · rw [List.getElem?_append_left less] at hx
      exact ih i x hx
    · rw [List.getElem?_append_right more, List.getElem?_singleton] at hx
      split at hx
      · rename_i isLast
        cases hx
        obtain rfl : i = as.length := by omega
        exact last as a before outcomes ends
      · cases hx

theorem forall_mem {P : Attempt → Prop} (h : Tried r c)
    (last : ∀ as a, Tried r ⟨as, some a.bucket⟩ → a.outcomes.map (·.entry) = a.bucket.entries →
      a.Ends ⟨r.id, as.length⟩ → P a) : ∀ a ∈ c.attempts, P a := by
  intro a ha
  obtain ⟨i, hi⟩ := List.mem_iff_getElem?.1 ha
  exact h.forall_getElem? (P := fun _ => P) last i a hi

/-- The last attempt put back the bucket that comes next. -/
theorem retry_getLast? (h : Tried r c) {a : Attempt} (last : c.attempts.getLast? = some a) :
    a.retry = c.next := by
  cases h with
  | start => cases last
  | step =>
    rw [List.getLast?_concat] at last
    cases last
    rfl

theorem next_of_attempts_eq_nil (h : Tried r c) (none : c.attempts = []) : c.next = some r := by
  cases h with
  | start => rfl
  | step => simp at none

theorem retry_getElem? (h : Tried r c) {i : Nat} {a a' : Attempt} (ha : c.attempts[i]? = some a)
    (ha' : c.attempts[i + 1]? = some a') : a.retry = some a'.bucket := by
  induction h with
  | start => cases ha
  | @step as x before outcomes ends ih =>
    have inside : i < as.length := by
      have := (List.getElem?_eq_some_iff.1 ha').1
      rw [List.length_append, List.length_singleton] at this
      omega
    rw [List.getElem?_append_left inside] at ha
    rcases Nat.lt_or_ge (i + 1) as.length with less | more
    · rw [List.getElem?_append_left less] at ha'
      exact ih ha ha'
    · obtain rfl : i = as.length - 1 := by omega
      rw [List.getElem?_append_right more, show as.length - 1 + 1 - as.length = 0 by omega] at ha'
      cases ha'
      rw [← List.getLast?_eq_getElem?] at ha
      exact before.retry_getLast? ha

/-- Every test of the bucket that comes next has failed in every attempt so far, and that it did is
recorded nowhere. -/
theorem entries_next (h : Tried r c) (distinct : r.entries.Nodup) {b : Bucket}
    (next : c.next = some b) : b.entries.Nodup ∧ ∀ a ∈ c.attempts, ∀ e ∈ b.entries,
      (∃ x ∈ a.outcomes, x.entry = e) ∧
        ∀ x ∈ a.outcomes, x.entry = e → x.succeeded = false ∧ x ∉ a.results := by
  induction h generalizing b with
  | start =>
    cases next
    exact ⟨distinct, fun _ ha => absurd ha List.not_mem_nil⟩
  | @step as a before outcomes ends ih =>
    obtain ⟨nodup, earlier⟩ := ih rfl
    obtain ⟨-, results, rfl⟩ := ends.of_retry next
    rw [← outcomes] at nodup
    refine ⟨nodup.sublist (List.filter_sublist.map _), fun x hx e he => ?_⟩
    obtain ⟨y, hy, rfl⟩ := List.mem_map.1 he
    obtain ⟨hy, failed⟩ := List.mem_filter.1 hy
    rcases List.mem_append.1 hx with hx | hx
    · exact earlier x hx y.entry (outcomes ▸ List.mem_map_of_mem hy)
    · obtain rfl := List.mem_singleton.1 hx
      refine ⟨⟨y, hy, rfl⟩, fun z hz same => ?_⟩
      obtain rfl := List.inj_on_of_nodup_map nodup hz hy same
      rw [Bool.not_eq_true'] at failed
      refine ⟨failed, fun recorded => ?_⟩
      rw [results, List.mem_filter, failed] at recorded
      cases recorded.2

theorem pairwise_again (h : Tried r c) (distinct : r.entries.Nodup) :
    c.attempts.Pairwise fun before later => ∀ e ∈ later.bucket.entries,
      (∃ x ∈ before.outcomes, x.entry = e) ∧
        ∀ x ∈ before.outcomes, x.entry = e → x.succeeded = false ∧ x ∉ before.results := by
  induction h with
  | start => exact .nil
  | @step as a before outcomes ends ih =>
    refine List.pairwise_append.2 ⟨ih, List.pairwise_singleton _ _, fun x hx y hy => ?_⟩
    obtain rfl := List.mem_singleton.1 hy
    exact (before.entries_next distinct rfl).2 x hx

theorem withinBudget (h : Tried r c) (distinct : r.entries.Nodup) :
    WithinBudget r c.attempts where
  first a ha := by
    refine h.forall_getElem? (P := fun i a => i = 0 → a.bucket = r)
      (fun as a before _ _ none => ?_) 0 a ha rfl
    exact Option.some.inj (before.next_of_attempts_eq_nil (List.length_eq_zero_iff.1 none))
  next i a a' ha ha' := h.retry_getElem? ha ha'
  retry i a b ha retry := by
    refine h.forall_getElem? (P := fun i a => a.retry = some b → i < r.retries.toNat ∧
      b.id = Lineage.bucketId ⟨r.id, i + 1⟩ ∧ b.configuration = r.configuration ∧
      b.entries = (a.outcomes.filter fun x => !x.succeeded).map (·.entry))
      (fun as a before _ ends retry => ?_) i a ha retry
    obtain ⟨left, -, rfl⟩ := ends.of_retry retry
    rw [before.retries_eq] at left
    exact ⟨left, rfl, (before.next_le rfl).2, rfl⟩
  length := h.length_le
  outcomes := h.forall_mem fun _ _ _ outcomes _ => outcomes
  recorded := h.forall_mem fun _ _ _ _ ends _ => ends.mem_outcomes
  passed := h.forall_mem fun _ _ _ _ ends _ => ends.mem_results
  again := h.pairwise_again distinct
  failed i a x ha hx failed := by
    refine h.forall_getElem? (P := fun i a => x ∈ a.results → i = r.retries.toNat ∨
      Lineage.bucketId ⟨r.id, i + 1⟩ ∈ a.known) (fun as a before _ ends hx => ?_) i a ha hx
    refine (ends.of_failed hx failed).imp (fun spent => ?_) id
    rw [before.retries_eq] at spent
    exact Nat.le_antisymm (before.next_le rfl).1 spent
  putBack := h.forall_mem fun _ _ _ _ ends _ => ends.of_not_mem_results

end Tried

end TestFleet
