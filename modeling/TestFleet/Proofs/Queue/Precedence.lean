import TestFleet.Queue.Precedence
import TestFleet.Proofs.Sorting

/-!
# The usual precedence

The rule that ranks jobs, said in one sentence, and what follows for the ranking: it compares any
two jobs, and of jobs that were not created at the same time exactly one comes first.

* `Candidate.Precedes`: priority, then preference, then fairness, then age;
* `priorityThenFairness_ne_gt_iff`: the rule compares by it;
* `precedes_of_rank_eq_cons`: the job that is ranked first precedes all others;
* `rank_eq_of_perm`: the ranking does not depend on the order in which the jobs are listed.
-/

namespace TestFleet

/-- The job `a` comes before the job `b`: it has the greater priority; or, of one priority, only it
prefers the worker; or, alike in that too, it has fewer buckets in flight, or as many and is the
older one. -/
def Candidate.Precedes (a b : Candidate) : Prop :=
  b.priority.rank < a.priority.rank ∨ a.priority = b.priority ∧
    (a.isPreferred = true ∧ b.isPreferred = false ∨ a.isPreferred = b.isPreferred ∧
      (a.dequeued < b.dequeued ∨ a.dequeued = b.dequeued ∧ a.sequence < b.sequence))

namespace Precedence

variable {a b c : Candidate} {cs cs' : List Candidate}

/-- The four numbers by which candidates are compared. -/
theorem precedes_iff : a.Precedes b ↔ b.priority.rank.toNat < a.priority.rank.toNat ∨
    a.priority.rank.toNat = b.priority.rank.toNat ∧
      (b.isPreferred.toNat < a.isPreferred.toNat ∨ a.isPreferred.toNat = b.isPreferred.toNat ∧
        (a.dequeued < b.dequeued ∨ a.dequeued = b.dequeued ∧ a.sequence < b.sequence)) := by
  have priority : a.priority = b.priority ↔
      a.priority.rank.toNat = b.priority.rank.toNat := by
    rw [UInt32.toNat_inj, JobPriority.mk.injEq]
  have preference : a.isPreferred = true ∧ b.isPreferred = false ↔
      b.isPreferred.toNat < a.isPreferred.toNat := by
    cases a.isPreferred <;> cases b.isPreferred <;> simp
  have alike : a.isPreferred = b.isPreferred ↔
      a.isPreferred.toNat = b.isPreferred.toNat := by
    cases a.isPreferred <;> cases b.isPreferred <;> simp
  rw [Candidate.Precedes, priority, preference, alike, UInt32.lt_iff_toNat_lt]

theorem priorityThenFairness_eq_gt_iff : priorityThenFairness a b = .gt ↔ b.Precedes a := by
  simp only [priorityThenFairness, precedes_iff, Ordering.then_eq_gt, Nat.compare_eq_gt,
    Nat.compare_eq_eq]
  omega

theorem priorityThenFairness_ne_gt_iff :
    (priorityThenFairness a b != .gt) = true ↔ ¬b.Precedes a := by
  rw [bne_iff_ne, ne_eq, priorityThenFairness_eq_gt_iff]

theorem precedes_or_precedes (h : a.sequence ≠ b.sequence) : a.Precedes b ∨ b.Precedes a := by
  rw [precedes_iff, precedes_iff]
  omega

theorem not_precedes_of_precedes (h : a.Precedes b) : ¬b.Precedes a := by
  rw [precedes_iff] at *
  omega

/-! ## The ranking -/

theorem ranks_trans (a b c : Candidate) (hab : (priorityThenFairness a b != .gt) = true)
    (hbc : (priorityThenFairness b c != .gt) = true) :
    (priorityThenFairness a c != .gt) = true := by
  rw [priorityThenFairness_ne_gt_iff, precedes_iff] at *
  omega

theorem ranks_total (a b : Candidate) :
    (priorityThenFairness a b != .gt) = true ∨ (priorityThenFairness b a != .gt) = true := by
  rw [priorityThenFairness_ne_gt_iff, priorityThenFairness_ne_gt_iff, precedes_iff, precedes_iff]
  omega

/-- As long as there is a candidate, one is ranked first. -/
theorem exists_rank_eq_cons (p : Precedence) (some : cs ≠ []) :
    ∃ c rest, p.rank cs = c :: rest := by
  refine List.exists_cons_of_ne_nil fun none => some ?_
  rw [← List.length_eq_zero_iff, ← length_sortBy (fun a b => p a b != .gt) cs, ← rank, none,
    List.length_nil]

/-- The candidate that is ranked first precedes each that is not of its age. -/
theorem precedes_of_rank_eq_cons {rest : List Candidate}
    (h : priorityThenFairness.rank cs = a :: rest) (hb : b ∈ cs) (ages : a.sequence ≠ b.sequence) :
    a.Precedes b := by
  have first := le_of_sortBy_eq_cons ranks_trans ranks_total h hb
  rw [priorityThenFairness_ne_gt_iff] at first
  exact (precedes_or_precedes ages).resolve_right first

/-- Candidates that are all of different ages are ranked in one way. -/
theorem rank_eq_of_perm (ages : ∀ a ∈ cs, ∀ b ∈ cs, a.sequence = b.sequence → a = b)
    (perm : cs.Perm cs') : priorityThenFairness.rank cs = priorityThenFairness.rank cs' := by
  refine sortBy_eq_of_perm ranks_trans ranks_total (fun a ha b hb hab hba => ?_) perm
  rw [priorityThenFairness_ne_gt_iff] at hab hba
  refine ages a ha b hb (Decidable.byContradiction fun other => ?_)
  exact (precedes_or_precedes other).elim hba hab

end Precedence

end TestFleet
