import TestFleet.Queue.Split

/-!
# Splitting keeps every test

However a job is split, its buckets hold exactly the tests it was given, as often as they were
given.

* `entries_ofTests`: grouping neither loses nor invents tests;
* `flatten_cut`: nor does cutting a group, in any of the four ways;
* `entries_split`: nor does a split.
-/

namespace TestFleet

/-! ## Grouping -/

namespace TestGroup

theorem entries_place (t : ConfiguredTest) (gs : List TestGroup) :
    ((place t gs).flatMap (·.entries)).Perm (t.entry :: gs.flatMap (·.entries)) := by
  induction gs with
  | nil => exact .refl _
  | cons g gs ih =>
    rw [place]
    split
    · simp only [List.flatMap_cons, List.append_assoc, List.singleton_append]
      exact List.perm_middle
    · rw [List.flatMap_cons, List.flatMap_cons]
      exact (ih.append_left _).trans List.perm_middle

theorem entries_ofTests (tests : List ConfiguredTest) :
    ((ofTests tests).flatMap (·.entries)).Perm (tests.map (·.entry)) := by
  -- The fold adds to whatever groups it starts from.
  suffices ∀ gs : List TestGroup, ((tests.foldl (fun gs t => place t gs) gs).flatMap
      (·.entries)).Perm (gs.flatMap (·.entries) ++ tests.map (·.entry)) from this []
  induction tests with
  | nil => exact fun gs => .of_eq (List.append_nil _).symm
  | cons t ts ih =>
    intro gs
    rw [List.foldl_cons, List.map_cons]
    refine (ih _).trans (((entries_place t gs).append_right _).trans ?_)
    exact List.perm_middle.symm

end TestGroup

/-! ## Cutting -/

namespace SplitStrategy

variable {α : Type}

theorem flatten_runs (size : Nat) (xs : List α) : (runs size xs).flatten = xs := by
  fun_induction runs size xs with
  | case1 => rfl
  | case2 x xs ih => rw [List.flatten_cons, ih, List.cons_append, List.take_append_drop]

/-- What is dealt to the first `n` hands is all that has a smaller number. -/
theorem perm_flatMap_range (number : α → Nat) (n : Nat) (xs : List α) :
    ((List.range n).flatMap fun i => xs.filter fun x => number x == i).Perm
      (xs.filter fun x => number x < n) := by
  induction n with
  | zero => simp
  | succ n ih =>
    have below : (xs.filter fun x => number x < n + 1).filter (fun x => number x < n) =
        xs.filter fun x => number x < n := by
      rw [List.filter_filter]
      refine List.filter_congr fun x _ => ?_
      rw [Bool.eq_iff_iff, Bool.and_eq_true, decide_eq_true_eq, decide_eq_true_eq]
      omega
    have last : (xs.filter fun x => number x < n + 1).filter (fun x => !decide (number x < n)) =
        xs.filter fun x => number x == n := by
      rw [List.filter_filter]
      refine List.filter_congr fun x _ => ?_
      rw [Bool.eq_iff_iff, Bool.and_eq_true, Bool.not_eq_true', decide_eq_false_iff_not,
        decide_eq_true_eq, beq_iff_eq]
      omega
    have parts := List.filter_append_perm (fun x => decide (number x < n))
      (xs.filter fun x => number x < n + 1)
    rw [below, last] at parts
    rw [List.range_succ, List.flatMap_append, List.flatMap_singleton]
    exact (ih.append_right _).trans parts

theorem flatten_deal {n : Nat} (hands : 0 < n) (xs : List α) : (deal n xs).flatten.Perm xs := by
  have dealt : (deal n xs).flatten =
      ((List.range n).flatMap fun i => xs.zipIdx.filter fun x => x.2 % n == i).map (·.1) := by
    rw [deal, ← List.flatMap_def, List.map_flatMap]
  have all : (xs.zipIdx.filter fun x => x.2 % n < n) = xs.zipIdx :=
    List.filter_eq_self.2 fun x _ => decide_eq_true (Nat.mod_lt _ hands)
  have perm := (perm_flatMap_range (fun x : α × Nat => x.2 % n) n xs.zipIdx).map (·.1)
  rw [all, List.zipIdx_map_fst] at perm
  rw [dealt]
  exact perm

theorem flatten_cut (strategy : SplitStrategy) (workers : Nat) (entries : List TestEntry) :
    (strategy.cut workers entries).flatten.Perm entries := by
  cases strategy with
  | unsplit => exact .of_eq (List.append_nil _)
  | individual => exact .of_eq (by rw [cut, ← List.flatMap_def, List.flatMap_singleton'])
  | equallyDivided =>
    rw [cut]
    cases entries with
    | nil => simp [deal]
    | cons e es => exact flatten_deal (by simp only [List.length_cons]; omega) _
  | fixedBucketSize size => exact .of_eq (flatten_runs _ _)

end SplitStrategy

/-! ## Splitting -/

theorem flatMap_splitParts (strategy : SplitStrategy) (workers : Nat)
    (tests : List ConfiguredTest) :
    ((splitParts strategy workers tests).flatMap (·.1)).Perm (tests.map (·.entry)) := by
  refine .trans ?_ (TestGroup.entries_ofTests tests)
  rw [splitParts, List.flatMap_assoc]
  induction TestGroup.ofTests tests with
  | nil => exact .refl _
  | cons g gs ih =>
    rw [List.flatMap_cons, List.flatMap_cons, List.flatMap_map]
    refine List.Perm.append ?_ ih
    rw [List.flatMap_id']
    exact strategy.flatten_cut workers g.entries

/-- The buckets of a split hold the tests that were split, each as often as it was given. -/
theorem entries_split {job : JobId} {strategy : SplitStrategy} {workers : Nat}
    {tests : List ConfiguredTest} {buckets : List Bucket}
    (ok : split job strategy workers tests = .ok buckets) :
    (buckets.flatMap (·.entries)).Perm (tests.map (·.entry)) := by
  rw [split] at ok
  split at ok
  · cases ok
  cases ok
  refine .trans (.of_eq ?_) (flatMap_splitParts strategy workers tests)
  rw [List.flatMap_def, List.flatMap_def]
  refine congrArg List.flatten (List.ext_getElem? fun i => ?_)
  rw [List.getElem?_map, List.getElem?_mapIdx, List.getElem?_map, Option.map_map]
  rfl

end TestFleet
