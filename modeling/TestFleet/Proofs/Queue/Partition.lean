import Mathlib.Data.List.Forall2
import TestFleet.Proofs.Queue.Grouping
import TestFleet.Proofs.Queue.Split

/-!
# A split is a partition

Each group of tests is cut on its own, in the way the strategy says, and the buckets hold every
test once, none of them empty or with an entry twice, and none of them with tests of different
configurations.

* `inRuns_runs`, `dealt_deal`: the two ways of cutting that need arithmetic;
* `cutsInto_cut`: every way of cutting does what its strategy says;
* `entriesOf_ofTests`: grouping keeps the tests of each configuration;
* `split_partitions`: what becomes of every list of tests.
-/

namespace TestFleet

/-! ## Cutting -/

/-- Parts that make up a list one after another, all of the same size but the last, which may be
shorter. -/
structure InRuns {α : Type} (size : Nat) (xs : List α) (parts : List (List α)) : Prop where
  size_pos : 0 < size
  flatten : parts.flatten = xs
  full : ∀ p ∈ parts.dropLast, p.length = size
  rest : ∀ p ∈ parts.getLast?, 1 ≤ p.length ∧ p.length ≤ size

/-- Parts that a list is dealt out to in turn, so that their sizes hardly differ. -/
structure Dealt {α : Type} (hands : Nat) (xs : List α) (parts : List (List α)) : Prop where
  hands_pos : 0 < hands
  length : parts.length = hands
  place : ∀ n, (parts[n % hands]?.bind fun p => p[n / hands]?) = xs[n]?
  even : ∀ p ∈ parts, ∀ p' ∈ parts, p.length ≤ p'.length + 1

namespace SplitStrategy

variable {α : Type}

/-- What cutting a group of entries has to come to. -/
def CutsInto (workers : Nat) (entries : List TestEntry) (parts : List (List TestEntry)) :
    SplitStrategy → Prop
  | unsplit => parts = [entries]
  | individual => parts = entries.map fun e => [e]
  | fixedBucketSize size => InRuns size.toNat entries parts
  | equallyDivided => Dealt (min (max workers 1) entries.length) entries parts

theorem runs_eq_nil_iff {size : Nat} {xs : List α} : runs size xs = [] ↔ xs = [] := by
  cases xs with
  | nil => simp [runs]
  | cons x xs => simp [runs]

theorem inRuns_runs {size : Nat} (pos : 0 < size) (xs : List α) :
    InRuns size xs (runs size xs) := by
  refine ⟨pos, flatten_runs size xs, ?_, ?_⟩
  · fun_induction runs size xs with
    | case1 => simp
    | case2 x xs ih =>
      intro p hp
      cases rest : runs size (xs.drop (size - 1)) with
      | nil => simp [rest] at hp
      | cons q qs =>
        rw [rest, List.dropLast_cons_cons, List.mem_cons] at hp
        rcases hp with rfl | hp
        · -- Something is left behind this part, so it is full.
          have left : xs.drop (size - 1) ≠ [] := fun none => by
            simp [runs_eq_nil_iff.2 none] at rest
          have := List.length_pos_of_ne_nil left
          simp only [List.length_drop, List.length_cons, List.length_take] at this ⊢
          omega
        · exact ih p (rest ▸ hp)
  · fun_induction runs size xs with
    | case1 => simp
    | case2 x xs ih =>
      intro p hp
      cases rest : runs size (xs.drop (size - 1)) with
      | nil =>
        rw [rest, List.getLast?_singleton, Option.mem_some_iff] at hp
        subst hp
        simp only [List.length_cons, List.length_take]
        omega
      | cons q qs =>
        rw [rest, List.getLast?_cons_cons] at hp
        exact ih p (rest ▸ hp)

/-- One hand: of elements numbered from `k` on it gets the first one whose number fits, which is
`d` places on, and then every `n`-th. -/
theorem getElem?_hand {n i : Nat} (xs : List α) {k d : Nat} (less : d < n) (fits : (k + d) % n = i)
    (q : Nat) :
    (((xs.zipIdx k).filter fun x => x.2 % n == i).map (·.1))[q]? = xs[d + q * n]? := by
  induction xs generalizing k d q with
  | nil => simp
  | cons x xs ih =>
    rw [List.zipIdx_cons]
    cases d with
    | zero =>
      have mine : (k % n == i) = true := beq_iff_eq.2 fits
      have next : (k + 1 + (n - 1)) % n = i := by
        rw [show k + 1 + (n - 1) = k + n by omega, Nat.add_mod_right]
        exact fits
      rw [List.filter_cons_of_pos (p := fun x : α × Nat => x.2 % n == i) mine, List.map_cons]
      cases q with
      | zero => simp
      | succ q =>
        rw [List.getElem?_cons_succ, ih (by omega) next, Nat.succ_mul,
          show 0 + (q * n + n) = n - 1 + q * n + 1 by omega, List.getElem?_cons_succ]
    | succ d =>
      have other : ¬ (k % n == i) = true := fun same => by
        have apart := Nat.sub_mod_eq_zero_of_mod_eq (fits.trans (beq_iff_eq.1 same).symm)
        rw [Nat.add_sub_cancel_left, Nat.mod_eq_of_lt less] at apart
        omega
      have next : (k + 1 + d) % n = i := by rwa [Nat.add_assoc, Nat.add_comm 1]
      rw [List.filter_cons_of_neg (p := fun x : α × Nat => x.2 % n == i) other,
        ih (by omega) next, show d + 1 + q * n = d + q * n + 1 by omega, List.getElem?_cons_succ]

theorem getElem?_deal {n i : Nat} (less : i < n) (xs : List α) (q : Nat) :
    ((deal n xs)[i]?.bind fun p => p[q]?) = xs[i + q * n]? := by
  rw [deal, List.getElem?_map, List.getElem?_range less, Option.map_some, Option.bind_some]
  exact getElem?_hand xs less (by rw [Nat.zero_add, Nat.mod_eq_of_lt less]) q

theorem length_deal (n : Nat) (xs : List α) : (deal n xs).length = n := by
  rw [deal, List.length_map, List.length_range]

theorem dealt_deal {n : Nat} (pos : 0 < n) (xs : List α) : Dealt n xs (deal n xs) := by
  refine ⟨pos, length_deal n xs, fun k => ?_, fun p hp p' hp' => ?_⟩
  · rw [getElem?_deal (Nat.mod_lt k pos), Nat.mul_comm, Nat.mod_add_div]
  · obtain ⟨i, hi, rfl⟩ := List.getElem_of_mem hp
    obtain ⟨j, hj, rfl⟩ := List.getElem_of_mem hp'
    have at_i := getElem?_deal (length_deal n xs ▸ hi) xs
    have at_j := getElem?_deal (length_deal n xs ▸ hj) xs
    rw [List.getElem?_eq_getElem hi] at at_i
    rw [List.getElem?_eq_getElem hj] at at_j
    simp only [Option.bind_some] at at_i at_j
    generalize (deal n xs)[i] = p at at_i
    generalize (deal n xs)[j] = p' at at_j
    -- If the hand had two more, the other one would have got an element between the two.
    refine Nat.not_lt.1 fun more => ?_
    have last : i + (p'.length + 1) * n < xs.length := by
      have := at_i (p'.length + 1)
      rw [List.getElem?_eq_getElem more] at this
      exact (List.getElem?_eq_some_iff.1 this.symm).1
    have none := at_j p'.length
    rw [List.getElem?_eq_none (Nat.le_refl _), eq_comm, List.getElem?_eq_none_iff] at none
    rw [length_deal] at hj
    rw [Nat.succ_mul] at last
    omega

/-- Each way of cutting does what its strategy says. -/
theorem cutsInto_cut {strategy : SplitStrategy} (sized : strategy ≠ .fixedBucketSize 0)
    (workers : Nat) {entries : List TestEntry} (some : entries ≠ []) :
    strategy.CutsInto workers entries (strategy.cut workers entries) := by
  cases strategy with
  | unsplit => rfl
  | individual => rfl
  | equallyDivided =>
    have := List.length_pos_of_ne_nil some
    exact dealt_deal (by omega) entries
  | fixedBucketSize size =>
    refine inRuns_runs (Nat.pos_of_ne_zero fun zero => sized ?_) entries
    rw [show size = 0 from UInt32.toNat_inj.1 zero]

end SplitStrategy

theorem InRuns.ne_nil {α : Type} {size : Nat} {xs : List α} {parts : List (List α)}
    (h : InRuns size xs parts) {p : List α} (hp : p ∈ parts) : p ≠ [] := by
  refine List.ne_nil_of_length_pos ?_
  have some := List.ne_nil_of_mem hp
  rw [← List.dropLast_append_getLast some, List.mem_append, List.mem_singleton] at hp
  rcases hp with hp | rfl
  · exact h.full p hp ▸ h.size_pos
  · exact (h.rest _ (List.getLast?_eq_some_getLast some)).1

theorem Dealt.ne_nil {α : Type} {hands : Nat} {xs : List α} {parts : List (List α)}
    (h : Dealt hands xs parts) (enough : hands ≤ xs.length) {p : List α} (hp : p ∈ parts) :
    p ≠ [] := by
  obtain ⟨i, hi, rfl⟩ := List.getElem_of_mem hp
  have less : i < hands := h.length ▸ hi
  have dealt : i < xs.length := Nat.lt_of_lt_of_le less enough
  have first := h.place i
  rw [Nat.mod_eq_of_lt less, Nat.div_eq_of_lt less, List.getElem?_eq_getElem hi,
    Option.bind_some, List.getElem?_eq_getElem dealt] at first
  exact List.ne_nil_of_mem (List.mem_of_getElem? first)

namespace SplitStrategy

/-- No part of a group is empty. -/
theorem ne_nil_of_cutsInto {strategy : SplitStrategy} {workers : Nat} {entries : List TestEntry}
    {parts : List (List TestEntry)} (some : entries ≠ [])
    (h : strategy.CutsInto workers entries parts) {p : List TestEntry} (hp : p ∈ parts) :
    p ≠ [] := by
  cases strategy with
  | unsplit =>
    obtain rfl : parts = [entries] := h
    obtain rfl := List.mem_singleton.1 hp
    exact some
  | individual =>
    obtain rfl : parts = entries.map fun e => [e] := h
    obtain ⟨e, -, rfl⟩ := List.mem_map.1 hp
    exact List.cons_ne_nil _ _
  | equallyDivided => exact Dealt.ne_nil h (Nat.min_le_right _ _) hp
  | fixedBucketSize size => exact InRuns.ne_nil h hp

theorem nodup_of_mem_cut {strategy : SplitStrategy} {workers : Nat} {entries : List TestEntry}
    (nodup : entries.Nodup) {p : List TestEntry} (hp : p ∈ strategy.cut workers entries) :
    p.Nodup :=
  ((strategy.flatten_cut workers entries).nodup_iff.2 nodup).sublist
    (List.sublist_flatten_of_mem hp)

end SplitStrategy

/-! ## The tests of one configuration -/

/-- The entries of one configuration in a list of groups. -/
def entriesOf (c : TestConfiguration) (gs : List TestGroup) : List TestEntry :=
  (gs.filter (·.configuration == c)).flatMap (·.entries)

theorem entriesOf_cons (c : TestConfiguration) (g : TestGroup) (gs : List TestGroup) :
    entriesOf c (g :: gs) = (if g.configuration == c then g.entries else []) ++ entriesOf c gs := by
  rw [entriesOf, List.filter_cons]
  split <;> rfl

theorem entriesOf_place (c : TestConfiguration) (t : ConfiguredTest) (gs : List TestGroup) :
    (entriesOf c (TestGroup.place t gs)).Perm
      ((if t.configuration == c then [t.entry] else []) ++ entriesOf c gs) := by
  induction gs with
  | nil =>
    rw [TestGroup.place, entriesOf_cons]
  | cons g gs ih =>
    rw [TestGroup.place]
    split
    · rename_i admits
      have same : (g.configuration == c) = (t.configuration == c) :=
        BEq.congr_left (Bool.and_eq_true_iff.1 admits).1
      rw [entriesOf_cons, entriesOf_cons, same]
      split
      · rw [List.append_assoc]
        exact List.perm_middle
      · exact .refl _
    · rw [entriesOf_cons, entriesOf_cons]
      exact (ih.append_left _).trans (List.perm_append_comm_assoc _ _ _)

/-- Grouping keeps the tests of each configuration. -/
theorem entriesOf_ofTests (c : TestConfiguration) (tests : List ConfiguredTest) :
    (entriesOf c (TestGroup.ofTests tests)).Perm
      ((tests.filter (·.configuration == c)).map (·.entry)) := by
  suffices ∀ gs : List TestGroup,
      (entriesOf c (tests.foldl (fun gs t => TestGroup.place t gs) gs)).Perm
        (entriesOf c gs ++ (tests.filter (·.configuration == c)).map (·.entry)) from this []
  induction tests with
  | nil => exact fun gs => .of_eq (List.append_nil _).symm
  | cons t ts ih =>
    intro gs
    rw [List.foldl_cons]
    refine (ih _).trans (((entriesOf_place c t gs).append_right _).trans ?_)
    rw [List.filter_cons]
    split
    · exact List.perm_middle.symm
    · exact .refl _

/-- Cutting the groups keeps the tests of each configuration. -/
theorem flatMap_splitParts_of (c : TestConfiguration) (strategy : SplitStrategy) (workers : Nat)
    (tests : List ConfiguredTest) :
    (((splitParts strategy workers tests).filter (·.2 == c)).flatMap (·.1)).Perm
      ((tests.filter (·.configuration == c)).map (·.entry)) := by
  refine .trans ?_ (entriesOf_ofTests c tests)
  rw [splitParts]
  induction TestGroup.ofTests tests with
  | nil => exact .refl _
  | cons g gs ih =>
    rw [List.flatMap_cons, List.filter_append, List.flatMap_append, entriesOf_cons]
    refine List.Perm.append ?_ ih
    rw [List.filter_map, List.flatMap_map]
    by_cases ofC : (g.configuration == c) = true
    · have all : (strategy.cut workers g.entries).filter
          ((fun part => part.2 == c) ∘ fun part => (part, g.configuration)) =
          strategy.cut workers g.entries := List.filter_eq_self.2 fun _ _ => ofC
      rw [all, if_pos ofC, List.flatMap_id']
      exact strategy.flatten_cut workers g.entries
    · have none : (strategy.cut workers g.entries).filter
          ((fun part => part.2 == c) ∘ fun part => (part, g.configuration)) = [] :=
        List.filter_eq_nil_iff.2 fun _ _ => ofC
      rw [none, if_neg ofC]
      exact .refl _

/-! ## Splitting -/

/-- What a split makes of a list of tests. -/
structure Partitions (strategy : SplitStrategy) (workers : Nat) (tests : List ConfiguredTest)
    (buckets : List Bucket) : Prop where
  /-- Each group is cut on its own, and the buckets stand in the order of the groups. -/
  cut : ∃ parts : List (List Bucket), buckets = parts.flatten ∧
    List.Forall₂ (fun (g : TestGroup) bs => (∀ b ∈ bs, b.configuration = g.configuration) ∧
      strategy.CutsInto workers g.entries (bs.map (·.entries))) (TestGroup.opened tests) parts
  /-- The tests of turn `k` of a configuration make up its group number `k`, in order. -/
  turns : ∀ l ∈ listings tests, ∃ g,
    ((TestGroup.opened tests).filter fun g =>
      g.configuration == l.test.configuration)[l.turn]? = some g ∧
    g.entries = ((listings tests).filter l.joins).map (·.test.entry)
  /-- The buckets of a configuration hold its tests, each as often as it is listed. -/
  covers : ∀ c, ((buckets.filter (·.configuration == c)).flatMap (·.entries)).Perm
    ((tests.filter (·.configuration == c)).map (·.entry))
  nonempty : ∀ b ∈ buckets, b.entries ≠ []
  nodup : ∀ b ∈ buckets, b.entries.Nodup

theorem mem_splitParts {strategy : SplitStrategy} {workers : Nat} {tests : List ConfiguredTest}
    {part : List TestEntry × TestConfiguration} (h : part ∈ splitParts strategy workers tests) :
    ∃ g ∈ TestGroup.ofTests tests, part.1 ∈ strategy.cut workers g.entries := by
  obtain ⟨g, hg, cut⟩ := List.mem_flatMap.1 h
  obtain ⟨p, hp, rfl⟩ := List.mem_map.1 cut
  exact ⟨g, hg, hp⟩

/-- A list whose elements turn into those of several lists is made up of several lists itself. -/
theorem exists_flatten_of_map_eq {α β : Type} {f : α → β} {yss : List (List β)} {xs : List α}
    (h : xs.map f = yss.flatten) :
    ∃ xss : List (List α), xs = xss.flatten ∧
      List.Forall₂ (fun ys xs => xs.map f = ys) yss xss := by
  induction yss generalizing xs with
  | nil => exact ⟨[], List.map_eq_nil_iff.1 h, .nil⟩
  | cons ys yss ih =>
    obtain ⟨front, rest, rfl, hfront, hrest⟩ := List.map_eq_append_iff.1 h
    obtain ⟨xss, rfl, each⟩ := ih hrest
    exact ⟨front :: xss, rfl, .cons hfront each⟩

section Parts

variable {strategy : SplitStrategy} {workers : Nat} {tests : List ConfiguredTest}
  {buckets : List Bucket}

/-- Buckets with what the groups are cut into fall apart into the cuts of each group. -/
theorem exists_cuts_of_parts (sized : strategy ≠ .fixedBucketSize 0)
    (parts : buckets.map (fun b => (b.entries, b.configuration)) =
      splitParts strategy workers tests) :
    ∃ cuts : List (List Bucket), buckets = cuts.flatten ∧
      List.Forall₂ (fun (g : TestGroup) bs => (∀ b ∈ bs, b.configuration = g.configuration) ∧
        strategy.CutsInto workers g.entries (bs.map (·.entries)))
        (TestGroup.opened tests) cuts := by
  rw [splitParts, List.flatMap_def] at parts
  obtain ⟨cuts, rfl, each⟩ := exists_flatten_of_map_eq parts
  refine ⟨cuts, rfl, ?_⟩
  rw [List.forall₂_map_left_iff] at each
  rw [← TestGroup.ofTests_eq]
  -- No group is empty, so there is at least one hand that its entries are dealt to.
  have both := (List.forall₂_and_left _ _).2
    ⟨fun g (hg : g ∈ TestGroup.ofTests tests) => TestGroup.entries_ne_nil hg, each⟩
  refine both.imp ?_
  rintro g bs ⟨some, same⟩
  have entries := congrArg (List.map Prod.fst) same
  have configurations := congrArg (List.map Prod.snd) same
  simp only [List.map_map, Function.comp_def, List.map_id'] at entries configurations
  refine ⟨fun b hb => ?_, entries ▸ strategy.cutsInto_cut sized workers some⟩
  have := configurations ▸ List.mem_map_of_mem (f := Bucket.configuration) hb
  exact (List.mem_map.1 this).elim fun _ h => h.2.symm

theorem partitions_of_parts (sized : strategy ≠ .fixedBucketSize 0)
    (parts : buckets.map (fun b => (b.entries, b.configuration)) =
      splitParts strategy workers tests) : Partitions strategy workers tests buckets := by
  have part_mem {b : Bucket} (hb : b ∈ buckets) :
      ∃ g ∈ TestGroup.ofTests tests, b.entries ∈ strategy.cut workers g.entries := by
    have part : (b.entries, b.configuration) ∈ splitParts strategy workers tests :=
      parts ▸ List.mem_map_of_mem hb
    exact mem_splitParts part
  refine ⟨exists_cuts_of_parts sized parts, fun l hl => TestGroup.exists_nth_group hl,
    fun c => ?_, fun b hb => ?_, fun b hb => ?_⟩
  · have perm := flatMap_splitParts_of c strategy workers tests
    rw [← parts, List.filter_map, List.flatMap_map] at perm
    exact perm
  · obtain ⟨g, hg, cut⟩ := part_mem hb
    have some := TestGroup.entries_ne_nil hg
    exact SplitStrategy.ne_nil_of_cutsInto some (strategy.cutsInto_cut sized workers some) cut
  · obtain ⟨g, hg, cut⟩ := part_mem hb
    exact SplitStrategy.nodup_of_mem_cut (TestGroup.nodup_ofTests tests g hg) cut

end Parts

/-- Splitting fails only if buckets are to be of no size, and otherwise makes a partition. -/
theorem split_partitions (job : JobId) (strategy : SplitStrategy) (workers : Nat)
    (tests : List ConfiguredTest) :
    strategy = .fixedBucketSize 0 ∧
        split job strategy workers tests = .error .zeroBucketSize ∨
      strategy ≠ .fixedBucketSize 0 ∧
        ∃ buckets, split job strategy workers tests = .ok buckets ∧
          Partitions strategy workers tests buckets := by
  rw [split]
  by_cases unsized : strategy = .fixedBucketSize 0
  · exact .inl ⟨unsized, if_pos unsized⟩
  · refine .inr ⟨unsized, _, if_neg unsized, partitions_of_parts unsized ?_⟩
    refine List.ext_getElem? fun i => ?_
    rw [List.getElem?_map, List.getElem?_mapIdx, Option.map_map]
    exact Option.map_id_apply

end TestFleet
