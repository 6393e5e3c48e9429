import Mathlib.Data.List.Induction
import TestFleet.Proofs.Configuration
import TestFleet.Queue.Split

/-!
# Which group a test goes to

Tests are put into groups one by one, each into the first group that admits it. What comes of it is
said here without going through the tests in order: a test that was listed `n` times before under
its configuration has turn `n`, and a group holds the tests of one configuration and one turn. A
group stands where the first of its tests was listed.

* `turns_openers`: the groups of a configuration have the turns 0, 1, 2 and so on, in this order;
* `TestGroup.ofTests_eq`: putting tests into groups one by one yields these groups;
* `TestGroup.exists_nth_group`: the tests of turn `k` make up the group number `k` of their
  configuration.
-/

namespace TestFleet

/-! ## The first of every kind -/

section Firsts

variable {α : Type} {r : α → α → Bool}

/-- The elements of a list that are related to no earlier one. -/
def firsts (r : α → α → Bool) (l : List α) : List α :=
  (l.zipIdx.filter fun x => !(l.take x.2).any (r x.1)).map (·.1)

theorem firsts_concat (r : α → α → Bool) (l : List α) (a : α) :
    firsts r (l ++ [a]) = firsts r l ++ if l.any (r a) then [] else [a] := by
  have before : (l.zipIdx.filter fun x => !((l ++ [a]).take x.2).any (r x.1)) =
      l.zipIdx.filter fun x => !(l.take x.2).any (r x.1) := by
    refine List.filter_congr fun x h => ?_
    have := List.snd_lt_of_mem_zipIdx h
    rw [List.take_append_of_le_length (by omega)]
  rw [firsts, List.zipIdx_append, List.filter_append, List.map_append, before, firsts]
  by_cases h : l.any (r a) <;> simp [h]

theorem mem_of_mem_firsts {l : List α} {a : α} (h : a ∈ firsts r l) : a ∈ l := by
  obtain ⟨⟨b, i⟩, hb, rfl⟩ := List.mem_map.1 h
  exact List.fst_mem_of_mem_zipIdx (List.mem_filter.1 hb).1

/-- Every element is related to a first one. -/
theorem exists_mem_firsts (refl : ∀ a, r a a = true)
    (trans : ∀ {a b c}, r a b = true → r b c = true → r a c = true) {l : List α} {a : α}
    (h : a ∈ l) : ∃ b ∈ firsts r l, r a b = true := by
  induction l using List.reverseRecOn generalizing a with
  | nil => cases h
  | append_singleton l c ih =>
    rw [firsts_concat]
    rcases List.mem_append.1 h with old | new
    · obtain ⟨b, hb, related⟩ := ih old
      exact ⟨b, List.mem_append_left _ hb, related⟩
    · obtain rfl := List.mem_singleton.1 new
      by_cases known : l.any (r a)
      · obtain ⟨d, hd, toOld⟩ := List.any_eq_true.1 known
        obtain ⟨b, hb, related⟩ := ih hd
        exact ⟨b, List.mem_append_left _ hb, trans toOld related⟩
      · exact ⟨a, by simp [known], refl a⟩

end Firsts

/-! ## Turns -/

/-- Whether two tests are the same entry under the same configuration. -/
def ConfiguredTest.isSame (t u : ConfiguredTest) : Bool :=
  t.configuration == u.configuration && t.entry == u.entry

/-- A test of a list, and how many times it was listed before. -/
structure Listing where
  test : ConfiguredTest
  turn : Nat

namespace Listing

/-- The listing of a test behind others. -/
def behind (tests : List ConfiguredTest) (t : ConfiguredTest) : Listing :=
  ⟨t, tests.countP t.isSame⟩

/-- Whether a listing is one of a configuration. -/
def isOf (c : TestConfiguration) (l : Listing) : Bool := l.test.configuration == c

/-- Whether two listings have the same configuration and the same turn. -/
def joins (a b : Listing) : Bool :=
  a.test.configuration == b.test.configuration && a.turn == b.turn

end Listing

/-- The tests of a list in order, each with its turn. -/
def listings (tests : List ConfiguredTest) : List Listing :=
  tests.mapIdx fun i t => .behind (tests.take i) t

/-- The listings that open a group: no earlier one has their configuration and their turn. -/
def openers (tests : List ConfiguredTest) : List Listing := firsts Listing.joins (listings tests)

/-- The listings that open the groups of a configuration. -/
def openersOf (tests : List ConfiguredTest) (c : TestConfiguration) : List Listing :=
  (openers tests).filter (Listing.isOf c)

/-- The group that a listing opens: the entries of all listings of its configuration and turn. -/
def Listing.group (tests : List ConfiguredTest) (o : Listing) : TestGroup :=
  ⟨o.test.configuration, ((listings tests).filter o.joins).map (·.test.entry)⟩

/-- The groups of a list of tests, in the order in which they are opened. -/
def TestGroup.opened (tests : List ConfiguredTest) : List TestGroup :=
  (openers tests).map (Listing.group tests)

namespace ConfiguredTest

variable {t u : ConfiguredTest}

theorem isSame_iff : t.isSame u = true ↔
    (t.configuration == u.configuration) = true ∧ t.entry = u.entry :=
  Bool.and_eq_true_iff.trans (and_congr_right fun _ => beq_iff_eq)

theorem isSame_eq (h : t.isSame u = true) : t.isSame = u.isSame := by
  obtain ⟨configuration, entry⟩ := isSame_iff.1 h
  funext v
  rw [isSame, isSame, entry, BEq.congr_left configuration]

end ConfiguredTest

namespace Listing

variable {a b c : Listing}

theorem joins_iff : a.joins b = true ↔
    (a.test.configuration == b.test.configuration) = true ∧ a.turn = b.turn :=
  Bool.and_eq_true_iff.trans (and_congr_right fun _ => beq_iff_eq)

theorem joins_refl (a : Listing) : a.joins a = true := joins_iff.2 ⟨BEq.rfl, rfl⟩

theorem joins_symm (h : a.joins b = true) : b.joins a = true :=
  joins_iff.2 ⟨BEq.symm (joins_iff.1 h).1, (joins_iff.1 h).2.symm⟩

theorem joins_trans (h : a.joins b = true) (k : b.joins c = true) : a.joins c = true :=
  joins_iff.2 ⟨BEq.trans (joins_iff.1 h).1 (joins_iff.1 k).1,
    (joins_iff.1 h).2.trans (joins_iff.1 k).2⟩

end Listing

theorem listings_concat (tests : List ConfiguredTest) (t : ConfiguredTest) :
    listings (tests ++ [t]) = listings tests ++ [.behind tests t] := by
  have before : (tests.mapIdx fun i u => Listing.behind ((tests ++ [t]).take i) u) =
      listings tests := by
    refine List.ext_getElem? fun i => ?_
    rw [listings, List.getElem?_mapIdx, List.getElem?_mapIdx]
    cases h : tests[i]? with
    | none => rfl
    | some u =>
      have := (List.getElem?_eq_some_iff.1 h).1
      rw [List.take_append_of_le_length (by omega)]
  rw [listings, List.mapIdx_concat, before, List.take_left]

/-- A test has all turns below the number of times it is listed, and no other. -/
theorem exists_turn_iff {tests : List ConfiguredTest} {t : ConfiguredTest} {n : Nat} :
    (∃ l ∈ listings tests, t.isSame l.test = true ∧ l.turn = n) ↔ n < tests.countP t.isSame := by
  induction tests using List.reverseRecOn with
  | nil => simp [listings]
  | append_singleton tests u ih =>
    rw [listings_concat, List.countP_append, List.countP_singleton]
    simp only [List.mem_append, List.mem_singleton, or_and_right, exists_or, exists_eq_left, ih]
    by_cases same : t.isSame u = true
    · simp only [Listing.behind, same, ← ConfiguredTest.isSame_eq same, if_true, true_and]
      omega
    · simp only [Listing.behind, same, if_false, false_and, or_false, Nat.add_zero,
        Bool.false_eq_true]

theorem openers_concat (tests : List ConfiguredTest) (t : ConfiguredTest) :
    openers (tests ++ [t]) = openers tests ++
      if (listings tests).any (Listing.behind tests t).joins then [] else [.behind tests t] := by
  rw [openers, listings_concat, firsts_concat, openers]

theorem exists_opener {tests : List ConfiguredTest} {l : Listing} (h : l ∈ listings tests) :
    ∃ o ∈ openers tests, l.joins o = true :=
  exists_mem_firsts Listing.joins_refl Listing.joins_trans h

/-- The groups of a configuration have the turns from zero on, in order. -/
theorem turns_openers (tests : List ConfiguredTest) (c : TestConfiguration) :
    (openersOf tests c).map (·.turn) = List.range (openersOf tests c).length := by
  induction tests using List.reverseRecOn with
  | nil => rfl
  | append_singleton tests t ih =>
    have turn_mem {n : Nat} : n ∈ (openersOf tests c).map (·.turn) ↔
        n < (openersOf tests c).length := by rw [ih, List.mem_range]
    rw [openersOf, openers_concat, List.filter_append, ← openersOf]
    by_cases known : (listings tests).any (Listing.behind tests t).joins
    · rw [if_pos known, List.filter_nil, List.append_nil, ih]
    by_cases ofC : (Listing.behind tests t).isOf c = true
    swap
    · rw [if_neg known, List.filter_cons_of_neg ofC, List.filter_nil, List.append_nil, ih]
    -- The new group is one of `c`, and its turn is the number of groups that `c` had before.
    have next : tests.countP t.isSame = (openersOf tests c).length := by
      refine Nat.le_antisymm (Nat.not_lt.1 fun more => ?_) (Nat.not_lt.1 fun less => ?_)
      · obtain ⟨l, hl, same, turn⟩ := exists_turn_iff.2 more
        obtain ⟨o, ho, joins⟩ := exists_opener hl
        obtain ⟨configuration, turn'⟩ := Listing.joins_iff.1 joins
        have isOfC : o.isOf c = true :=
          BEq.trans (BEq.symm (BEq.trans (ConfiguredTest.isSame_iff.1 same).1 configuration)) ofC
        have := turn_mem.1 (List.mem_map_of_mem (List.mem_filter.2 ⟨ho, isOfC⟩))
        omega
      · obtain ⟨o, ho, turn⟩ := List.mem_map.1 (turn_mem.2 less)
        obtain ⟨ho, isOfC⟩ := List.mem_filter.1 ho
        have joins : (Listing.behind tests t).joins o = true :=
          Listing.joins_iff.2 ⟨BEq.trans ofC (BEq.symm isOfC), turn.symm⟩
        exact known (List.any_eq_true.2 ⟨o, mem_of_mem_firsts ho, joins⟩)
    rw [if_neg known, List.filter_cons_of_pos ofC, List.filter_nil, List.map_append, ih,
      List.length_append, List.map_singleton, Listing.behind, next, List.length_singleton,
      List.range_succ]

/-- Of two groups of a configuration the later one has the greater turn. -/
theorem turns_increase (tests : List ConfiguredTest) (c : TestConfiguration) :
    (openersOf tests c).Pairwise fun a b => a.turn < b.turn := by
  rw [← List.pairwise_map (f := Listing.turn) (R := (· < ·)), turns_openers]
  exact List.pairwise_lt_range

/-! ## Groups -/

namespace TestGroup

theorem place_of_forall {t : ConfiguredTest} {gs : List TestGroup}
    (none : ∀ g ∈ gs, ¬ g.admits t = true) :
    place t gs = gs ++ [⟨t.configuration, [t.entry]⟩] := by
  induction gs with
  | nil => rfl
  | cons g gs ih =>
    obtain ⟨hg, hgs⟩ := List.forall_mem_cons.1 none
    rw [place, if_neg hg, ih hgs, List.cons_append]

theorem place_of_first {t : ConfiguredTest} {g : TestGroup} {before : List TestGroup}
    (none : ∀ g ∈ before, ¬ g.admits t = true) (admits : g.admits t = true)
    (after : List TestGroup) :
    place t (before ++ g :: after) =
      before ++ { g with entries := g.entries ++ [t.entry] } :: after := by
  induction before with
  | nil => rw [List.nil_append, place, if_pos admits, List.nil_append]
  | cons b before ih =>
    obtain ⟨hb, hbefore⟩ := List.forall_mem_cons.1 none
    rw [List.cons_append, place, if_neg hb, ih hbefore, List.cons_append]

/-- A group admits a test of its configuration that was not listed more often than its turn. -/
theorem admits_group_iff {tests : List ConfiguredTest} {o : Listing} {t : ConfiguredTest} :
    (o.group tests).admits t = true ↔
      (o.test.configuration == t.configuration) = true ∧ tests.countP t.isSame ≤ o.turn := by
  rw [admits, Bool.and_eq_true, Listing.group]
  refine and_congr_right fun configuration => ?_
  rw [← Nat.not_lt, ← exists_turn_iff, Bool.not_eq_true', ← Bool.not_eq_true,
    List.contains_iff_mem, List.mem_map]
  refine not_congr (exists_congr fun l => ?_)
  rw [List.mem_filter, Listing.joins_iff, ConfiguredTest.isSame_iff, BEq.congr_left configuration]
  constructor
  · rintro ⟨⟨hl, same, turn⟩, entry⟩
    exact ⟨hl, ⟨same, entry.symm⟩, turn.symm⟩
  · rintro ⟨hl, ⟨same, entry⟩, turn⟩
    exact ⟨⟨hl, same, turn.symm⟩, entry.symm⟩

theorem group_concat (tests : List ConfiguredTest) (t : ConfiguredTest) (o : Listing) :
    o.group (tests ++ [t]) = { o.group tests with
      entries := (o.group tests).entries ++
        (if o.joins (.behind tests t) then [t.entry] else []) } := by
  rw [Listing.group, listings_concat, List.filter_append, List.map_append, Listing.group]
  by_cases h : o.joins (.behind tests t) = true
  · rw [List.filter_cons_of_pos h, if_pos h]
    rfl
  · rw [List.filter_cons_of_neg h, if_neg h]
    rfl

theorem map_group_concat {tests : List ConfiguredTest} {t : ConfiguredTest} {os : List Listing}
    (none : ∀ o ∈ os, ¬ o.joins (.behind tests t) = true) :
    os.map (Listing.group (tests ++ [t])) = os.map (Listing.group tests) := by
  refine List.map_congr_left fun o ho => ?_
  rw [group_concat, if_neg (none o ho), List.append_nil]

/-- Groups of earlier turns hold the test already. -/
theorem not_admits_of_turn_lt {tests : List ConfiguredTest} {t : ConfiguredTest}
    {os : List Listing} (passed : ∀ p ∈ os, p.isOf t.configuration = true →
      p.turn < tests.countP t.isSame) :
    ∀ g ∈ os.map (Listing.group tests), ¬ g.admits t = true := by
  intro g hg admits
  obtain ⟨p, hp, rfl⟩ := List.mem_map.1 hg
  obtain ⟨ofC, more⟩ := admits_group_iff.1 admits
  exact absurd (passed p hp ofC) (Nat.not_lt.2 more)

/-- A test whose turn has a group already goes there: the groups of its configuration that stand
before hold the test, and those behind are of later turns. -/
theorem place_opened_of_known {tests : List ConfiguredTest} {t : ConfiguredTest}
    (known : (listings tests).any (Listing.behind tests t).joins = true) :
    place t (opened tests) = (openers tests).map (Listing.group (tests ++ [t])) := by
  obtain ⟨l, hl, joins⟩ := List.any_eq_true.1 known
  obtain ⟨o, ho, toOpener⟩ := exists_opener hl
  have joined := Listing.joins_symm (Listing.joins_trans joins toOpener)
  obtain ⟨ofC, turn⟩ := Listing.joins_iff.1 joined
  obtain ⟨before, after, split⟩ := List.append_of_mem ho
  have increase := turns_increase tests t.configuration
  rw [openersOf, split, List.filter_append,
    List.filter_cons_of_pos (p := Listing.isOf t.configuration) ofC, List.pairwise_append,
    List.pairwise_cons] at increase
  obtain ⟨-, ⟨later, -⟩, earlier⟩ := increase
  have passed : ∀ p ∈ before, p.isOf t.configuration = true →
      p.turn < tests.countP t.isSame := fun p hp ofC' => by
    have := earlier p (List.mem_filter.2 ⟨hp, ofC'⟩) o List.mem_cons_self
    rwa [turn] at this
  have ahead : ∀ p ∈ after, p.isOf t.configuration = true →
      tests.countP t.isSame < p.turn := fun p hp ofC' => by
    have := later p (List.mem_filter.2 ⟨hp, ofC'⟩)
    rwa [turn] at this
  have apart {os : List Listing} (other : ∀ p ∈ os, p.isOf t.configuration = true →
      p.turn ≠ tests.countP t.isSame) : ∀ p ∈ os, ¬ p.joins (.behind tests t) = true :=
    fun p hp joins => other p hp (Listing.joins_iff.1 joins).1 (Listing.joins_iff.1 joins).2
  rw [opened, split, List.map_append, List.map_cons,
    place_of_first (not_admits_of_turn_lt passed)
      (admits_group_iff.2 ⟨ofC, Nat.le_of_eq turn.symm⟩),
    List.map_append, List.map_cons,
    map_group_concat (apart fun p hp ofC' => Nat.ne_of_lt (passed p hp ofC')),
    map_group_concat (apart fun p hp ofC' => Nat.ne_of_gt (ahead p hp ofC')), group_concat,
    if_pos joined]

/-- A test whose turn has no group opens one: every group of its configuration was opened for an
earlier turn, so it holds the test. -/
theorem place_opened_of_new {tests : List ConfiguredTest} {t : ConfiguredTest}
    (new : ¬ (listings tests).any (Listing.behind tests t).joins = true) :
    place t (opened tests) =
      (openers tests ++ [Listing.behind tests t]).map (Listing.group (tests ++ [t])) := by
  have increase := turns_increase (tests ++ [t]) t.configuration
  rw [openersOf, openers_concat, if_neg new, List.filter_append, ← openersOf,
    List.filter_cons_of_pos (p := Listing.isOf t.configuration) BEq.rfl, List.filter_nil,
    List.pairwise_append] at increase
  have passed : ∀ p ∈ openers tests, p.isOf t.configuration = true →
      p.turn < tests.countP t.isSame := fun p hp ofC =>
    increase.2.2 p (List.mem_filter.2 ⟨hp, ofC⟩) _ (List.mem_singleton_self _)
  have apart : ∀ p ∈ openers tests, ¬ p.joins (.behind tests t) = true := fun p hp joins =>
    new (List.any_eq_true.2 ⟨p, mem_of_mem_firsts hp, Listing.joins_symm joins⟩)
  have alone : (listings tests).filter (Listing.behind tests t).joins = [] :=
    List.filter_eq_nil_iff.2 fun l hl joins => new (List.any_eq_true.2 ⟨l, hl, joins⟩)
  rw [opened, place_of_forall (not_admits_of_turn_lt passed), List.map_append,
    map_group_concat apart, List.map_singleton, group_concat, if_pos (Listing.joins_refl _),
    Listing.group, alone]
  rfl

/-- The groups are those that the openers open. -/
theorem ofTests_eq (tests : List ConfiguredTest) : ofTests tests = opened tests := by
  induction tests using List.reverseRecOn with
  | nil => rfl
  | append_singleton tests t ih =>
    rw [ofTests, List.foldl_append, ← ofTests, ih, List.foldl_cons, List.foldl_nil]
    by_cases known : (listings tests).any (Listing.behind tests t).joins
    · rw [place_opened_of_known known, opened, openers_concat, if_pos known, List.append_nil]
    · rw [place_opened_of_new known, opened, openers_concat, if_neg known]

/-! ## The groups of a configuration -/

theorem openedOf_eq (tests : List ConfiguredTest) (c : TestConfiguration) :
    (opened tests).filter (·.configuration == c) =
      (openersOf tests c).map (Listing.group tests) :=
  List.filter_map

theorem getElem?_openersOf {tests : List ConfiguredTest} {c : TestConfiguration} {o : Listing}
    (h : o ∈ openersOf tests c) : (openersOf tests c)[o.turn]? = some o := by
  obtain ⟨i, hi, rfl⟩ := List.getElem_of_mem h
  have turn := congrArg (·[i]?) (turns_openers tests c)
  simp only [List.getElem?_map, List.getElem?_eq_getElem hi, List.getElem?_range hi,
    Option.map_some, Option.some.injEq] at turn
  rw [turn, List.getElem?_eq_getElem hi]

/-- The group of a configuration whose number is a test's turn holds the tests of that turn. -/
theorem exists_nth_group {tests : List ConfiguredTest} {l : Listing} (h : l ∈ listings tests) :
    ∃ g,
      ((opened tests).filter fun g => g.configuration == l.test.configuration)[l.turn]? = some g ∧
      g.entries = ((listings tests).filter l.joins).map (·.test.entry) := by
  obtain ⟨o, ho, joins⟩ := exists_opener h
  obtain ⟨ofC, turn⟩ := Listing.joins_iff.1 joins
  have ho : o ∈ openersOf tests l.test.configuration := List.mem_filter.2 ⟨ho, BEq.symm ofC⟩
  refine ⟨o.group tests, ?_, congrArg (List.map _) (List.filter_congr fun m _ => ?_)⟩
  · rw [openedOf_eq, List.getElem?_map, turn, getElem?_openersOf ho, Option.map_some]
  · rw [Listing.joins, Listing.joins, BEq.congr_left ofC, turn]

/-! ## Entries -/

theorem entries_ne_nil {tests : List ConfiguredTest} {g : TestGroup} (h : g ∈ ofTests tests) :
    g.entries ≠ [] := by
  rw [ofTests_eq] at h
  obtain ⟨o, ho, rfl⟩ := List.mem_map.1 h
  exact List.ne_nil_of_mem (List.mem_map_of_mem
    (List.mem_filter.2 ⟨mem_of_mem_firsts ho, o.joins_refl⟩))

theorem nodup_place {t : ConfiguredTest} {gs : List TestGroup}
    (h : ∀ g ∈ gs, g.entries.Nodup) : ∀ g ∈ place t gs, g.entries.Nodup := by
  induction gs with
  | nil => simp [place]
  | cons g gs ih =>
    obtain ⟨hg, hgs⟩ := List.forall_mem_cons.1 h
    rw [place]
    split
    · rename_i admits
      have new : t.entry ∉ g.entries := by simpa using (Bool.and_eq_true_iff.1 admits).2
      refine List.forall_mem_cons.2 ⟨List.nodup_append.2
        ⟨hg, List.pairwise_singleton _ _, fun e he e' he' same => ?_⟩, hgs⟩
      obtain rfl := List.mem_singleton.1 he'
      exact new (same ▸ he)
    · exact List.forall_mem_cons.2 ⟨hg, ih hgs⟩

/-- No group holds an entry twice. -/
theorem nodup_ofTests (tests : List ConfiguredTest) : ∀ g ∈ ofTests tests, g.entries.Nodup := by
  suffices ∀ gs : List TestGroup, (∀ g ∈ gs, g.entries.Nodup) →
      ∀ g ∈ tests.foldl (fun gs t => place t gs) gs, g.entries.Nodup from
    this [] fun _ h => nomatch h
  induction tests with
  | nil => exact fun _ h => h
  | cons t ts ih => exact fun gs h => ih _ (nodup_place h)

end TestGroup

end TestFleet
