import Mathlib.Data.List.Nodup
import TestFleet.Queue.Assignment
import TestFleet.Proofs.Directory
import TestFleet.Proofs.Sorting
import TestFleet.Proofs.Queue.Partition

/-!
# Workers are spread evenly

Dealing workers out to jobs goes around both lists at once until the longer one was gone through.
If there are enough workers for all jobs this deals the workers out, each to one job; if not, it
deals the jobs out, each to one worker. Either way nobody gets two more than another.

* `hand`: the workers whom a job is dealt by its place among the jobs;
* `values_spread`: the preferences, job by job, are the hands;
* `values_spread_of_ample`, `values_spread_of_scarce`: what the hands come to in the two cases;
* `spreadsEvenly`: all that spreading does.
-/

namespace TestFleet.Assignment

variable {workers : List WorkerId} {jobs listed : List JobId} {j : JobId} {w : WorkerId}

/-! ## The order of the jobs -/

theorem perm_inOrder (jobs : List JobId) : (inOrder jobs).Perm jobs := perm_sortBy _ _

theorem length_inOrder (jobs : List JobId) : (inOrder jobs).length = jobs.length :=
  length_sortBy _ _

theorem text_le_trans (a b c : JobId) (hab : decide (a.text ≤ b.text))
    (hbc : decide (b.text ≤ c.text)) : decide (a.text ≤ c.text) :=
  decide_eq_true (String.le_trans (of_decide_eq_true hab) (of_decide_eq_true hbc))

theorem text_le_total (a b : JobId) : decide (a.text ≤ b.text) ∨ decide (b.text ≤ a.text) :=
  (String.le_total a.text b.text).imp decide_eq_true decide_eq_true

theorem eq_of_text_le {a b : JobId} (hab : decide (a.text ≤ b.text))
    (hba : decide (b.text ≤ a.text)) : a = b :=
  Key.text_injective (String.le_antisymm (of_decide_eq_true hab) (of_decide_eq_true hba))

/-- The order in which the jobs are given makes no difference. -/
theorem inOrder_eq_of_perm (perm : listed.Perm jobs) : inOrder listed = inOrder jobs :=
  sortBy_eq_of_perm text_le_trans text_le_total (fun _ _ _ _ => eq_of_text_le) perm

/-- A directory of the jobs lists them in their order. -/
theorem keys_eq_inOrder {p : Preferences} (perm : p.keys.Perm jobs) : p.keys = inOrder jobs :=
  have sorted : p.keys.Pairwise fun a b => decide (a.text ≤ b.text) :=
    p.keys_sorted.imp fun less => decide_eq_true (String.not_lt.1 (String.lt_asymm less))
  have sorted' : (inOrder jobs).Pairwise fun a b => decide (a.text ≤ b.text) :=
    pairwise_sortBy text_le_trans text_le_total jobs
  (perm.trans (perm_inOrder jobs).symm).eq_of_pairwise (fun _ _ _ _ => eq_of_text_le) sorted sorted'

/-! ## Turns -/

/-- The workers that the turns `is` deal to a job, each as often as it is dealt. -/
def dealtTo (workers : List WorkerId) (jobs : List JobId) (j : JobId) (is : List Nat) :
    List WorkerId :=
  (is.filter fun i => jobs[i % jobs.length]? == some j).filterMap
    fun i => workers[i % workers.length]?

theorem dealtTo_cons (i : Nat) (is : List Nat) :
    dealtTo workers jobs j (i :: is) = dealtTo workers jobs j [i] ++ dealtTo workers jobs j is := by
  rw [dealtTo, dealtTo, dealtTo, ← List.filterMap_append, ← List.filter_append,
    List.singleton_append]

/-- What one turn makes of the preferences of each job. -/
theorem get?_dealTurn (workers : List WorkerId) (jobs : List JobId) (p : Preferences) (i : Nat)
    (j : JobId) : (dealTurn workers jobs p i).get? j =
      (p.get? j).map fun ws => (dealtTo workers jobs j [i]).foldl (fun ws w => addWorker w ws) ws := by
  rw [dealTurn, dealtTo]
  cases turn : jobs[i % jobs.length]? with
  | none => simp [turn]
  | some k =>
    cases worker : workers[i % workers.length]? with
    | none =>
      rw [List.filter_singleton]
      cases jobs[i % jobs.length]? == some j <;> simp [worker]
    | some w =>
      dsimp only
      by_cases e : j = k
      · subst e
        rw [Directory.get?_modify_self]
        simp [turn, worker]
      · rw [Directory.get?_modify_of_ne _ _ e]
        simp [turn, Ne.symm e]

theorem get?_foldl_dealTurn (workers : List WorkerId) (jobs : List JobId) (is : List Nat)
    (p : Preferences) (j : JobId) : (is.foldl (dealTurn workers jobs) p).get? j =
      (p.get? j).map fun ws => (dealtTo workers jobs j is).foldl (fun ws w => addWorker w ws) ws := by
  induction is generalizing p with
  | nil => simp [dealtTo]
  | cons i is ih =>
    rw [List.foldl_cons, ih, get?_dealTurn, Option.map_map, dealtTo_cons i is]
    congr 1
    funext ws
    rw [Function.comp_apply, List.foldl_append]

theorem foldl_addWorker_of_nodup {ws new : List WorkerId} (nodup : (ws ++ new).Nodup) :
    new.foldl (fun ws w => addWorker w ws) ws = ws ++ new := by
  induction new generalizing ws with
  | nil => exact (List.append_nil ws).symm
  | cons w new ih =>
    have fresh : w ∉ ws := fun old => (List.nodup_append.1 nodup).2.2 w old w List.mem_cons_self rfl
    have added : addWorker w ws = ws ++ [w] := by
      rw [addWorker, if_neg fun old => fresh (List.contains_iff_mem.1 old)]
    rw [List.append_cons] at nodup
    rw [List.foldl_cons, added, ih nodup, List.append_assoc, List.singleton_append]

/-! ## Hands -/

/-- The workers whom the job at a place is dealt if `jobs` jobs take turns `turns` times. -/
def hand (workers : List WorkerId) (jobs turns place : Nat) : List WorkerId :=
  ((List.range turns).filter fun i => i % jobs == place).filterMap
    fun i => workers[i % workers.length]?

theorem dealtTo_range (workers : List WorkerId) (nodup : jobs.Nodup) {place : Nat}
    (less : place < jobs.length) (turns : Nat) :
    dealtTo workers jobs jobs[place] (List.range turns) =
      hand workers jobs.length turns place := by
  rw [dealtTo, hand]
  congr 1
  refine List.filter_congr fun i _ => ?_
  have inRange : i % jobs.length < jobs.length := Nat.mod_lt _ (Nat.zero_lt_of_lt less)
  rw [List.getElem?_eq_getElem inRange, Bool.eq_iff_iff, beq_iff_eq, beq_iff_eq, Option.some.injEq,
    nodup.getElem_inj_iff]

theorem get?_ofList_nil (jobs : List JobId) (j : JobId) :
    (Directory.ofList (jobs.map fun j => (j, ([] : List WorkerId)))).get? j =
      if j ∈ jobs then some [] else none := by
  rw [Directory.ofList, List.foldl_map]
  split
  · rename_i mem
    exact Directory.get?_foldl_insert_of_mem jobs [] _ mem
  · rename_i notMem
    exact Directory.get?_foldl_insert_of_not_mem jobs [] _ notMem

theorem get?_spread (workers : List WorkerId) (jobs : List JobId) (j : JobId) :
    (spread.preferences workers jobs).get? j =
      if j ∈ jobs then some ((dealtTo workers (inOrder jobs) j
        (List.range (max jobs.length workers.length))).foldl (fun ws w => addWorker w ws) [])
      else none := by
  rw [preferences, get?_foldl_dealTurn, get?_ofList_nil]
  split <;> rfl

theorem keys_spread (workers : List WorkerId) (nodup : jobs.Nodup) :
    (spread.preferences workers jobs).keys.Perm jobs := by
  refine (List.perm_ext_iff_of_nodup (Directory.keys_nodup _) nodup).2 fun j => ?_
  rw [Directory.mem_keys, ← Option.isSome_iff_exists, get?_spread]
  split <;> simp_all

theorem spread_eq_of_perm (workers : List WorkerId) (perm : listed.Perm jobs) :
    spread.preferences workers listed = spread.preferences workers jobs := by
  refine Directory.ext_get? fun j => ?_
  rw [get?_spread, get?_spread, inOrder_eq_of_perm perm, perm.length_eq]
  simp only [perm.mem_iff]

/-- If no hand has a worker twice, the preferences are the hands. -/
theorem values_spread (nodup : jobs.Nodup)
    (once : ∀ place < jobs.length,
      (hand workers jobs.length (max jobs.length workers.length) place).Nodup) :
    (spread.preferences workers jobs).values =
      (List.range jobs.length).map
        (hand workers jobs.length (max jobs.length workers.length)) := by
  have nodup' : (inOrder jobs).Nodup := (perm_inOrder jobs).nodup_iff.2 nodup
  rw [Directory.values_eq_map_keys _ [], keys_eq_inOrder (keys_spread workers nodup)]
  refine List.ext_getElem (by simp [length_inOrder]) fun place less _ => ?_
  rw [List.length_map] at less
  have inJobs : (inOrder jobs)[place] ∈ jobs := (perm_inOrder jobs).mem_iff.1 (List.getElem_mem less)
  have dealt := dealtTo_range workers nodup' less (max jobs.length workers.length)
  rw [length_inOrder] at less dealt
  have clean : ([] ++ hand workers jobs.length (max jobs.length workers.length) place).Nodup :=
    once place less
  rw [List.getElem_map, List.getElem_map, List.getElem_range, get?_spread, if_pos inJobs, dealt,
    foldl_addWorker_of_nodup clean, Option.getD_some, List.nil_append]

/-! ### Enough workers -/

/-- A hand of a deal is found by the places of its elements. -/
theorem deal_eq_map {α : Type} (n : Nat) (xs : List α) : SplitStrategy.deal n xs =
    (List.range n).map fun i =>
      ((List.range xs.length).filter fun k => k % n == i).filterMap fun k => xs[k]? := by
  have places : List.range xs.length = xs.zipIdx.map (·.2) := by
    rw [List.zipIdx_map_snd, List.range_eq_range']
  rw [SplitStrategy.deal]
  refine List.map_congr_left fun i _ => ?_
  have found : ∀ x ∈ xs.zipIdx.filter fun x => x.2 % n == i, xs[x.2]? = some x.1 := fun x hx =>
    List.mk_mem_zipIdx_iff_getElem?.1 (List.mem_filter.1 hx).1
  rw [places, List.filter_map, List.filterMap_map, ← List.filterMap_eq_map]
  exact List.filterMap_congr fun x hx => (found x hx).symm

theorem deal_eq_map_hand (n : Nat) (workers : List WorkerId) : SplitStrategy.deal n workers =
    (List.range n).map (hand workers n workers.length) := by
  rw [deal_eq_map]
  refine List.map_congr_left fun place _ => List.filterMap_congr fun i hi => ?_
  rw [Nat.mod_eq_of_lt (List.mem_range.1 (List.mem_filter.1 hi).1)]

theorem nodup_flatten_deal {n : Nat} (pos : 0 < n) (nodup : workers.Nodup) :
    (SplitStrategy.deal n workers).flatten.Nodup :=
  (SplitStrategy.flatten_deal pos workers).nodup_iff.2 nodup

/-- If there are enough workers for all jobs, they are dealt out to the jobs. -/
theorem values_spread_of_ample (nodup : jobs.Nodup) (distinct : workers.Nodup)
    (ample : jobs.length ≤ workers.length) : (spread.preferences workers jobs).values =
      SplitStrategy.deal jobs.length workers := by
  have turns : max jobs.length workers.length = workers.length := Nat.max_eq_right ample
  rw [values_spread nodup fun place less => ?_, turns, deal_eq_map_hand]
  have apart := nodup_flatten_deal (Nat.zero_lt_of_lt less) distinct
  rw [deal_eq_map_hand] at apart
  rw [turns]
  exact (List.nodup_flatten.1 apart).1 _ (List.mem_map_of_mem (List.mem_range.2 less))

/-! ### Fewer workers than jobs -/

theorem hand_of_scarce {n place : Nat} (less : place < n) :
    hand workers n n place = (workers[place % workers.length]?).toList := by
  have turn : ((List.range n).filter fun i => i % n == place) = [place] := by
    have own : ((List.range n).filter fun i => i % n == place) =
        (List.range n).filter fun i => i == place := List.filter_congr fun i hi => by
      rw [Nat.mod_eq_of_lt (List.mem_range.1 hi)]
    rw [own, List.filter_beq, List.nodup_range.count, if_pos (List.mem_range.2 less)]
    rfl
  rw [hand, turn, List.filterMap_cons]
  cases workers[place % workers.length]? <;> rfl

/-- If there are fewer workers than jobs, each job is dealt a single one. -/
theorem values_spread_of_scarce (nodup : jobs.Nodup) (scarce : workers.length ≤ jobs.length) :
    (spread.preferences workers jobs).values =
      (List.range jobs.length).map fun place => (workers[place % workers.length]?).toList := by
  have turns : max jobs.length workers.length = jobs.length := Nat.max_eq_left scarce
  rw [values_spread nodup fun place less => ?_, turns]
  · exact List.map_congr_left fun place hplace => hand_of_scarce (List.mem_range.1 hplace)
  · rw [turns, hand_of_scarce less]
    cases workers[place % workers.length]? <;> simp

/-- How many jobs prefer a worker. -/
def demand (p : Preferences) (w : WorkerId) : Nat := p.values.countP fun ws => ws.contains w

/-- The jobs of a worker are a hand of the jobs dealt out to the workers. -/
theorem demand_of_scarce (nodup : jobs.Nodup) (distinct : workers.Nodup)
    (scarce : workers.length ≤ jobs.length) (listed : w ∈ workers) :
    ∃ places ∈ SplitStrategy.deal workers.length (List.range jobs.length),
      demand (spread.preferences workers jobs) w = places.length := by
  obtain ⟨i, less, rfl⟩ := List.getElem_of_mem listed
  rw [demand, values_spread_of_scarce nodup scarce, List.countP_map, deal_eq_map, List.length_range]
  refine ⟨_, List.mem_map_of_mem (List.mem_range.2 less), ?_⟩
  have all : ((List.range jobs.length).filter fun k =>
      k % workers.length == i).filterMap (fun k => (List.range jobs.length)[k]?) =
      (List.range jobs.length).filter fun k => k % workers.length == i := by
    refine (List.filterMap_congr fun k hk => ?_).trans List.filterMap_some
    exact List.getElem?_range (List.mem_range.1 (List.mem_filter.1 hk).1)
  rw [all, ← List.countP_eq_length_filter]
  refine List.countP_congr fun k _ => ?_
  have inRange : k % workers.length < workers.length := Nat.mod_lt _ (Nat.zero_lt_of_lt less)
  rw [Function.comp_apply, List.getElem?_eq_getElem inRange, Option.toList_some,
    List.contains_iff_mem, List.mem_singleton, beq_iff_eq, distinct.getElem_inj_iff, eq_comm]

/-! ## All that spreading does -/

/-- Preferences that spread workers over jobs. -/
structure SpreadsEvenly (workers : List WorkerId) (jobs : List JobId) (p : Preferences) :
    Prop where
  keys : p.keys.Perm jobs
  anyOrder : ∀ listed : List JobId, listed.Perm jobs → spread.preferences workers listed = p
  nobody : workers = [] → ∀ ws ∈ p.values, ws = []
  /-- With enough workers no two jobs share one. -/
  disjoint : jobs.length ≤ workers.length → ∀ j k ws vs, j ≠ k →
    p.get? j = some ws → p.get? k = some vs → ws.Disjoint vs
  /-- Every worker then is preferred by some job. -/
  covers : jobs.length ≤ workers.length → p.values.flatten.Perm workers
  even : jobs.length ≤ workers.length →
    ∀ ws ∈ p.values, ∀ vs ∈ p.values, ws.length ≤ vs.length + 1
  /-- With fewer workers each job has one of them. -/
  single : workers ≠ [] → workers.length < jobs.length → ∀ ws ∈ p.values, ∃ w ∈ workers, ws = [w]
  shared : workers.length < jobs.length →
    ∀ v ∈ workers, ∀ w ∈ workers, demand p v ≤ demand p w + 1

/-- Two keys of a directory hold values at different places. -/
theorem exists_places {p : Preferences} {j k : JobId} {ws vs : List WorkerId} (other : j ≠ k)
    (hj : p.get? j = some ws) (hk : p.get? k = some vs) :
    ∃ a b : Nat, a ≠ b ∧ p.values[a]? = some ws ∧ p.values[b]? = some vs := by
  obtain ⟨a, ha⟩ := List.getElem?_of_mem (Directory.get?_eq_some_iff.1 hj)
  obtain ⟨b, hb⟩ := List.getElem?_of_mem (Directory.get?_eq_some_iff.1 hk)
  refine ⟨a, b, fun same => ?_, ?_, ?_⟩
  · subst same
    rw [ha] at hb
    cases hb
    exact other rfl
  · rw [Directory.values, List.getElem?_map, ha]
    rfl
  · rw [Directory.values, List.getElem?_map, hb]
    rfl

/-- Parts of a list without repetitions at different places share nothing. -/
theorem disjoint_of_nodup_flatten {α : Type} {parts : List (List α)} (nodup : parts.flatten.Nodup)
    {a b : Nat} (other : a ≠ b) {xs ys : List α} (ha : parts[a]? = some xs)
    (hb : parts[b]? = some ys) : xs.Disjoint ys := by
  have apart := List.pairwise_iff_getElem.1 (List.nodup_flatten.1 nodup).2
  obtain ⟨la, rfl⟩ := List.getElem?_eq_some_iff.1 ha
  obtain ⟨lb, rfl⟩ := List.getElem?_eq_some_iff.1 hb
  rcases Nat.lt_or_gt_of_ne other with less | less
  · exact apart a b la lb less
  · exact fun x hx hy => apart b a lb la less hy hx

/-- Spreading different workers over different jobs gives each of the jobs its share. -/
theorem spreadsEvenly (distinct : workers.Nodup) (nodup : jobs.Nodup) (some : jobs ≠ []) :
    SpreadsEvenly workers jobs (spread.preferences workers jobs) := by
  have pos : 0 < jobs.length := List.length_pos_of_ne_nil some
  refine ⟨keys_spread workers nodup, fun listed perm => spread_eq_of_perm workers perm,
    fun nobody ws hws => ?_, fun ample j k ws vs other hj hk => ?_, fun ample => ?_,
    fun ample ws hws vs hvs => ?_, fun somebody scarce ws hws => ?_,
    fun scarce v hv w hw => ?_⟩
  · subst nobody
    rw [values_spread_of_scarce nodup (Nat.zero_le _)] at hws
    obtain ⟨place, -, rfl⟩ := List.mem_map.1 hws
    rfl
  · obtain ⟨a, b, apart, ha, hb⟩ := exists_places other hj hk
    rw [values_spread_of_ample nodup distinct ample] at ha hb
    exact disjoint_of_nodup_flatten (nodup_flatten_deal pos distinct) apart ha hb
  · rw [values_spread_of_ample nodup distinct ample]
    exact SplitStrategy.flatten_deal pos workers
  · rw [values_spread_of_ample nodup distinct ample] at hws hvs
    exact (SplitStrategy.dealt_deal pos workers).even ws hws vs hvs
  · rw [values_spread_of_scarce nodup (Nat.le_of_lt scarce)] at hws
    obtain ⟨place, -, rfl⟩ := List.mem_map.1 hws
    have inRange := Nat.mod_lt place (List.length_pos_of_ne_nil somebody)
    rw [List.getElem?_eq_getElem inRange]
    exact ⟨_, List.getElem_mem inRange, rfl⟩
  · obtain ⟨places, dealt, demand⟩ := demand_of_scarce nodup distinct (Nat.le_of_lt scarce) hv
    obtain ⟨places', dealt', demand'⟩ := demand_of_scarce nodup distinct (Nat.le_of_lt scarce) hw
    rw [demand, demand']
    have somebody : 0 < workers.length := List.length_pos_of_mem hv
    exact (SplitStrategy.dealt_deal somebody _).even places dealt places' dealt'

/-- Two jobs, listed out of order, that get five workers. -/
theorem spreadsEvenly_fiveOverTwo :
    let workers : List WorkerId := [⟨"w1"⟩, ⟨"w2"⟩, ⟨"w3"⟩, ⟨"w4"⟩, ⟨"w5"⟩]
    let jobs : List JobId := [⟨"b"⟩, ⟨"a"⟩]
    (workers.Nodup ∧ jobs.Nodup ∧ jobs ≠ []) ∧
      (spread.preferences workers jobs).entries =
        [(⟨"a"⟩, [⟨"w1"⟩, ⟨"w3"⟩, ⟨"w5"⟩]), (⟨"b"⟩, [⟨"w2"⟩, ⟨"w4"⟩])] ∧
      SpreadsEvenly workers jobs (spread.preferences workers jobs) :=
  ⟨by decide, by decide, spreadsEvenly (by decide) (by decide) (by decide)⟩

end TestFleet.Assignment
