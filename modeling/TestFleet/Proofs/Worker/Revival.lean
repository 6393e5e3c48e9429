import Mathlib.Data.List.Infix
import Mathlib.Data.List.Nodup
import TestFleet.Worker.Rehearsal
import TestFleet.Worker.Revival

/-!
# What a run asks for and delivers

A runner is watched by the log of its invocations: what each was asked for and what the runner did.
Nothing is assumed of the runner, so the log may say anything; the entries have different names.

* `once_eq`: what one invocation is heard to say of each entry;
* `Revived`: the invocations that follow when some entries are missing, and `revive_recorded`: the
  invocations of a run are such;
* `Revived.asked`, `Revived.length_le`, `Revived.enough`, `Revived.not_enough`,
  `Revived.find?_results`: what follows for the log, each by induction on it;
* `run_revives`: a run by its log;
* `run_eq_once`: a run by a runner that is heard on all entries at once, whatever their names.
-/

namespace TestFleet.Runner

/-! ## Invocations -/

/-- One asking of a runner: the entries it was asked for and what it did. -/
structure Invocation where
  asked : List TestEntry
  performance : Performance
  deriving DecidableEq, Repr

/-- A runner that keeps a log of what it was asked for and did. -/
def recorded {ρ : Type} (runner : TestRunner ρ) : TestRunner (ρ × List Invocation) :=
  fun context entries (r, log) =>
    let (performance, r) := runner context entries r
    (performance, r, log ++ [⟨entries, performance⟩])

/-- The invocations of a runner in a run. -/
def invocations {ρ : Type} (runner : TestRunner ρ) (wall : Timestamp) (context : RunContext)
    (entries : List TestEntry) (r : ρ) : List Invocation :=
  (run (recorded runner) wall context entries (r, [])).2.2.2

namespace Invocation

/-- The run that an entry is failed with when its runner breaks down. -/
def broken (wall : Timestamp) (context : RunContext) (fault : RunnerFault) : TestRun :=
  .failed wall context.host context.simulator
    ⟨failedToStart ++ ": " ++ fault.message, "<source>", 0⟩

/-- What an invocation says of an entry it was asked for: the ends of its test in order, and a
failed run if the runner broke down. -/
def runs (wall : Timestamp) (context : RunContext) (i : Invocation) (e : TestEntry) :
    List TestRun :=
  ((stops i.performance.signals).filter fun s => s.test == e.name).map (runOf context) ++
    (i.performance.fault.map (broken wall context)).toList

/-- Whether an invocation says something of an entry that it was asked for. -/
def reportsOn (i : Invocation) (e : TestEntry) : Bool :=
  i.asked.contains e &&
    ((stops i.performance.signals).any (fun s => s.test == e.name) || i.performance.fault.isSome)

/-- Whether an invocation says nothing of any entry that it was asked for. -/
def isFruitless (i : Invocation) : Bool := i.asked.all fun e => !i.reportsOn e

theorem isFruitless_iff {i : Invocation} :
    i.isFruitless = true ↔ ∀ e ∈ i.asked, i.reportsOn e = false := by
  simp [isFruitless]

theorem isEmpty_runs (wall : Timestamp) (context : RunContext) {i : Invocation} {e : TestEntry}
    (asked : e ∈ i.asked) : (i.runs wall context e).isEmpty = !i.reportsOn e := by
  rw [runs, reportsOn, List.contains_iff_mem.2 asked, Bool.true_and, Bool.eq_iff_iff]
  cases i.performance.fault <;> simp

end Invocation

/-! ## One invocation -/

theorem stops_append (xs ys : List Signal) : stops (xs ++ ys) = stops xs ++ stops ys :=
  List.filterMap_append

/-- Of things with different names, one has a given name. -/
theorem filter_eq_singleton {α ν : Type} [DecidableEq ν] (name : α → ν) {xs : List α}
    (distinct : (xs.map name).Nodup) {x : α} (hx : x ∈ xs) :
    (xs.filter fun y => name y == name x) = [x] := by
  induction xs with
  | nil => cases hx
  | cons y ys ih =>
    obtain ⟨new, distinct⟩ := List.nodup_cons.1 distinct
    rcases List.mem_cons.1 hx with rfl | hx
    · have others : (ys.filter fun y => name y == name x) = [] :=
        List.filter_eq_nil_iff.2 fun y hy same => new (eq_of_beq same ▸ List.mem_map_of_mem hy)
      rw [List.filter_cons, if_pos (beq_self_eq_true _), others]
    · have other : name y ≠ name x := fun same => new (same ▸ List.mem_map_of_mem hx)
      rw [List.filter_cons_of_neg (by simpa using other), ih distinct hx]

/-- Tests that are told of one after the other, as each starts and stops. -/
theorem stops_flatMap {α : Type} (test : α → TestName) (stop : α → Stop) (xs : List α) :
    stops (xs.flatMap fun x => [.started (test x), .stopped (stop x)]) = xs.map stop := by
  induction xs with
  | nil => rfl
  | cons x xs ih =>
    rw [List.flatMap_cons, stops_append, ih]
    rfl

theorem resultOf_heard (wall : Timestamp) (context : RunContext) {entries : List TestEntry}
    (distinct : (entries.map TestEntry.name).Nodup) (p : Performance) {e : TestEntry}
    (he : e ∈ entries) :
    resultOf context (stops (heard wall entries p)) e =
      ⟨e, Invocation.runs wall context ⟨entries, p⟩ e⟩ := by
  rw [resultOf, Invocation.runs, heard]
  cases p.fault with
  | none => simp
  | some fault =>
    have own : (entries.map fun e => brokenStop wall fault e.name).filter
        (fun s => s.test == e.name) = [brokenStop wall fault e.name] := by
      rw [List.filter_map]
      exact congrArg _ (filter_eq_singleton TestEntry.name distinct he)
    rw [stops_append, List.filter_append, List.map_append, stops_flatMap, own]
    rfl

/-- What is heard of the entries of one invocation, and that keeping a log changes none of it. -/
theorem once_eq {ρ : Type} (runner : TestRunner ρ) (wall : Timestamp) (context : RunContext)
    {entries : List TestEntry} (some : entries ≠ [])
    (distinct : (entries.map TestEntry.name).Nodup) (r : ρ) (log : List Invocation) :
    ∃ i : Invocation, i.asked = entries ∧
      (once runner wall context entries r).1 = entries.map (fun e => ⟨e, i.runs wall context e⟩) ∧
      once (recorded runner) wall context entries (r, log) =
        ((once runner wall context entries r).1, (once runner wall context entries r).2.1,
          (once runner wall context entries r).2.2, log ++ [i]) := by
  refine ⟨⟨entries, (runner context entries r).1⟩, rfl, ?_, ?_⟩
  · rw [once, if_neg (by simpa using some)]
    exact List.map_congr_left fun e he => resultOf_heard wall context distinct _ he
  · simp only [once, recorded, if_neg (show ¬ entries.isEmpty = true by simpa using some)]

section Results

variable {wall : Timestamp} {context : RunContext} {i : Invocation}

theorem all_isLost_results :
    (i.asked.map fun e => (⟨e, i.runs wall context e⟩ : EntryResult)).all EntryResult.isLost =
      i.isFruitless := by
  rw [List.all_map, Invocation.isFruitless, Bool.eq_iff_iff, List.all_eq_true, List.all_eq_true]
  exact forall₂_congr fun e he => by rw [← i.isEmpty_runs wall context he]; rfl

theorem lost_results :
    lost (i.asked.map fun e => ⟨e, i.runs wall context e⟩) = i.asked.filter (!i.reportsOn ·) := by
  rw [lost, List.filter_map, List.map_map]
  refine (List.map_id'' (fun _ => rfl) _).trans (List.filter_congr fun e he => ?_)
  exact i.isEmpty_runs wall context he

theorem filter_results :
    (i.asked.map fun e => (⟨e, i.runs wall context e⟩ : EntryResult)).filter (!·.isLost) =
      (i.asked.filter i.reportsOn).map fun e => ⟨e, i.runs wall context e⟩ := by
  rw [List.filter_map]
  refine congrArg _ (List.filter_congr fun e he => ?_)
  exact (congrArg _ (i.isEmpty_runs wall context he)).trans (Bool.not_not _)

end Results

/-! ## The log of a run -/

/-- What is logged and heard from when `missing` entries are left on, with a runner that said
nothing the last `silent` times. -/
inductive Revived (wall : Timestamp) (context : RunContext) :
    List TestEntry → Nat → List Invocation → List EntryResult → Prop
  | stopped {missing : List TestEntry} {silent : Nat} (ended : missing = [] ∨ revivals < silent) :
    Revived wall context missing silent [] []
  | again {missing : List TestEntry} {silent : Nat} {log : List Invocation}
      {results : List EntryResult} (i : Invocation) (asked : i.asked = missing)
      (left : missing ≠ []) (patient : silent ≤ revivals)
      (later : Revived wall context (missing.filter (!i.reportsOn ·))
        (if i.isFruitless then silent + 1 else 0) log results) :
    Revived wall context missing silent (i :: log)
      ((missing.filter i.reportsOn).map (fun e => ⟨e, i.runs wall context e⟩) ++ results)

namespace Revived

variable {wall : Timestamp} {context : RunContext} {i : Invocation} {silent : Nat}
  {log : List Invocation} {results : List EntryResult}

/-- An invocation that said nothing leaves all that it was asked for. -/
theorem again_fruitless (left : i.asked ≠ []) (patient : silent ≤ revivals)
    (fruitless : i.isFruitless = true)
    (later : Revived wall context i.asked (silent + 1) log results) :
    Revived wall context i.asked silent (i :: log) results := by
  have none := Invocation.isFruitless_iff.1 fruitless
  have missed : i.asked.filter (!i.reportsOn ·) = i.asked :=
    List.filter_eq_self.2 fun e he => by rw [none e he]; rfl
  have told : i.asked.filter i.reportsOn = [] :=
    List.filter_eq_nil_iff.2 fun e he => by rw [none e he]; exact Bool.false_ne_true
  have next : Revived wall context (i.asked.filter (!i.reportsOn ·))
      (if i.isFruitless then silent + 1 else 0) log results := by
    rw [missed, if_pos fruitless]
    exact later
  have step := again i rfl left patient next
  rwa [told, List.map_nil, List.nil_append] at step

/-- After an invocation that said something the count starts again. -/
theorem again_fruitful (left : i.asked ≠ []) (patient : silent ≤ revivals)
    (fruitful : i.isFruitless = false)
    (later : Revived wall context (i.asked.filter (!i.reportsOn ·)) 0 log results) :
    Revived wall context i.asked silent (i :: log)
      ((i.asked.filter i.reportsOn).map (fun e => ⟨e, i.runs wall context e⟩) ++ results) := by
  refine again i rfl left patient ?_
  rw [fruitful]
  exact later

end Revived

theorem nodup_names_filter {entries : List TestEntry}
    (distinct : (entries.map TestEntry.name).Nodup) (p : TestEntry → Bool) :
    ((entries.filter p).map TestEntry.name).Nodup :=
  distinct.sublist (List.filter_sublist.map _)

section Step

variable {ρ : Type} {runner : TestRunner ρ} {wall : Timestamp} {context : RunContext}
  {missing : List TestEntry} {silent : Nat} {r : ρ}

theorem revive_quiet (go : ¬ (missing.isEmpty ∨ revivals < silent))
    (quiet : (once runner wall context missing r).1.all EntryResult.isLost = true) :
    revive runner wall context missing silent r =
      let asked := once runner wall context missing r
      let later := revive runner wall context missing (silent + 1) asked.2.2
      (later.1, asked.2.1 ++ later.2.1, later.2.2) := by
  rw [revive, if_neg go]
  dsimp only
  split
  · rfl
  · next told => exact absurd quiet (by rw [told]; exact Bool.false_ne_true)

theorem revive_heard (go : ¬ (missing.isEmpty ∨ revivals < silent))
    (told : (once runner wall context missing r).1.all EntryResult.isLost = false) :
    revive runner wall context missing silent r =
      let asked := once runner wall context missing r
      let later := revive runner wall context (lost asked.1) 0 asked.2.2
      (asked.1.filter (!·.isLost) ++ later.1, asked.2.1 ++ later.2.1, later.2.2) := by
  rw [revive, if_neg go]
  dsimp only
  split
  · next quiet => exact absurd quiet (by rw [told]; exact Bool.false_ne_true)
  · rfl

end Step

/-- The invocations of a runner are such, and keeping a log of them changes nothing else. -/
theorem revive_recorded {ρ : Type} (runner : TestRunner ρ) (wall : Timestamp)
    (context : RunContext) (missing : List TestEntry) (silent : Nat) (r : ρ)
    (distinct : (missing.map TestEntry.name).Nodup) (before : List Invocation) :
    ∃ log, Revived wall context missing silent log
        (revive runner wall context missing silent r).1 ∧
      revive (recorded runner) wall context missing silent (r, before) =
        ((revive runner wall context missing silent r).1,
          (revive runner wall context missing silent r).2.1,
          (revive runner wall context missing silent r).2.2, before ++ log) := by
  -- Along the recursion of the run. The log before it grows with each step, so it is any log.
  fun_induction revive runner wall context missing silent r generalizing before with
  | case1 missing silent r ended =>
    refine ⟨[], .stopped (ended.imp_left List.isEmpty_iff.1), ?_⟩
    rw [revive, if_pos ended, List.append_nil]
  | case2 missing silent r go asked quiet later ih =>
    obtain ⟨left, patient⟩ : missing ≠ [] ∧ silent ≤ revivals := by simpa using go
    obtain ⟨i, rfl, heard, logged⟩ := once_eq runner wall context left distinct r before
    obtain ⟨log, revived, rest⟩ := ih distinct (before ++ [i])
    have fruitless : i.isFruitless = true := by
      rw [← all_isLost_results, ← heard]
      exact quiet
    refine ⟨i :: log, revived.again_fruitless left patient fruitless, ?_⟩
    rw [revive_quiet go (by rw [logged]; exact quiet), logged]
    simp only [rest, asked, later, List.append_assoc, List.singleton_append]
  | case3 missing silent r go asked told later ih =>
    obtain ⟨left, patient⟩ : missing ≠ [] ∧ silent ≤ revivals := by simpa using go
    obtain ⟨i, rfl, heard, logged⟩ := once_eq runner wall context left distinct r before
    have missed : lost asked.1 = i.asked.filter (!i.reportsOn ·) := by
      rw [← lost_results, ← heard]
    have fruitful : i.isFruitless = false := by
      rw [← all_isLost_results, ← heard]
      exact told
    obtain ⟨log, revived, rest⟩ :=
      ih (by rw [missed]; exact nodup_names_filter distinct _) (before ++ [i])
    have next : Revived wall context (i.asked.filter (!i.reportsOn ·)) 0 log later.1 := by
      rw [← missed]
      exact revived
    refine ⟨i :: log, ?_, ?_⟩
    · have step := next.again_fruitful left patient fruitful
      rwa [← filter_results, ← heard] at step
    · rw [revive_heard go (by rw [logged]; exact told), logged]
      simp only [asked] at rest
      simp only [rest, asked, later, List.append_assoc, List.singleton_append]

/-! ## What the log tells -/

/-- Whether a log is enough after `silent` invocations that said nothing: every missing entry is
reported on, or two invocations in a row said nothing. -/
def Enough (missing : List TestEntry) (silent : Nat) (log : List Invocation) : Prop :=
  (∀ e ∈ missing, ∃ i ∈ log, i.reportsOn e = true) ∨
    [true, true] <:+: List.replicate silent true ++ log.map Invocation.isFruitless

theorem enough_nil {missing : List TestEntry} {silent : Nat} :
    Enough missing silent [] ↔ missing = [] ∨ revivals < silent := by
  refine or_congr ?_ ?_
  · simp [List.eq_nil_iff_forall_not_mem]
  · rw [List.map_nil, List.append_nil]
    constructor
    · intro twice
      have := twice.length_le
      rwa [List.length_replicate] at this
    · intro many
      obtain ⟨n, rfl⟩ := Nat.exists_eq_add_of_lt many
      refine ⟨[], List.replicate n true, ?_⟩
      rw [show revivals + n + 1 = n + 2 by rw [revivals]; omega]
      rfl

/-- One invocation more to look at: only what it leaves is missing after it, and it ends a row of
invocations that said nothing unless it says nothing either. -/
theorem enough_cons {missing : List TestEntry} {silent : Nat} {log : List Invocation}
    (patient : silent ≤ revivals) (i : Invocation) :
    Enough missing silent (i :: log) ↔
      Enough (missing.filter (!i.reportsOn ·)) (if i.isFruitless then silent + 1 else 0) log := by
  refine or_congr ?_ ?_
  · constructor
    · intro all e he
      obtain ⟨he, missed⟩ := List.mem_filter.1 he
      obtain ⟨j, hj, told⟩ := all e he
      rcases List.mem_cons.1 hj with rfl | hj
      · simp [told] at missed
      · exact ⟨j, hj, told⟩
    · intro all e he
      cases told : i.reportsOn e with
      | true => exact ⟨i, List.mem_cons_self, told⟩
      | false =>
        obtain ⟨j, hj, told⟩ := all e (List.mem_filter.2 ⟨he, by rw [told]; rfl⟩)
        exact ⟨j, List.mem_cons_of_mem i hj, told⟩
  · rw [List.map_cons]
    cases i.isFruitless with
    | true => rw [if_pos rfl, List.replicate_succ', List.append_assoc, List.singleton_append]
    | false =>
      rw [if_neg Bool.false_ne_true, List.replicate_zero, List.nil_append]
      -- At most one invocation said nothing so far, so there is no row of two up to this one.
      have cases : silent = 0 ∨ silent = 1 := by
        rw [revivals] at patient
        omega
      rcases cases with rfl | rfl <;> simp [List.infix_cons_iff, List.cons_prefix_cons]

namespace Revived

variable {wall : Timestamp} {context : RunContext} {missing : List TestEntry} {silent : Nat}
  {log : List Invocation} {results : List EntryResult}

theorem asked (h : Revived wall context missing silent log results) {before : List Invocation}
    {i : Invocation} {after : List Invocation} (split : log = before ++ i :: after) :
    i.asked = missing.filter fun e => !before.any fun j => j.reportsOn e := by
  induction h generalizing before with
  | stopped => simp at split
  | again j asked left patient later ih =>
    cases before with
    | nil =>
      obtain ⟨rfl, -⟩ := List.cons.inj split
      simpa using asked
    | cons j before =>
      obtain ⟨rfl, rest⟩ := List.cons.inj split
      rw [ih rest, List.filter_filter]
      exact List.filter_congr fun e _ => by rw [List.any_cons, Bool.not_or, Bool.and_comm]

/-- Every invocation that says something leaves fewer entries, and after it there is patience for
two that say nothing. -/
theorem length_le (h : Revived wall context missing silent log results) :
    log.length ≤ 2 * missing.length - silent := by
  induction h with
  | stopped => exact Nat.zero_le _
  | again i asked left patient later ih =>
    subst asked
    have pos := List.length_pos_of_ne_nil left
    rw [revivals] at patient
    cases quiet : i.isFruitless with
    | true =>
      have fewer := List.length_filter_le (fun e => !i.reportsOn e) i.asked
      rw [quiet, if_pos rfl] at ih
      rw [List.length_cons]
      omega
    | false =>
      have fewer : (i.asked.filter (!i.reportsOn ·)).length < i.asked.length := by
        rw [List.length_filter_lt_length_iff_exists]
        simpa [Invocation.isFruitless] using quiet
      rw [quiet, if_neg Bool.false_ne_true] at ih
      rw [List.length_cons]
      omega

theorem enough (h : Revived wall context missing silent log results) :
    Enough missing silent log := by
  induction h with
  | stopped ended => exact enough_nil.2 ended
  | again i asked left patient later ih => exact (enough_cons patient i).2 ih

theorem not_enough (h : Revived wall context missing silent log results)
    {before : List Invocation} (start : before <+: log) (more : before ≠ log) :
    ¬ Enough missing silent before := by
  induction h generalizing before with
  | stopped => exact absurd (List.prefix_nil.1 start) more
  | again i asked left patient later ih =>
    cases before with
    | nil =>
      rw [enough_nil, not_or]
      exact ⟨left, Nat.not_lt.2 patient⟩
    | cons j before =>
      obtain ⟨rfl, before_log⟩ := List.cons_prefix_cons.1 start
      rw [enough_cons patient]
      exact ih before_log fun same => more (by rw [same])

theorem find?_map_entry (f : TestEntry → List TestRun) (es : List TestEntry) (e : TestEntry) :
    (es.map fun e => (⟨e, f e⟩ : EntryResult)).find? (fun r => r.entry == e) =
      if e ∈ es then some ⟨e, f e⟩ else none := by
  induction es with
  | nil => rfl
  | cons x xs ih =>
    rw [List.map_cons, List.find?_cons, ih]
    by_cases same : x = e
    · subst same
      simp
    · rw [beq_false_of_ne same]
      simp [Ne.symm same]

/-- What is heard of an entry is what the first invocation said that reported on it. -/
theorem find?_results (h : Revived wall context missing silent log results) {e : TestEntry}
    (he : e ∈ missing) :
    results.find? (fun r => r.entry == e) =
      (log.find? fun i => i.reportsOn e).map fun i => ⟨e, i.runs wall context e⟩ := by
  induction h with
  | stopped ended => rfl
  | again i asked left patient later ih =>
    rw [List.find?_append, find?_map_entry, List.find?_cons]
    cases told : i.reportsOn e with
    | true => rw [if_pos (List.mem_filter.2 ⟨he, told⟩), Option.some_or, Option.map_some]
    | false =>
      rw [if_neg fun mem => Bool.false_ne_true (told.symm.trans (List.mem_filter.1 mem).2),
        Option.none_or, ih (List.mem_filter.2 ⟨he, by rw [told]; rfl⟩)]

end Revived

/-! ## What is delivered -/

/-- Of entries that are listed once, each gets what was heard of it first, if anything. -/
theorem deliver_eq (wall : Timestamp) (context : RunContext) {entries : List TestEntry}
    (once : entries.Nodup) (results : List EntryResult) :
    deliver wall context entries results = entries.map fun e =>
      (results.find? fun r => r.entry == e).getD
        (.didNotRun wall context.host context.simulator e) := by
  induction entries generalizing results with
  | nil => rfl
  | cons e es ih =>
    obtain ⟨new, once⟩ := List.nodup_cons.1 once
    rw [deliver, List.map_cons]
    cases found : results.find? fun r => r.entry == e with
    | none =>
      rw [Option.getD_none, ← ih once]
    | some r =>
      rw [Option.getD_some]
      refine congrArg _ ((ih once _).trans (List.map_congr_left fun e' he' => ?_))
      have other : e' ≠ e := fun same => new (same ▸ he')
      rw [List.find?_filter]
      congr 2
      funext r
      by_cases same : r.entry = e'
      · simp [same, other]
      · simp [same]

theorem eraseDups_of_nodup {entries : List TestEntry} (once : entries.Nodup) :
    entries.eraseDups = entries := by
  induction entries with
  | nil => rfl
  | cons e es ih =>
    obtain ⟨new, once⟩ := List.nodup_cons.1 once
    have others : es.filter (fun e' => !e' == e) = es :=
      List.filter_eq_self.2 fun e' he' => by
        have other : e' ≠ e := fun same => new (same ▸ he')
        simpa using other
    rw [List.eraseDups_cons, others, ih once]

theorem once_nil {ρ : Type} (runner : TestRunner ρ) (wall : Timestamp) (context : RunContext)
    (r : ρ) : once runner wall context [] r = ([], [], r) := rfl

theorem revive_nil {ρ : Type} (runner : TestRunner ρ) (wall : Timestamp) (context : RunContext)
    (silent : Nat) (r : ρ) : revive runner wall context [] silent r = ([], [], r) := by
  rw [revive, if_pos (.inl rfl)]

/-- The results of one asking are for the entries that were asked for. -/
theorem exists_once_eq {ρ : Type} (runner : TestRunner ρ) (wall : Timestamp)
    (context : RunContext) (entries : List TestEntry) (r : ρ) :
    ∃ runs : TestEntry → List TestRun,
      (once runner wall context entries r).1 = entries.map fun e => ⟨e, runs e⟩ := by
  cases entries with
  | nil => exact ⟨fun _ => [], rfl⟩
  | cons e es =>
    rw [once, if_neg (by simp)]
    let told := stops (heard wall (e :: es) (runner context (e :: es) r).1)
    exact ⟨fun x => (resultOf context told x).runs, rfl⟩

/-- A runner that is heard on all entries is not asked again. -/
theorem revive_eq_once {ρ : Type} (runner : TestRunner ρ) (wall : Timestamp)
    (context : RunContext) (entries : List TestEntry) (r : ρ)
    (heard : ∀ x ∈ (once runner wall context entries r).1, x.isLost = false) :
    revive runner wall context entries 0 r = once runner wall context entries r := by
  cases entries with
  | nil => rw [revive_nil, once_nil]
  | cons e es =>
    obtain ⟨runs, results⟩ := exists_once_eq runner wall context (e :: es) r
    have first : ⟨e, runs e⟩ ∈ (once runner wall context (e :: es) r).1 := by
      rw [results]
      exact List.mem_cons_self
    have told : (once runner wall context (e :: es) r).1.all EntryResult.isLost = false :=
      List.all_eq_false.2 ⟨_, first, by rw [heard _ first]; exact Bool.false_ne_true⟩
    have none : lost (once runner wall context (e :: es) r).1 = [] := by
      rw [lost, List.filter_eq_nil_iff.2 fun x hx => by rw [heard x hx]; exact Bool.false_ne_true]
      rfl
    have all : (once runner wall context (e :: es) r).1.filter (!·.isLost) =
        (once runner wall context (e :: es) r).1 :=
      List.filter_eq_self.2 fun x hx => by rw [heard x hx]; rfl
    have go : ¬ ((e :: es).isEmpty ∨ revivals < 0) := by simp
    rw [revive_heard go told]
    dsimp only
    rw [none, revive_nil, all, List.append_nil, List.append_nil]

/-- Results for all of the entries are delivered as they are. -/
theorem deliver_map (wall : Timestamp) (context : RunContext) {entries : List TestEntry}
    (listed : entries.Nodup) (runs : TestEntry → List TestRun) :
    deliver wall context entries (entries.map fun e => ⟨e, runs e⟩) =
      entries.map fun e => ⟨e, runs e⟩ := by
  refine (deliver_eq wall context listed _).trans (List.map_congr_left fun e he => ?_)
  rw [Revived.find?_map_entry, if_pos he, Option.getD_some]

/-- A run by a runner that is heard on all entries is one asking. -/
theorem run_eq_once {ρ : Type} (runner : TestRunner ρ) (wall : Timestamp) (context : RunContext)
    {entries : List TestEntry} (listed : entries.Nodup) (r : ρ)
    (heard : ∀ x ∈ (once runner wall context entries r).1, x.isLost = false) :
    run runner wall context entries r = once runner wall context entries r := by
  obtain ⟨runs, results⟩ := exists_once_eq runner wall context entries r
  have delivered : deliver wall context entries (once runner wall context entries r).1 =
      (once runner wall context entries r).1 := by
    rw [results]
    exact deliver_map wall context listed runs
  rw [run, eraseDups_of_nodup listed, revive_eq_once runner wall context entries r heard]
  dsimp only
  rw [delivered]

/-- What is to be said of a run of entries by the log of its invocations. -/
structure Revives (wall : Timestamp) (context : RunContext) (entries : List TestEntry)
    (log : List Invocation) (results : List EntryResult) : Prop where
  /-- Each invocation is for the entries that none before it reported on. -/
  asked : ∀ before i after, log = before ++ i :: after →
    i.asked = entries.filter fun e => !before.any fun j => j.reportsOn e
  bounded : log.length ≤ 2 * entries.length
  finished : Enough entries 0 log
  /-- Nothing is asked for once it is enough. -/
  unfinished : ∀ before, before <+: log → before ≠ log → ¬ Enough entries 0 before
  /-- Each entry gets what was said of it by the first invocation that reported on it. -/
  results : results = entries.map fun e =>
    match log.find? fun i => i.reportsOn e with
    | some i => ⟨e, i.runs wall context e⟩
    | none => .didNotRun wall context.host context.simulator e

/-- A run of entries whose tests have different names asks any runner again for the entries that it
has not reported on, until it has reported on all or on none twice in a row. -/
theorem run_revives {ρ : Type} (runner : TestRunner ρ) (wall : Timestamp) (context : RunContext)
    (entries : List TestEntry) (r : ρ) (distinct : (entries.map TestEntry.name).Nodup) :
    Revives wall context entries (invocations runner wall context entries r)
      (run runner wall context entries r).1 := by
  have once : entries.Nodup := List.Nodup.of_map _ distinct
  obtain ⟨log, revived, logged⟩ := revive_recorded runner wall context entries 0 r distinct []
  have same : invocations runner wall context entries r = log := by
    rw [invocations, run, eraseDups_of_nodup once, logged, List.nil_append]
  rw [same]
  refine ⟨fun before i after split => revived.asked split, revived.length_le, revived.enough,
    fun before start more => revived.not_enough start more, ?_⟩
  rw [run, eraseDups_of_nodup once]
  refine (deliver_eq wall context once _).trans ?_
  refine List.map_congr_left fun e he => ?_
  rw [revived.find?_results he]
  cases log.find? fun i => i.reportsOn e <;> rfl

/-- Two tests of one class. -/
def pair : List TestEntry := [⟨⟨"LoginTests", "testLogin"⟩, [], none⟩,
  ⟨⟨"LoginTests", "testLogout"⟩, [], none⟩]

/-- A runner that tells of the second test first, and then breaks down. -/
def secondThenBroken : Repertoire where
  left := [⟨[.stopped ⟨⟨"LoginTests", "testLogout"⟩, .passed, .zero, [], ⟨0⟩⟩], none⟩,
    ⟨[], some (.crashed "gone")⟩]

/-- Where the tests of a pair run. -/
def pairContext : RunContext := ⟨.empty, ⟨"iPhone", "iOS 17"⟩, "host", "simulator"⟩

/-- The first test is asked for again, without the second. -/
theorem run_revives_pair : (pair.map TestEntry.name).Nodup ∧
    Revives ⟨0⟩ pairContext pair (invocations played ⟨0⟩ pairContext pair secondThenBroken)
      (run played ⟨0⟩ pairContext pair secondThenBroken).1 :=
  ⟨by decide, run_revives played _ _ pair _ (by decide)⟩

end TestFleet.Runner
