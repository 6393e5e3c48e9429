import TestFleet.Proofs.Worker.Revival

/-!
# Runs by a script

Entries use up the cues of a script one after the other, but what a runner tells of a test it tells
by the test's name. So a run gives each entry the runs of all entries of its name, whatever else
tells them apart.

* `playCues_eq`: what is told of entries by a script that passes and fails tests;
* `run_scripted`: the results of a run by such a script, and what the script was asked for;
* `succeeded_of_mem_run`: one pass is a success of all entries of a name;
* `resultsAreOwn_iff`: each entry gets its own run and no other exactly if no two entries share a
  name; the two entries of `not_resultsAreOwn` do.
-/

namespace TestFleet.Runner

/-- How a test ends on a cue to pass or to fail. -/
def Cue.stop (start : Timestamp) (cue : Cue) (e : TestEntry) : Stop :=
  if cue = .pass then ⟨e.name, .passed, .ofMillis 1, [], start⟩
  else ⟨e.name, .failed, .ofMillis 1, [assertionFailed], start⟩

theorem Cue.stop_test (start : Timestamp) (cue : Cue) (e : TestEntry) :
    (cue.stop start e).test = e.name := by
  rw [stop]
  split <;> rfl

theorem Cue.stop_succeeded (start : Timestamp) (cue : Cue) (e : TestEntry) :
    (cue.stop start e).succeeded = (cue == .pass) := by
  cases cue <;> rfl

/-! ## The cues of entries -/

namespace Script

variable {s : Script}

/-- Whether a script has every test pass or fail. -/
def Decided (s : Script) : Prop :=
  ∀ method cues, s.cues.get? method = some cues → ∀ cue ∈ cues, cue = .pass ∨ cue = .fail

theorem Decided.next (decided : s.Decided) (method : String) :
    ((s.next method).1 = .pass ∨ (s.next method).1 = .fail) ∧ (s.next method).2.Decided := by
  rw [Script.next]
  split
  · rename_i cue rest laid
    have each := decided method (cue :: rest) laid
    refine ⟨each cue List.mem_cons_self, fun method' cues found => ?_⟩
    rw [Directory.get?_insert] at found
    split at found
    · cases found
      exact fun cue later => each cue (List.mem_cons_of_mem _ later)
    · exact decided method' cues found
  · exact ⟨.inl rfl, decided⟩

/-- The cues that entries use up in order, each with its entry. -/
def parts : List TestEntry → Script → List (TestEntry × Cue)
  | [], _ => []
  | e :: es, s => (e, (s.next e.name.methodName).1) :: parts es (s.next e.name.methodName).2

/-- What is left of a script when entries have used up their cues. -/
def after (s : Script) (entries : List TestEntry) : Script :=
  entries.foldl (fun s e => (s.next e.name.methodName).2) s

/-- Each entry has its part, in the order of the entries. -/
theorem map_parts {α : Type} (f : TestEntry → α) (entries : List TestEntry) (s : Script) :
    (s.parts entries).map (fun part => f part.1) = entries.map f := by
  induction entries generalizing s with
  | nil => rfl
  | cons e es ih => rw [parts, List.map_cons, List.map_cons, ih]

theorem next_asked (s : Script) (asked : List (List TestEntry)) (method : String) :
    ({ s with asked := asked } : Script).next method =
      ((s.next method).1, { (s.next method).2 with asked := asked }) := by
  rw [next, next]
  dsimp only
  split <;> rfl

/-- What was asked for before has no part in the cues. -/
theorem parts_asked (entries : List TestEntry) (s : Script) (asked : List (List TestEntry)) :
    ({ s with asked := asked } : Script).parts entries = s.parts entries := by
  induction entries generalizing s with
  | nil => rfl
  | cons e es ih => rw [parts, parts, next_asked, ih]

theorem asked_after (entries : List TestEntry) (s : Script) :
    (s.after entries).asked = s.asked := by
  induction entries generalizing s with
  | nil => rfl
  | cons e es ih =>
    have one : (s.next e.name.methodName).2.asked = s.asked := by
      rw [next]
      split <;> rfl
    exact (ih _).trans one

end Script

/-- A script that passes and fails tests breaks down on none, and tells of each as its cue says. -/
theorem playCues_eq (start : Timestamp) (entries : List TestEntry) {s : Script}
    (decided : s.Decided) :
    playCues start entries s =
      (⟨(s.parts entries).flatMap fun part =>
        [.started part.1.name, .stopped (part.2.stop start part.1)], none⟩, s.after entries) := by
  induction entries generalizing s with
  | nil => rfl
  | cons e es ih =>
    obtain ⟨cue, later⟩ := decided.next e.name.methodName
    rw [playCues, Script.parts, List.flatMap_cons]
    dsimp only
    rw [ih later]
    rcases cue with pass | fail
    · rw [pass]
      rfl
    · rw [fail]
      rfl

/-! ## Results -/

section Results

variable {start wall : Timestamp} {context : RunContext} {entries : List TestEntry} {s : Script}

/-- The runs of an entry: the parts of all entries of its name, in order. -/
def runsOf (start : Timestamp) (context : RunContext) (parts : List (TestEntry × Cue))
    (e : TestEntry) : List TestRun :=
  (parts.filter fun part => part.1.name == e.name).map fun part =>
    runOf context (part.2.stop start part.1)

theorem map_succeeded_runsOf (parts : List (TestEntry × Cue)) (e : TestEntry) :
    (runsOf start context parts e).map TestRun.succeeded =
      (parts.filter fun part => part.1.name == e.name).map fun part => part.2 == .pass := by
  rw [runsOf, List.map_map]
  exact List.map_congr_left fun part _ => Cue.stop_succeeded start part.2 part.1

/-- An entry has as many runs as there are entries of its name. -/
theorem length_runsOf (e : TestEntry) :
    (runsOf start context (s.parts entries) e).length =
      (entries.map TestEntry.name).count e.name := by
  rw [runsOf, List.length_map, ← List.countP_eq_length_filter,
    ← s.map_parts TestEntry.name entries, List.count, List.countP_map]
  rfl

theorem once_scripted (start wall : Timestamp) (context : RunContext) (left : entries ≠ [])
    (decided : s.Decided) :
    (once (scripted start) wall context entries s).1 =
        entries.map (fun e => ⟨e, runsOf start context (s.parts entries) e⟩) ∧
      (once (scripted start) wall context entries s).2.2 =
        ({ s with asked := s.asked ++ [entries] } : Script).after entries := by
  have played := playCues_eq (s := { s with asked := s.asked ++ [entries] }) start entries decided
  rw [s.parts_asked] at played
  rw [once, if_neg (by simpa using left)]
  simp only [scripted, played, heard, stops_flatMap, and_true]
  refine List.map_congr_left fun e _ => ?_
  rw [resultOf, List.filter_map, List.map_map]
  simp only [Function.comp_def, Cue.stop_test]
  rfl

theorem not_isLost_once_scripted (decided : s.Decided) :
    ∀ result ∈ (once (scripted start) wall context entries s).1, result.isLost = false := by
  intro result mem
  by_cases left : entries = []
  · subst left
    cases mem
  · rw [(once_scripted _ _ _ left decided).1] at mem
    obtain ⟨e, he, rfl⟩ := List.mem_map.1 mem
    have runs : 0 < (runsOf start context (s.parts entries) e).length := by
      rw [length_runsOf]
      exact List.count_pos_iff.2 (List.mem_map_of_mem he)
    exact Bool.eq_false_iff.2 fun lost =>
      runs.ne' (List.length_eq_zero_iff.2 (List.isEmpty_iff.1 lost))

/-- The results of a run by a script that passes and fails tests. It is asked once, unless there is
nothing to ask for. -/
theorem run_scripted (start wall : Timestamp) (context : RunContext) (listed : entries.Nodup)
    (decided : s.Decided) :
    (run (scripted start) wall context entries s).1 =
        entries.map (fun e => ⟨e, runsOf start context (s.parts entries) e⟩) ∧
      (run (scripted start) wall context entries s).2.2.asked =
        s.asked ++ if entries = [] then [] else [entries] := by
  rw [run_eq_once (scripted start) wall context listed s (not_isLost_once_scripted decided)]
  by_cases left : entries = []
  · subst left
    exact ⟨rfl, (List.append_nil _).symm⟩
  · obtain ⟨results, script⟩ := once_scripted start wall context left decided
    rw [script, Script.asked_after, if_neg left]
    exact ⟨results, rfl⟩

/-- One pass is a success of all entries of a name, also of those whose own cue was to fail. -/
theorem succeeded_of_mem_run (listed : entries.Nodup) (decided : s.Decided) {result : EntryResult}
    (mem : result ∈ (run (scripted start) wall context entries s).1) :
    result.succeeded = true ↔
      ∃ e, (e, Cue.pass) ∈ s.parts entries ∧ e.name = result.entry.name := by
  rw [(run_scripted _ _ _ listed decided).1] at mem
  obtain ⟨e, -, rfl⟩ := List.mem_map.1 mem
  have some : (runsOf start context (s.parts entries) e).any TestRun.succeeded =
      ((runsOf start context (s.parts entries) e).map TestRun.succeeded).any id := by
    rw [List.any_map]
    rfl
  rw [EntryResult.succeeded, some, map_succeeded_runsOf, List.any_map, List.any_filter,
    List.any_eq_true]
  constructor
  · rintro ⟨⟨e', cue⟩, mem, own⟩
    obtain ⟨same, pass⟩ : e'.name = e.name ∧ cue = .pass := by simpa using own
    exact ⟨e', pass ▸ mem, same⟩
  · rintro ⟨e', mem, same⟩
    exact ⟨(e', .pass), mem, by simpa using same⟩

end Results

/-! ## Own results -/

/-- Whether each result of a run by the script `s` comes from the entry's own run and no other. -/
structure ResultsAreOwn (s : Script) (entries : List TestEntry) (results : List EntryResult)
    (left : Script) : Prop where
  /-- The runner was asked once, for all entries. -/
  asked : left.asked = s.asked ++ [entries]
  /-- Each entry has a result that holds one run, which succeeded if the entry's cue was to pass. -/
  results : results.map (fun r => (r.entry, r.runs.map TestRun.succeeded)) =
    (s.parts entries).map fun part => (part.1, [part.2 == .pass])

section Own

variable {start wall : Timestamp} {context : RunContext} {entries : List TestEntry} {s : Script}

/-- Entries that share a name would have as many runs each as there are of them. -/
theorem nodup_names_of_resultsAreOwn (listed : entries.Nodup) (decided : s.Decided)
    (own : ResultsAreOwn s entries (run (scripted start) wall context entries s).1
      (run (scripted start) wall context entries s).2.2) :
    (entries.map TestEntry.name).Nodup := by
  have results := own.results
  rw [(run_scripted _ _ _ listed decided).1, List.map_map] at results
  rw [List.nodup_iff_count_eq_one]
  intro name mem
  obtain ⟨e, he, rfl⟩ := List.mem_map.1 mem
  have result : (e, (runsOf start context (s.parts entries) e).map TestRun.succeeded) ∈
      (s.parts entries).map fun part => (part.1, [part.2 == .pass]) := by
    rw [← results]
    exact List.mem_map.2 ⟨e, he, rfl⟩
  obtain ⟨part, -, same⟩ := List.mem_map.1 result
  have one := congrArg List.length (Prod.mk.inj same).2
  rw [List.length_map, length_runsOf] at one
  exact one.symm

theorem resultsAreOwn_of_nodup_names (left : entries ≠ []) (decided : s.Decided)
    (distinct : (entries.map TestEntry.name).Nodup) :
    ResultsAreOwn s entries (run (scripted start) wall context entries s).1
      (run (scripted start) wall context entries s).2.2 := by
  have listed : entries.Nodup := List.Nodup.of_map _ distinct
  obtain ⟨results, asked⟩ := run_scripted start wall context listed decided
  refine ⟨by rw [asked, if_neg left], ?_⟩
  have names : ((s.parts entries).map fun part => part.1.name).Nodup := by
    rwa [s.map_parts TestEntry.name entries]
  calc _ = entries.map fun e =>
        (e, (runsOf start context (s.parts entries) e).map TestRun.succeeded) := by
          rw [results, List.map_map]
          rfl
    _ = (s.parts entries).map fun part =>
        (part.1, (runsOf start context (s.parts entries) part.1).map TestRun.succeeded) :=
          (s.map_parts _ entries).symm
    _ = _ := List.map_congr_left fun part mem => by
          rw [map_succeeded_runsOf, filter_eq_singleton (·.1.name) names mem]
          rfl

/-- By a script that passes and fails tests, each of some entries gets its own run and no other
exactly if no two of them share a name. Nothing is asked of the runner for no entries. -/
theorem resultsAreOwn_iff (start wall : Timestamp) (context : RunContext)
    {entries : List TestEntry} {s : Script} (listed : entries.Nodup) (decided : s.Decided) :
    ResultsAreOwn s entries (run (scripted start) wall context entries s).1
        (run (scripted start) wall context entries s).2.2 ↔
      entries ≠ [] ∧ (entries.map TestEntry.name).Nodup := by
  constructor
  · intro own
    refine ⟨?_, nodup_names_of_resultsAreOwn listed decided own⟩
    rintro rfl
    have asked := own.asked
    rw [(run_scripted _ _ _ listed decided).2, if_pos rfl] at asked
    cases List.append_cancel_left asked
  · rintro ⟨left, distinct⟩
    exact resultsAreOwn_of_nodup_names left decided distinct

/-- A test fails the first time it runs, and passes then. -/
def failsThenPasses : Script := ⟨(∅ : Directory _ _).insert "testLogin" [.fail, .pass], []⟩

theorem failsThenPasses_decided : failsThenPasses.Decided := by
  intro method cues found cue mem
  rw [failsThenPasses, Directory.get?_insert] at found
  split at found
  · cases found
    simpa [or_comm] using mem
  · cases found

theorem resultsAreOwn_iff_pair : pair.Nodup ∧ failsThenPasses.Decided ∧
    (ResultsAreOwn failsThenPasses pair
        (run (scripted ⟨0⟩) ⟨0⟩ pairContext pair failsThenPasses).1
        (run (scripted ⟨0⟩) ⟨0⟩ pairContext pair failsThenPasses).2.2 ↔
      pair ≠ [] ∧ (pair.map TestEntry.name).Nodup) :=
  ⟨by decide, failsThenPasses_decided,
    resultsAreOwn_iff ⟨0⟩ ⟨0⟩ pairContext (by decide) failsThenPasses_decided⟩

/-- A test that is listed for a phone and for a tablet. -/
def twins : List TestEntry := [⟨⟨"LoginTests", "testLogin"⟩, ["phone"], none⟩,
  ⟨⟨"LoginTests", "testLogin"⟩, ["tablet"], none⟩]

/-- The failure on the phone and the pass on the tablet are reported for both entries. -/
theorem not_resultsAreOwn : twins.Nodup ∧ failsThenPasses.Decided ∧
    (failsThenPasses.parts twins).map Prod.snd = [.fail, .pass] ∧
    (run (scripted ⟨0⟩) ⟨0⟩ pairContext twins failsThenPasses).1.map
      (fun r => r.runs.map TestRun.succeeded) = [[false, true], [false, true]] ∧
    ¬ ResultsAreOwn failsThenPasses twins
      (run (scripted ⟨0⟩) ⟨0⟩ pairContext twins failsThenPasses).1
      (run (scripted ⟨0⟩) ⟨0⟩ pairContext twins failsThenPasses).2.2 := by
  have listed : twins.Nodup := by decide
  refine ⟨listed, failsThenPasses_decided, by decide, ?_, fun own => ?_⟩
  · rw [(run_scripted _ _ _ listed failsThenPasses_decided).1]
    decide
  · have distinct := nodup_names_of_resultsAreOwn listed failsThenPasses_decided own
    exact absurd distinct (by decide)

end Own

end TestFleet.Runner
