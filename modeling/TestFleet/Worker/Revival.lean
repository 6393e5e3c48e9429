import TestFleet.Worker.TestRunner

/-!
# Running the tests of a bucket

A runner is asked for all entries first. As long as entries are left that nothing was heard of, it
is asked again for those, until it has said nothing of any of them twice in a row. Each entry then
gets exactly one result: what was heard of it when something was first heard, or a failure that says
it did not run.

A runner that breaks down is taken to have said, of every entry it was asked for, that its test
failed.

* `length_lost_lt`: a runner that says something leaves fewer entries to ask for;
* `stateAfter_run`: the state of a runner can be told from what was watched.
-/

namespace TestFleet

/-- What the running of tests is watched by. -/
inductive RunEvent where
  | willRun (entries : List TestEntry) (simulator : String)
  | started (entry : TestEntry)
  | finished (entry : TestEntry) (succeeded : Bool)
  | didRun (results : List EntryResult)
  deriving DecidableEq, Repr

namespace Runner

/-- How the reason of a test's failure begins when its runner broke down. -/
def failedToStart : String := "failed to start test runner"

/-- The failure of a test whose runner broke down. It points at no line of a test: `<source>` and the
line 0 stand for the place in this program where such failures are made. -/
def brokenStop (wall : Timestamp) (fault : RunnerFault) (test : TestName) : Stop :=
  ⟨test, .lost, .zero, [⟨failedToStart ++ ": " ++ fault.message, "<source>", 0⟩], wall⟩

/-- What a performance says, with every entry failed at its end if the runner broke down. -/
def heard (wall : Timestamp) (entries : List TestEntry) (p : Performance) : List Signal :=
  match p.fault with
  | none => p.signals
  | some fault =>
    p.signals ++ entries.flatMap fun e =>
      [.started e.name, .stopped (brokenStop wall fault e.name)]

/-- The first entry that names a test. -/
def entryOf? (entries : List TestEntry) (test : TestName) : Option TestEntry :=
  entries.find? fun e => e.name == test

/-- What a signal shows to those who watch; a test that nobody asked for is passed over. -/
def eventOf? (entries : List TestEntry) : Signal → Option RunEvent
  | .started test => (entryOf? entries test).map .started
  | .stopped s => (entryOf? entries s.test).map (.finished · s.succeeded)

/-- The ends of tests among signals. -/
def stops (signals : List Signal) : List Stop :=
  signals.filterMap fun
    | .started _ => none
    | .stopped s => some s

/-- The run that the end of a test tells of. -/
def runOf (context : RunContext) (s : Stop) : TestRun :=
  ⟨s.succeeded, s.exceptions, s.duration, s.start, context.host, context.simulator⟩

/-- The runs of an entry's test, in the order in which they ended. -/
def resultOf (context : RunContext) (told : List Stop) (e : TestEntry) : EntryResult :=
  ⟨e, (told.filter fun s => s.test == e.name).map (runOf context)⟩

/-- Asks a runner once: a result for each entry, and what could be watched. It is not asked for
nothing. -/
def once {ρ : Type} (runner : TestRunner ρ) (wall : Timestamp) (context : RunContext)
    (entries : List TestEntry) (r : ρ) : List EntryResult × List RunEvent × ρ :=
  if entries.isEmpty then ([], [], r)
  else
    let (performance, r) := runner context entries r
    let signals := heard wall entries performance
    let results := entries.map (resultOf context (stops signals))
    let watched := signals.filterMap (eventOf? entries)
    (results, .willRun entries context.simulator :: watched ++ [.didRun results], r)

/-- How many times in a row a runner that says nothing is asked again. -/
def revivals : Nat := 1

/-- The entries of lost results. -/
def lost (results : List EntryResult) : List TestEntry :=
  (results.filter EntryResult.isLost).map EntryResult.entry

theorem length_lost_lt {results : List EntryResult} (h : results.all EntryResult.isLost = false) :
    (lost results).length < results.length := by
  simp only [lost, List.length_map]
  apply List.length_filter_lt_length_iff_exists.mpr
  simpa using h

theorem length_once_le {ρ : Type} (runner : TestRunner ρ) (wall : Timestamp) (context : RunContext)
    (entries : List TestEntry) (r : ρ) :
    (once runner wall context entries r).1.length = entries.length := by
  unfold once
  split
  · simp_all
  · simp

/-- Asks for the entries of `missing` until none is left or the runner has said nothing for more
than `revivals` times, having said nothing the last `silent` times: the results heard and what
could be watched, both in order. -/
def revive {ρ : Type} (runner : TestRunner ρ) (wall : Timestamp) (context : RunContext)
    (missing : List TestEntry) (silent : Nat) (r : ρ) : List EntryResult × List RunEvent × ρ :=
  if missing.isEmpty ∨ revivals < silent then ([], [], r)
  else
    let asked := once runner wall context missing r
    match _ : asked.1.all EntryResult.isLost with
    | true =>
      let later := revive runner wall context missing (silent + 1) asked.2.2
      (later.1, asked.2.1 ++ later.2.1, later.2.2)
    | false =>
      let later := revive runner wall context (lost asked.1) 0 asked.2.2
      (asked.1.filter (!·.isLost) ++ later.1, asked.2.1 ++ later.2.1, later.2.2)
termination_by (missing.length, revivals + 1 - silent)
decreasing_by
  · apply Prod.Lex.right
    omega
  · apply Prod.Lex.left
    have := length_lost_lt ‹_ = false›
    rwa [length_once_le] at this

/-- A result for each entry, taken out of those that were heard. An entry that has none left did not
run. -/
def deliver (wall : Timestamp) (context : RunContext) :
    List TestEntry → List EntryResult → List EntryResult
  | [], _ => []
  | e :: es, results =>
    match results.find? fun r => r.entry == e with
    | some r => r :: deliver wall context es (results.filter fun r => r.entry != e)
    | none =>
      .didNotRun wall context.host context.simulator e :: deliver wall context es results

/-- Runs entries: a result for each of them in order, and what could be watched. Entries that are
listed more than once are asked for once. -/
def run {ρ : Type} (runner : TestRunner ρ) (wall : Timestamp) (context : RunContext)
    (entries : List TestEntry) (r : ρ) : List EntryResult × List RunEvent × ρ :=
  let (results, events, r) := revive runner wall context entries.eraseDups 0 r
  (deliver wall context entries results, events, r)

/-! ## Runs that are dropped -/

/-- The state that a runner is in once so much could be watched: it passes on whenever it is asked. -/
def stateAfter {ρ : Type} (runner : TestRunner ρ) (context : RunContext) :
    List RunEvent → ρ → ρ
  | [], r => r
  | .willRun entries _ :: events, r => stateAfter runner context events (runner context entries r).2
  | _ :: events, r => stateAfter runner context events r

section StateAfter

variable {ρ : Type} (runner : TestRunner ρ) (wall : Timestamp) (context : RunContext)

theorem stateAfter_append (before after : List RunEvent) (r : ρ) :
    stateAfter runner context (before ++ after) r =
      stateAfter runner context after (stateAfter runner context before r) := by
  induction before generalizing r with
  | nil => rfl
  | cons event before ih => cases event <;> exact ih _

/-- What a runner tells leaves it as it is. -/
theorem stateAfter_filterMap_eventOf? (entries : List TestEntry) (signals : List Signal) (r : ρ) :
    stateAfter runner context (signals.filterMap (eventOf? entries)) r = r := by
  induction signals with
  | nil => rfl
  | cons signal signals ih =>
    cases shown : eventOf? entries signal with
    | none => rwa [List.filterMap_cons_none shown]
    | some event =>
      rw [List.filterMap_cons_some shown]
      cases signal with
      | started test =>
        obtain ⟨e, -, rfl⟩ := Option.map_eq_some_iff.1 shown
        exact ih
      | stopped s =>
        obtain ⟨e, -, rfl⟩ := Option.map_eq_some_iff.1 shown
        exact ih

theorem stateAfter_once (entries : List TestEntry) (r : ρ) :
    stateAfter runner context (once runner wall context entries r).2.1 r =
      (once runner wall context entries r).2.2 := by
  rw [once]
  split
  · rfl
  · rw [stateAfter_append, stateAfter, stateAfter_filterMap_eventOf?]
    rfl

theorem stateAfter_revive (missing : List TestEntry) (silent : Nat) (r : ρ) :
    stateAfter runner context (revive runner wall context missing silent r).2.1 r =
      (revive runner wall context missing silent r).2.2 := by
  fun_induction revive runner wall context missing silent r with
  | case1 => rfl
  | case2 missing silent r go asked quiet later ih =>
    rw [stateAfter_append, stateAfter_once]
    exact ih
  | case3 missing silent r go asked told later ih =>
    rw [stateAfter_append, stateAfter_once]
    exact ih

/-- All that could be watched of a run leads to the state that it leaves the runner in. -/
theorem stateAfter_run (entries : List TestEntry) (r : ρ) :
    stateAfter runner context (run runner wall context entries r).2.1 r =
      (run runner wall context entries r).2.2 :=
  stateAfter_revive runner wall context entries.eraseDups 0 r

end StateAfter

end Runner

end TestFleet
