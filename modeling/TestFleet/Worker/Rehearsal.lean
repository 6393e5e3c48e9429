import TestFleet.Worker.TestRunner
import TestFleet.Directory

/-!
# Rehearsed runners

Runners that run no tests but play what was laid down beforehand: one that passes everything, one
that follows a script for each method, and one that repeats whole performances. They keep a list of
what they were asked for where that cannot be told from their answers.
-/

namespace TestFleet.Runner

/-- The end of a rehearsed test, after a millisecond. -/
def rehearsedStop (wall : Timestamp) (e : TestEntry) (outcome : Outcome)
    (exceptions : List TestException) : Signal :=
  .stopped ⟨e.name, outcome, .ofMillis 1, exceptions, wall⟩

/-- Passes every test it is asked for. -/
def echo (wall : Timestamp) : TestRunner Unit := fun _ entries s =>
  (⟨entries.flatMap fun e => [.started e.name, rehearsedStop wall e .passed []], none⟩, s)

/-! ## Scripts -/

/-- What a script lays down for one run of a test. -/
inductive Cue where
  | pass
  | fail
  /-- The test starts and is not heard of again. -/
  | silent
  /-- The runner breaks down before the test starts. -/
  | crash
  deriving DecidableEq, Repr

/-- A script for each method, and what was asked for so far. -/
structure Script where
  cues : Directory String (List Cue)
  asked : List (List TestEntry) := []

/-- The next cue of a method, which is used up; beyond its script a test passes. -/
def Script.next (s : Script) (method : String) : Cue × Script :=
  match s.cues.get? method with
  | some (cue :: rest) => (cue, { s with cues := s.cues.insert method rest })
  | _ => (.pass, s)

/-- Why a scripted test fails. -/
def assertionFailed : TestException := ⟨"assertion failed", "Tests.swift", 42⟩

/-- Plays the cues of entries in order. -/
def playCues (wall : Timestamp) : List TestEntry → Script → Performance × Script
  | [], s => (⟨[], none⟩, s)
  | e :: es, s =>
    let (cue, s) := s.next e.name.methodName
    let andThen (signals : List Signal) : Performance × Script :=
      let (rest, s) := playCues wall es s
      ({ rest with signals := signals ++ rest.signals }, s)
    match cue with
    | .pass => andThen [.started e.name, rehearsedStop wall e .passed []]
    | .fail => andThen [.started e.name, rehearsedStop wall e .failed [assertionFailed]]
    | .silent => andThen [.started e.name]
    | .crash => (⟨[], some (.crashed ("crashed at " ++ e.shown))⟩, s)

/-- Follows a script. -/
def scripted (wall : Timestamp) : TestRunner Script := fun _ entries s =>
  playCues wall entries { s with asked := s.asked ++ [entries] }

/-! ## Performances -/

/-- The performances that are left, and what was asked for so far. -/
structure Repertoire where
  left : List Performance
  asked : List (List TestEntry) := []

/-- Gives one performance after the other, whatever it is asked for, and says nothing after the
last. -/
def played : TestRunner Repertoire := fun _ entries s =>
  (s.left.headD ⟨[], none⟩, ⟨s.left.tail, s.asked ++ [entries]⟩)

end TestFleet.Runner
