import TestFleet.Report

/-!
# Test runners

A test runner is asked to run a list of entries and tells of each test as it starts and stops. It
need not tell of all of them, may tell of others, and may break down at the end. What it does may
depend on what it was asked before, so a runner is a transition function over a state of its own.
-/

namespace TestFleet

/-- How a test ended. -/
inductive Outcome where
  | passed
  | failed
  /-- The test started, but what became of it is not known. -/
  | lost
  deriving DecidableEq, Repr

/-- A runner's word that a test has ended. -/
structure Stop where
  test : TestName
  outcome : Outcome
  duration : Duration
  exceptions : List TestException
  start : Timestamp
  deriving DecidableEq, Repr

/-- Only a pass counts as a success. -/
def Stop.succeeded (s : Stop) : Bool := s.outcome == .passed

/-- What a runner tells while it runs. -/
inductive Signal where
  | started (test : TestName)
  | stopped (stop : Stop)
  deriving DecidableEq, Repr

/-- Why a runner broke down. -/
inductive RunnerFault where
  | crashed (reason : String)
  /-- The system refused something; the text is its own. -/
  | system (reason : String)
  deriving DecidableEq, Repr

/-- The text of a breakdown. -/
def RunnerFault.message : RunnerFault → String
  | .crashed reason => "test runner crashed: " ++ reason
  | .system reason => reason

/-- What came of asking a runner once: its signals in order, and how it broke down if it did. -/
structure Performance where
  signals : List Signal
  fault : Option RunnerFault := none
  deriving DecidableEq, Repr

/-- Where and how tests run. -/
structure RunContext where
  environment : Directory String String
  destination : TestDestination
  host : String
  simulator : String

/-- A test runner with states `ρ`. -/
abbrev TestRunner (ρ : Type) := RunContext → List TestEntry → ρ → Performance × ρ

end TestFleet
