import TestFleet.Process.Call
import TestFleet.Text.Blank
import TestFleet.Text.Utf8
import TestFleet.Worker.TestRunner

/-!
# Tests as processes

A runner that calls one program for each test. The variables of the call name the test and say where
it runs; the environment of the bucket comes on top. Exit code zero is a pass and any other one a
failure, explained by the last line the program wrote to its standard error. Nothing is said of a
process that was killed, so its test counts as lost.
-/

namespace TestFleet

/-- The words of a program's call. -/
structure Command where
  program : String
  arguments : List String
  deriving DecidableEq, Repr

namespace Command

/-- The program and its arguments, if there is a program. -/
def ofWords? : List String → Option Command
  | [] => none
  | program :: arguments => some ⟨program, arguments⟩

/-- The variables that describe a test, under those of the context. -/
def environment (context : RunContext) (e : TestEntry) : Directory String String :=
  context.environment.entries.foldl (fun d v => d.insert v.1 v.2) <| Directory.ofList [
    ("BQ_TEST_CLASS", e.name.className),
    ("BQ_TEST_METHOD", e.name.methodName),
    ("BQ_TEST_DESTINATION", context.destination.shown),
    ("BQ_SIMULATOR_ID", context.simulator)]

/-- The call that runs a test. -/
def call (c : Command) (context : RunContext) (e : TestEntry) : Call :=
  ⟨c.program, c.arguments, environment context e⟩

/-- The last line that is not blank, without the blanks around it. -/
def lastWords? (errors : List UInt8) : Option String :=
  ((Text.lines (Text.ofUtf8Lossy errors)).filter (!Text.isBlankText ·)).getLast?.map Text.trim

/-- Why a test failed whose program ended with a code other than zero. -/
def failure (c : Command) (code : Nat) (errors : List UInt8) : TestException :=
  let status := c.program ++ " exit status: " ++ Text.decimal code
  ⟨match lastWords? errors with
    | none => status
    | some line => status ++ ": " ++ line, c.program, 0⟩

/-- What the end of its process says of a test. -/
def signals (c : Command) (wall : Timestamp) (e : TestEntry) (ended : Ended) : List Signal :=
  match ended.status with
  | .killed => []
  | .exited 0 => [.stopped ⟨e.name, .passed, ended.elapsed, [], wall⟩]
  | .exited code =>
    [.stopped ⟨e.name, .failed, ended.elapsed, [c.failure code ended.errors], wall⟩]

/-- Runs one test after the other, up to the first whose program could not be started. -/
def perform (c : Command) (machine : Machine) (wall : Timestamp) (context : RunContext) :
    List TestEntry → Performance
  | [] => ⟨[], none⟩
  | e :: es =>
    match machine (c.call context e) with
    | .error reason => ⟨[.started e.name], some (.system reason)⟩
    | .ok ended =>
      let rest := c.perform machine wall context es
      { rest with signals := .started e.name :: c.signals wall e ended ++ rest.signals }

/-- Runs each test by a call. -/
def runner (c : Command) (machine : Machine) (wall : Timestamp) : TestRunner Unit :=
  fun context entries s => (c.perform machine wall context entries, s)

end Command

end TestFleet
