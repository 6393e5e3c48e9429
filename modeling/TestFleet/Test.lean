import TestFleet.Identity
import TestFleet.Resource
import TestFleet.Text.Decimal

/-!
# Tests, how they are run, and buckets of them

A test entry names one test to run; the same test may be listed with different tags or case
numbers. A configuration holds everything else about how a test is run, and entries that share one
may share a bucket, the unit of work that is handed to a worker.
-/

namespace TestFleet

/-- The name of a test. -/
structure TestName where
  className : String
  methodName : String
  deriving DecidableEq, Repr, Inhabited

/-- The class and the method. -/
def TestName.shown (n : TestName) : String := n.className ++ "/" ++ n.methodName

/-- A test to run. -/
structure TestEntry where
  name : TestName
  tags : List String := []
  caseId : Option UInt64 := none
  deriving DecidableEq, Repr, Inhabited

/-- An entry is shown by the name of its test. -/
def TestEntry.shown (e : TestEntry) : String := e.name.shown

/-- What was built and is to be tested. -/
structure BuildArtifacts where
  appBundle : Option Resource
  runner : Option Resource
  testBundle : Resource
  additionalBundles : List Resource := []
  deriving BEq, Repr

/-- How the simulator is set up before tests run on it. -/
structure SimulatorSettings where
  localization : Option Resource := none
  watchdog : Option Resource := none
  globalPreference : Option Resource := none
  deriving BEq, Repr, Inhabited

/-- The device and system that tests run on. -/
structure TestDestination where
  deviceType : String
  runtime : String
  deriving DecidableEq, Repr, Inhabited

/-- The device, then the system. -/
def TestDestination.shown (d : TestDestination) : String := d.deviceType ++ " " ++ d.runtime

/-- What happens while tests run, and after one fails. -/
structure TestBehavior where
  environment : Directory String String := ∅
  /-- How many times a failed test goes back into the queue before its failure is final. -/
  retries : UInt32 := 0
  deriving BEq, Inhabited

/-- The kind of a test. -/
inductive TestType where
  | logicTest
  | appTest
  | uiTest
  deriving DecidableEq, Repr

/-- The tools that tests are run with. -/
structure Toolchain where
  developerDir : String
  deriving DecidableEq, Repr

/-- Everything about how a test is run, except for the test itself. -/
structure TestConfiguration where
  artifacts : BuildArtifacts
  simulator : SimulatorSettings := {}
  destination : TestDestination
  behavior : TestBehavior := {}
  type : TestType
  toolchain : Toolchain
  deriving BEq

/-- A test to run, and how. -/
structure ConfiguredTest where
  entry : TestEntry
  configuration : TestConfiguration

/-- A unit of work: tests that run together on one worker, and how to run them. -/
structure Bucket where
  id : BucketId
  entries : List TestEntry
  configuration : TestConfiguration

namespace Bucket

/-- How many times a failed test of a bucket goes back into the queue. -/
def retries (b : Bucket) : UInt32 := b.configuration.behavior.retries

/-- A bucket in a message. -/
def shown (b : Bucket) : String :=
  "<bucket " ++ b.id.text ++ " with " ++ Text.decimal b.entries.length ++ " tests>"

end Bucket

end TestFleet
