import TestFleet.Test
import TestFleet.Queue.Strategy

/-!
# Splitting a job into buckets

The tests of a job are first put into groups. Tests of a group share a configuration and are
pairwise different, so an entry that a configuration lists again goes to a later group of that
configuration. Each group is then cut on its own, in the way the strategy says. A bucket's id
follows from its job, its place among the job's buckets, and the names of its tests.

* `split`: the buckets of a list of tests.
-/

namespace TestFleet

/-- Why tests cannot be split. -/
inductive SplitError where
  | zeroBucketSize
  deriving DecidableEq, Repr

/-- The explanation shown to a user. -/
def SplitError.message : SplitError → String
  | zeroBucketSize => "bucket size must be at least 1"

/-- Different tests of one configuration, in the order they were listed. -/
structure TestGroup where
  configuration : TestConfiguration
  entries : List TestEntry

namespace TestGroup

/-- Whether a test may join a group. -/
def admits (g : TestGroup) (t : ConfiguredTest) : Bool :=
  g.configuration == t.configuration && !g.entries.contains t.entry

/-- Puts a test at the end of the first group that admits it, or of a new one. -/
def place (t : ConfiguredTest) : List TestGroup → List TestGroup
  | [] => [⟨t.configuration, [t.entry]⟩]
  | g :: gs =>
    if g.admits t then { g with entries := g.entries ++ [t.entry] } :: gs else g :: place t gs

/-- The groups of a list of tests, in the order in which they were opened. -/
def ofTests (tests : List ConfiguredTest) : List TestGroup :=
  tests.foldl (fun gs t => place t gs) []

end TestGroup

namespace SplitStrategy

/-- Cuts a list into runs of `size` elements, the last one shorter if need be. -/
def runs (size : Nat) : List α → List (List α)
  | [] => []
  | x :: xs => (x :: xs.take (size - 1)) :: runs size (xs.drop (size - 1))
termination_by xs => xs.length
decreasing_by simp only [List.length_drop, List.length_cons]; omega

/-- Deals a list out to `n` hands in turn. -/
def deal (n : Nat) (xs : List α) : List (List α) :=
  (List.range n).map fun i => (xs.zipIdx.filter fun x => x.2 % n == i).map (·.1)

/-- Cuts a group of tests into the parts that become buckets. -/
def cut (strategy : SplitStrategy) (workers : Nat) (entries : List TestEntry) :
    List (List TestEntry) :=
  match strategy with
  | unsplit => [entries]
  | individual => entries.map fun e => [e]
  | equallyDivided => deal (min (max workers 1) entries.length) entries
  | fixedBucketSize size => runs size.toNat entries

end SplitStrategy

namespace BucketId

/-- A number as eight bytes, the least first. -/
def placeBytes (n : Nat) : List UInt8 := (List.range 8).map fun i => UInt8.ofNat (n >>> (8 * i))

/-- What a bucket's id is a digest of. -/
def seed (job : JobId) (place : Nat) (entries : List TestEntry) : List UInt8 :=
  Text.utf8 job.text ++ placeBytes place ++
    entries.flatMap fun e => Text.utf8 e.name.shown ++ [0]

/-- The id of the bucket at a place among the buckets of a job. -/
def derived (job : JobId) (place : Nat) (entries : List TestEntry) : BucketId :=
  ⟨job.text ++ "-" ++ String.ofList ((Digest.digestDigits (seed job place entries)).take 16)⟩

end BucketId

/-- The parts of all groups, each with its configuration. -/
def splitParts (strategy : SplitStrategy) (workers : Nat) (tests : List ConfiguredTest) :
    List (List TestEntry × TestConfiguration) :=
  (TestGroup.ofTests tests).flatMap fun g =>
    (strategy.cut workers g.entries).map fun part => (part, g.configuration)

/-- Splits the tests of a job into buckets. -/
def split (job : JobId) (strategy : SplitStrategy) (workers : Nat) (tests : List ConfiguredTest) :
    Except SplitError (List Bucket) :=
  if strategy = .fixedBucketSize 0 then .error .zeroBucketSize
  else .ok ((splitParts strategy workers tests).mapIdx fun i (part, configuration) =>
    ⟨BucketId.derived job i part, part, configuration⟩)

end TestFleet
