import TestFleet.Json.Query
import TestFleet.Queue.JobQueue
import TestFleet.Wire.Test

/-!
# A shorthand for tests and buckets

Tests, configurations and buckets in fewer words than they have on the wire: an entry is the list of
its class and its method, and a configuration is what sets it apart from a usual one. A reader that
fails names the part that it could not read.
-/

namespace TestFleet.Shorthand

open Json (Draft Query)

def texts (ts : List String) : Json := .array (ts.map .string)

def bucketIds (bs : List BucketId) : Json := texts (bs.map (·.text))

def workerIds (ws : List WorkerId) : Json := texts (ws.map (·.text))

def optionalBucketId (b : Option BucketId) : Json := .ofOption (fun b => .string b.text) b

/-- Seconds and nanoseconds. -/
def duration (d : Duration) : Json := .array [.natural d.seconds, .natural d.subsecondNanos]

/-! ## Entries -/

/-- The tags and the case number follow only where there are any. -/
def entry (e : TestEntry) : Json :=
  let names := [.string e.name.className, .string e.name.methodName]
  if e.tags.isEmpty && e.caseId.isNone then .array names
  else .array (names ++ [texts e.tags, .ofOption (fun n => .natural n.toNat) e.caseId])

def entries (es : List TestEntry) : Json := .array (es.map entry)

def readName (c m : Draft) : Query TestName :=
  return ⟨← .orBad "entry" c.asText?, ← .orBad "entry" m.asText?⟩

def readEntry (d : Draft) : Query TestEntry := do
  match d.asItems? with
  | some [c, m] => pure ⟨← readName c m, [], none⟩
  | some [c, m, tags, caseId] =>
    let name ← readName c m
    let tags ← (← .orBad "tags" tags.asItems?).mapM fun t => .orBad "string" t.asText?
    let caseId ← match caseId with
      | .null => pure none
      | n => pure (some (UInt64.ofNat (← .orBad "case_id" n.asNatural?)))
    pure ⟨name, tags, caseId⟩
  | _ => .error "entry"

/-! ## Configurations -/

/-- The usual configuration. -/
def usual : TestConfiguration where
  artifacts := {
    appBundle := none
    runner := none
    testBundle := ⟨.testBundle, .localPath ⟨"/builds/Tests.xctest"⟩⟩ }
  destination := ⟨"iPhone X", "11.0"⟩
  type := .logicTest
  toolchain := ⟨"/Applications/Xcode.app"⟩

/-- The usual configuration with a patch over it. -/
def readConfiguration : Draft → Query TestConfiguration
  | .null => .ok usual
  | patch =>
    match TestConfiguration.reader 0 ((Draft.ofJson usual.toJson).patched patch) with
    | .ok c => .ok c
    | .error _ => .error "configuration"

/-- The configurations of a job, which are the usual one where none is listed, and its tests, each
with the place of its own. -/
def readTests (d : Draft) : Query (List ConfiguredTest × List TestConfiguration) := do
  let configurations ← match (← d.may Draft.asItems? "configs").getD [] with
    | [] => pure [usual]
    | patches => patches.mapM readConfiguration
  let tests ← (← d.items "tests").mapM fun t => do
    match t.asItems? with
    | some [place, e] =>
      let c ← .orBad "test" (configurations[← .orBad "test" place.asNatural?]?)
      pure ⟨← readEntry e, c⟩
    | _ => .error "test"
  pure (tests, configurations)

/-! ## Buckets -/

/-- A bucket; its retries come before those of its configuration. -/
def readBucket (d : Draft) : Query Bucket := do
  let id ← d.text "id"
  let entries ← (← d.items "tests").mapM readEntry
  let configuration ← readConfiguration ((d.field? "config").getD .null)
  let retries ← d.may (Draft.asBelow? UInt32.size) "retries"
  let configuration := match retries with
    | none => configuration
    | some n => { configuration with
        behavior := { configuration.behavior with retries := UInt32.ofNat n } }
  pure ⟨⟨id⟩, entries, configuration⟩

def readBuckets (d : Draft) : Query (List Bucket) := do (← d.items "buckets").mapM readBucket

def bucketFields (b : Bucket) : List (String × Json) := [
  ("id", .string b.id.text), ("tests", entries b.entries), ("retries", .natural b.retries.toNat),
  ("shown", .string b.shown)]

def bucket (b : Bucket) : Json := .object (bucketFields b)

/-- A bucket in flight, with the time it was handed out at, in whatever form that is told. -/
def inFlight (time : Instant → Json) (f : InFlightBucket) : Json :=
  .object (bucketFields f.bucket ++ [("w", .string f.worker.text), ("at", time f.dequeuedAt)])

/-- Buckets in flight by their ids and workers. -/
def held (fs : List InFlightBucket) : Json :=
  .array (fs.map fun f => texts [f.id.text, f.worker.text])

end TestFleet.Shorthand
