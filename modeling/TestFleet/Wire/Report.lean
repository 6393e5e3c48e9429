import TestFleet.Wire.Test
import TestFleet.Report

/-!
# Reports on the wire

Durations are written as seconds and nanoseconds. A duration refuses fields it does not have; its
nanoseconds may exceed a second on reading, as long as the whole is in range.
-/

namespace TestFleet

open Json (Reader Fields)

namespace Duration

def toJson (d : Duration) : Json :=
  .object [("secs", .natural d.seconds), ("nanos", .natural d.subsecondNanos)]

/-- The seconds and nanoseconds of a duration as written. -/
def fields : Fields (Nat × Nat) := Prod.mk
  <$> .required "secs" (Reader.below UInt64.size)
  <*> .required "nanos" (Reader.below UInt32.size)

def reader : Reader Duration :=
  (Reader.strictRecord fields).restrict fun (secs, nanos) => ofParts? secs nanos

end Duration

namespace Timestamp

def toJson (t : Timestamp) : Json := .natural t.millis.toNat

def reader : Reader Timestamp := Reader.uint64.map Timestamp.mk

end Timestamp

namespace TestException

def toJson (e : TestException) : Json := .object [
  ("reason", .string e.reason),
  ("file_path_in_project", .string e.file),
  ("line_number", .natural e.line.toNat)]

def fields : Fields TestException := TestException.mk
  <$> .required "reason" Reader.text
  <*> .required "file_path_in_project" Reader.text
  <*> .required "line_number" Reader.uint32

def reader : Reader TestException := .record fields

end TestException

namespace TestRun

def toJson (r : TestRun) : Json := .object [
  ("succeeded", .bool r.succeeded),
  ("exceptions", .ofList TestException.toJson r.exceptions),
  ("duration", r.duration.toJson),
  ("start_time", r.start.toJson),
  ("host_name", .string r.host),
  ("simulator_id", .string r.simulator)]

def fields : Fields TestRun := TestRun.mk
  <$> .required "succeeded" Reader.bool
  <*> .required "exceptions" (Reader.list TestException.reader)
  <*> .required "duration" Duration.reader
  <*> .required "start_time" Timestamp.reader
  <*> .required "host_name" Reader.text
  <*> .required "simulator_id" Reader.text

def reader : Reader TestRun := .record fields

end TestRun

namespace EntryResult

def toJson (r : EntryResult) : Json := .object [
  ("test_entry", r.entry.toJson),
  ("test_run_results", .ofList TestRun.toJson r.runs)]

def fields : Fields EntryResult := EntryResult.mk
  <$> .required "test_entry" TestEntry.reader
  <*> .required "test_run_results" (Reader.list TestRun.reader)

def reader : Reader EntryResult := .record fields

end EntryResult

namespace BucketReport

def toJson (r : BucketReport) : Json := .object [
  ("bucket_id", r.bucket.toJson),
  ("test_destination", r.destination.toJson),
  ("unfiltered_results", .ofList EntryResult.toJson r.results)]

def fields : Fields BucketReport := BucketReport.mk
  <$> .required "bucket_id" BucketId.reader
  <*> .required "test_destination" TestDestination.reader
  <*> .required "unfiltered_results" (Reader.list EntryResult.reader)

def reader : Reader BucketReport := .record fields

end BucketReport

end TestFleet
