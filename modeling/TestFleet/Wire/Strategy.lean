import TestFleet.Json.Reader
import TestFleet.Queue.Strategy

/-!
# Strategies on the wire

A strategy is an object with its name, and the size of its buckets where it has one.
-/

namespace TestFleet.SplitStrategy

open Json (Reader)

def toJson : SplitStrategy → Json
  | unsplit => .object [("type", .string "unsplit")]
  | individual => .object [("type", .string "individual")]
  | equallyDivided => .object [("type", .string "equallyDivided")]
  | fixedBucketSize size =>
    .object [("type", .string "fixedBucketSize"), ("size", .natural size.toNat)]

def reader : Reader SplitStrategy := Reader.beside [
  ("unsplit", .nothing unsplit),
  ("individual", .nothing individual),
  ("equallyDivided", .nothing equallyDivided),
  ("fixedBucketSize", .one (Reader.uint32.map fixedBucketSize))] "type" "size"

end TestFleet.SplitStrategy
