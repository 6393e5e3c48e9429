import TestFleet.Text.Decimal
import TestFleet.Text.Quoted

/-!
# Ways to split a job

A job's tests are split into buckets in one of four ways, which users name by text.
-/

namespace TestFleet

/-- How the tests of a job that share a configuration are split into buckets. -/
inductive SplitStrategy where
  /-- One bucket with every test. -/
  | unsplit
  /-- One bucket for each test. -/
  | individual
  /-- One bucket for each worker, the tests dealt out in turn. -/
  | equallyDivided
  /-- Buckets of so many tests, the last one with the rest. -/
  | fixedBucketSize (size : UInt32)
  deriving DecidableEq, Repr

/-- Why a text names no strategy. -/
inductive StrategyError where
  | invalidSize (size : String) (fault : Text.NumeralFault)
  | unknown (text : String)
  deriving DecidableEq, Repr

/-- The explanation shown to a user. -/
def StrategyError.message : StrategyError → String
  | invalidSize size fault =>
    "invalid bucket size " ++ Text.quoted size ++ ": " ++ fault.message
  | unknown text => "unknown schedule strategy: " ++ text

namespace SplitStrategy

/-- What stands before the size of fixed buckets. -/
def sizeMark : String := "fixed_bucket_size:"

/-- The text that names a strategy. -/
def shown : SplitStrategy → String
  | unsplit => "unsplit"
  | individual => "individual"
  | equallyDivided => "equally_divided"
  | fixedBucketSize size => sizeMark ++ Text.decimal size.toNat

/-- What follows `mark` in a text that starts with it. -/
def after? (mark s : String) : Option String :=
  let front := mark.toList
  let cs := s.toList
  if cs.take front.length = front then some (String.ofList (cs.drop front.length)) else none

/-- The strategy that a text names. -/
def ofText (s : String) : Except StrategyError SplitStrategy :=
  if s = "unsplit" then .ok unsplit
  else if s = "individual" then .ok individual
  else if s = "equally_divided" then .ok equallyDivided
  else match after? sizeMark s with
    | some size =>
      match Text.readUInt32 size with
      | .ok n => .ok (fixedBucketSize n)
      | .error fault => .error (.invalidSize size fault)
    | none => .error (.unknown s)

end SplitStrategy

end TestFleet
