import TestFleet.Directory
import TestFleet.Time.Duration

/-!
# Calls of programs

What is known of a program from outside: the words it is called with, and what is left when it has
ended. A machine answers calls; what its programs do is its own affair.
-/

namespace TestFleet

/-- How a process ended. -/
inductive ExitStatus where
  | exited (code : Nat)
  /-- A signal ended it. -/
  | killed
  deriving DecidableEq, Repr

/-- What is left of a process that has ended. -/
structure Ended where
  status : ExitStatus
  /-- What it wrote to its standard error. -/
  errors : List UInt8 := []
  elapsed : Duration := .zero

/-- A program, its arguments, and the variables set for it beside those of the machine. -/
structure Call where
  program : String
  arguments : List String
  environment : Directory String String

/-- Answers calls: what is left of the process, or the system's reason not to start one. -/
abbrev Machine := Call → Except String Ended

end TestFleet
