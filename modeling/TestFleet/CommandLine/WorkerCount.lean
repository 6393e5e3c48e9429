import TestFleet.Identity
import TestFleet.Text.Decimal
import TestFleet.Text.Quoted

/-!
# How many workers

Workers are started in a number that is given, or one for each processor core. A single worker goes
by the id that was chosen; of several each has its place among them behind it.
-/

namespace TestFleet

/-- A number of workers to start. -/
inductive WorkerCount where
  | perCore
  | fixed (n : Nat)
  deriving DecidableEq, Repr

namespace WorkerCount

/-- The text for a worker on each core. -/
def perCoreText : String := "cpu-cores"

/-- A numeral of a positive number of 64 bits. -/
def positive? (s : String) : Option Nat :=
  match Text.readUInt64 s with
  | .ok n => if n = 0 then none else some n.toNat
  | .error _ => none

/-- Why a text is no number of workers. -/
def complaint (s : String) : String :=
  "expected a positive number or \x60cpu-cores\x60, got " ++ Text.quoted s

/-- Reads a number of workers. -/
def ofText (s : String) : Except String WorkerCount :=
  if s = perCoreText then .ok .perCore
  else match positive? s with
    | some n => .ok (.fixed n)
    | none => .error (complaint s)

/-- The number on a machine with so many cores. -/
def on (cores : Nat) : WorkerCount → Nat
  | perCore => max cores 1
  | fixed n => n

end WorkerCount

/-- The ids of so many workers that share a base. -/
def WorkerId.numbered (base : WorkerId) (n : Nat) : List WorkerId :=
  if n = 1 then [base]
  else (List.range n).map fun i => ⟨base.text ++ "-" ++ Text.decimal i⟩

end TestFleet
