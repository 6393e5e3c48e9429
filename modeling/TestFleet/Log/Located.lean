import TestFleet.Log.Record

/-!
# Faults with a place

A fault that nobody mends is logged with the place in the program where it came up, and with the
party at the other end of the connection, if that is known by then.
-/

namespace TestFleet

/-- A fault and the place where it came up. -/
structure LocatedFault where
  message : String
  file : String
  line : UInt32
  column : UInt32
  deriving DecidableEq, Repr

namespace LocatedFault

/-- A fault with its place behind it. -/
def shown (f : LocatedFault) : String :=
  f.message ++ " at " ++ f.file ++ "@" ++ Text.decimal f.line.toNat ++ ":" ++
    Text.decimal f.column.toNat

/-- How a fault is logged; `context` says what it is that failed. -/
def record (f : LocatedFault) (party : Option Party) (context : String) : LogRecord :=
  ⟨.error, context ++ ": " ++ f.message, [
    ("entity", match party with
      | none => "<unknown>"
      | some p => p.shown),
    ("file", f.file), ("line", Text.decimal f.line.toNat),
    ("column", Text.decimal f.column.toNat)]⟩

end LocatedFault

end TestFleet
