import TestFleet.Text.Decimal

/-!
# Faults of a connection

What can go wrong between two parties, below the level of their messages.
-/

namespace TestFleet

/-- The greatest size of a message in bytes. -/
def messageLimit : Nat := 64 * 1024 * 1024

/-- Why a message did not get across. -/
inductive LinkFault where
  /-- There is no way to the other party. -/
  | unreachable
  /-- The stream or the text ended before the message did. -/
  | closed
  /-- The bytes are no message of the expected kind. -/
  | badData
  /-- A message is announced that exceeds the size limit. -/
  | announcedTooLong (size : Nat)
  /-- A message to be sent exceeds the size limit. -/
  | tooLong (size : Nat)
  deriving DecidableEq, Repr

/-- The explanation shown to a user. -/
def LinkFault.message : LinkFault → String
  | unreachable => "Network is unreachable (os error 101)"
  | closed => "early eof"
  | badData => "invalid message"
  | announcedTooLong n =>
    "message of " ++ Text.decimal n ++ " bytes exceeds the maximum of " ++
      Text.decimal messageLimit
  | tooLong n => "message of " ++ Text.decimal n ++ " bytes is too large"

end TestFleet
