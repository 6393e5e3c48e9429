/-!
# Faults of those who keep time

What a party that waits or keeps a timer breaks down over. It does nothing more after that.
-/

namespace TestFleet

/-- Why a party broke down. -/
inductive TimeFault where
  /-- A timer was to be started that has no period. -/
  | noPeriod
  /-- A pause was to be taken, and the one after it is too long for a duration. -/
  | pauseTooLong
  deriving DecidableEq, Repr

/-- The explanation that is left behind. -/
def TimeFault.message : TimeFault → String
  | noPeriod => "`period` must be non-zero."
  | pauseTooLong => "overflow when multiplying duration by scalar"

end TestFleet
