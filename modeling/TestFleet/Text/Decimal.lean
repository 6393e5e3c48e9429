/-!
# Decimal numerals

Natural numbers are written in base ten without leading zeros. Reading a numeral for a field that
holds numbers below a limit takes an optional plus sign and one or more digits, and says what is
wrong with any other text.
-/

namespace TestFleet.Text

/-- The digits of a number in base ten, the leading one first. -/
def decimalDigits (n : Nat) : List Char := Nat.toDigits 10 n

/-- The numeral of a number in base ten. -/
def decimal (n : Nat) : String := String.ofList (decimalDigits n)

/-- The value of a digit of base ten. -/
def digitValue? (c : Char) : Option Nat :=
  if '0' ≤ c ∧ c ≤ '9' then some (c.toNat - '0'.toNat) else none

/-- Why a text is no numeral of a number below a limit. -/
inductive NumeralFault where
  | empty
  | invalidDigit
  | tooLarge
  deriving DecidableEq, Repr

/-- The explanation shown to a user. -/
def NumeralFault.message : NumeralFault → String
  | .empty => "cannot parse integer from empty string"
  | .invalidDigit => "invalid digit found in string"
  | .tooLarge => "number too large to fit in target type"

/-- Reads digits after a number `n` that was read already. A digit too many is noticed before a
wrong character that follows it. -/
def readDigits (limit : Nat) (n : Nat) : List Char → Except NumeralFault Nat
  | [] => .ok n
  | c :: cs =>
    match digitValue? c with
    | none => .error .invalidDigit
    | some d => if 10 * n + d < limit then readDigits limit (10 * n + d) cs else .error .tooLarge

/-- Reads a numeral of a number below `limit`. A sign alone is no numeral. -/
def readBelow (limit : Nat) (s : String) : Except NumeralFault Nat :=
  match s.toList with
  | [] => .error .empty
  | ['+'] => .error .invalidDigit
  | '+' :: cs => readDigits limit 0 cs
  | cs => readDigits limit 0 cs

/-- Reads a numeral of 32 bits. -/
def readUInt32 (s : String) : Except NumeralFault UInt32 :=
  (readBelow UInt32.size s).map UInt32.ofNat

/-- Reads a numeral of 64 bits. -/
def readUInt64 (s : String) : Except NumeralFault UInt64 :=
  (readBelow UInt64.size s).map UInt64.ofNat

end TestFleet.Text
