/-!
# Hexadecimal text

Bytes are written as two lower-case digits each, and read in either case.
-/

namespace TestFleet.Text

/-- The two digits of a byte. -/
def hexByte (b : UInt8) : List Char :=
  [Nat.digitChar (b.toNat / 16), Nat.digitChar (b.toNat % 16)]

/-- The digits of a list of bytes. -/
def hexDigits (bytes : List UInt8) : List Char := bytes.flatMap hexByte

/-- The text of a list of bytes. -/
def hex (bytes : List UInt8) : String := String.ofList (hexDigits bytes)

/-- The value of a digit of base sixteen, of either case. -/
def hexValue? (c : Char) : Option Nat :=
  if '0' ≤ c ∧ c ≤ '9' then some (c.toNat - '0'.toNat)
  else if 'a' ≤ c ∧ c ≤ 'f' then some (c.toNat - 'a'.toNat + 10)
  else if 'A' ≤ c ∧ c ≤ 'F' then some (c.toNat - 'A'.toNat + 10)
  else none

/-- The number written by digits of base sixteen, if there is nothing else. -/
def hexNumber? (cs : List Char) : Option Nat :=
  cs.foldl (fun n c => do pure (16 * (← n) + (← hexValue? c))) (some 0)

/-- The bytes that pairs of digits write. -/
def unhexDigits? : List Char → Option (List UInt8)
  | [] => some []
  | [_] => none
  | a :: b :: cs => do
    let high ← hexValue? a
    let low ← hexValue? b
    let rest ← unhexDigits? cs
    pure (UInt8.ofNat (16 * high + low) :: rest)

/-- The bytes that a text writes. -/
def unhex? (s : String) : Option (List UInt8) := unhexDigits? s.toList

end TestFleet.Text
