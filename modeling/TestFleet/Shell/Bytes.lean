import TestFleet.Text.Decimal
import TestFleet.Text.Utf8

/-!
# Bytes as characters

A shell knows bytes only: it counts them, cuts between them, and hands on those that are no text.
Here a text holds one character below 256 for each byte, so that what is known of texts is of use
for bytes.

* `bytes_ofBytes`: nothing is lost of the bytes.
-/

namespace TestFleet.Shell

/-- The text of bytes. -/
def ofBytes (bs : List UInt8) : String := String.ofList (bs.map fun b => Char.ofNat b.toNat)

/-- The bytes of a text. -/
def bytes (s : String) : List UInt8 := s.toList.map fun c => UInt8.ofNat c.toNat

theorem bytes_ofBytes (bs : List UInt8) : bytes (ofBytes bs) = bs := by
  have h (b : UInt8) : UInt8.ofNat (Char.ofNat b.toNat).toNat = b := by
    have hb : b.toNat.isValidChar := Or.inl (Nat.lt_trans b.toNat_lt (by decide))
    have hc : Char.ofNat b.toNat = Char.ofNatAux b.toNat hb := dif_pos hb
    rw [hc]
    exact UInt8.ofNat_toNat
  simp [bytes, ofBytes, Function.comp_def, h]

/-- The bytes of a text of characters, as a text. -/
def encoded (s : String) : String := ofBytes (Text.utf8 s)

/-! ## Kinds of characters -/

/-- Whether a character may begin a name. -/
def isNameStart (c : Char) : Bool := c.isAlpha || c == '_'

/-- Whether a character may stand in a name. -/
def isNamePart (c : Char) : Bool := isNameStart c || c.isDigit

/-- Whether a text is a name. -/
def isName (s : String) : Bool :=
  match s.toList with
  | [] => false
  | c :: cs => isNameStart c && cs.all isNamePart

/-- Whether a character is a blank of ASCII. -/
def isSpace (c : Char) : Bool := c == ' ' || ('\t' ≤ c && c ≤ '\r')

/-- The name and the value of an assignment. -/
def assignment? (s : String) : Option (String × String) :=
  let name := s.toList.takeWhile (· != '=')
  if isName (String.ofList name) && name.length < s.length then
    some (String.ofList name, String.ofList (s.toList.drop (name.length + 1)))
  else none

/-! ## Numbers -/

/-- The number that digits write, unless it is none of 31 bits. -/
def natural? (s : String) : Option Nat :=
  if s.toList.head?.any Char.isDigit then (Text.readBelow (1 <<< 31) s).toOption else none

/-- A whole number in decimal digits. -/
def shownInt (n : Int) : String := (if n < 0 then "-" else "") ++ Text.decimal n.natAbs

/-- The number that digits of a base write; a digit may be a letter of either case. -/
def digit? (base : Nat) (c : Char) : Option Nat :=
  let v := if c.isDigit then c.toNat - 48
    else if c.isLower then c.toNat - 87
    else if c.isUpper then c.toNat - 55
    else 99
  if v < base then some v else none

/-- Takes the digits of a base off the front of a text that follows the number `n`. -/
def digits (base : Nat) (n : Nat) : List Char → Nat × List Char
  | [] => (n, [])
  | c :: cs =>
    match digit? base c with
    | some d => digits base (base * n + d) cs
    | none => (n, c :: cs)

/-- Takes a number of base ten, eight behind a zero, or sixteen behind `0x` off the front. -/
def literal (cs : List Char) : Nat × List Char :=
  match cs with
  | '0' :: x :: c :: rest =>
    if (x = 'x' ∨ x = 'X') ∧ (digit? 16 c).isSome then digits 16 0 (c :: rest)
    else digits 8 0 cs
  | '0' :: _ => digits 8 0 cs
  | _ => digits 10 0 cs

/-- Takes a whole number with an optional sign and blanks before it off the front, if one is there.
It is not beyond the greatest or least one of 64 bits. -/
def signed? (cs : List Char) : Option (Int × List Char) :=
  let cs := cs.dropWhile isSpace
  let (negative, cs) := match cs with
    | '-' :: cs => (true, cs)
    | '+' :: cs => (false, cs)
    | cs => (false, cs)
  if cs.head?.any Char.isDigit then
    let (n, rest) := literal cs
    some (if negative then max (-(n : Int)) Int64.minValue.toInt
      else min (n : Int) Int64.maxValue.toInt, rest)
  else none

end TestFleet.Shell
