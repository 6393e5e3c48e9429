import TestFleet.Text.Utf8
import TestFleet.Text.Decimal

/-!
# JSON values and their text

The values that this library writes hold natural numbers only. They are written without blanks,
objects in the order of their fields, and strings with an escape for quotes, backslashes and
control characters and all other characters as they are.
-/

namespace TestFleet

/-- A JSON value as it is written. -/
inductive Json where
  | null
  | bool (b : Bool)
  | natural (n : Nat)
  | string (s : String)
  | array (items : List Json)
  | object (fields : List (String × Json))
  deriving Inhabited

namespace Json

/-- The byte of an ASCII character. -/
def ascii (c : Char) : UInt8 := UInt8.ofNat c.toNat

/-- The bytes of an ASCII text. -/
def asciis (s : String) : List UInt8 := s.toList.map ascii

/-- The letter that stands for a byte behind a backslash. -/
def escapeLetter? (b : UInt8) : Option Char :=
  if b = 0x22 then some '"'
  else if b = 0x5C then some '\\'
  else if b = 0x08 then some 'b'
  else if b = 0x0C then some 'f'
  else if b = 0x0A then some 'n'
  else if b = 0x0D then some 'r'
  else if b = 0x09 then some 't'
  else none

/-- A byte as it stands inside a string. -/
def escapeByte (b : UInt8) : List UInt8 :=
  match escapeLetter? b with
  | some c => [ascii '\\', ascii c]
  | none =>
    if b < 0x20 then
      asciis "\\u00" ++ [Nat.digitChar (b.toNat / 16), Nat.digitChar (b.toNat % 16)].map ascii
    else [b]

/-- A text between quotes. -/
def stringBytes (s : String) : List UInt8 :=
  ascii '"' :: (Text.utf8 s).flatMap escapeByte ++ [ascii '"']

mutual

/-- The bytes of a value. -/
def bytes : Json → List UInt8
  | null => asciis "null"
  | bool true => asciis "true"
  | bool false => asciis "false"
  | natural n => (Text.decimalDigits n).map ascii
  | string s => stringBytes s
  | array [] => asciis "[]"
  | array (item :: items) => ascii '[' :: bytes item ++ itemsBytes items
  | object [] => asciis "\x7b\x7d"
  | object ((name, value) :: fields) =>
    ascii '\x7b' :: stringBytes name ++ ascii ':' :: bytes value ++ fieldsBytes fields

/-- The bytes of the items after the first, with the bracket that closes the array. -/
def itemsBytes : List Json → List UInt8
  | [] => [ascii ']']
  | item :: items => ascii ',' :: bytes item ++ itemsBytes items

/-- The bytes of the fields after the first, with the brace that closes the object. -/
def fieldsBytes : List (String × Json) → List UInt8
  | [] => [ascii '\x7d']
  | (name, value) :: fields =>
    ascii ',' :: stringBytes name ++ ascii ':' :: bytes value ++ fieldsBytes fields

end

/-- The text of a value. -/
def text (j : Json) : String := (Text.ofUtf8? j.bytes).getD ""

/-- A value or nothing. -/
def ofOption (f : α → Json) : Option α → Json
  | none => null
  | some a => f a

/-- A list of values. -/
def ofList (f : α → Json) (as : List α) : Json := array (as.map f)

end Json

end TestFleet
