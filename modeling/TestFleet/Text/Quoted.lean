import TestFleet.Text.Printable

/-!
# Quoted text in messages

Diagnostics quote a text so that it can be told apart from the words around it: between double
quotes, with a backslash before a quote or a backslash, letters for the common controls, and the
code point in braces for every other character that is not printable.
-/

namespace TestFleet.Text

/-- A character as it stands inside a quoted text. -/
def quotedChar (c : Char) : List Char :=
  match c with
  | '\x00' => ['\\', '0']
  | '\t' => ['\\', 't']
  | '\r' => ['\\', 'r']
  | '\n' => ['\\', 'n']
  | '"' => ['\\', '"']
  | '\\' => ['\\', '\\']
  | c =>
    if isPrintable c then [c]
    else ['\\', 'u', '\x7b'] ++ Nat.toDigits 16 c.toNat ++ ['\x7d']

/-- A text between quotes. -/
def quoted (s : String) : String :=
  String.ofList ('"' :: s.toList.flatMap quotedChar ++ ['"'])

end TestFleet.Text
