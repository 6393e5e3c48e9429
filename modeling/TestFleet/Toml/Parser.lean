import TestFleet.Toml.Moment
import TestFleet.Toml.Number
import TestFleet.Toml.Value

/-!
# Settings files

A file is a list of lines, each of which is a header or a field, or says nothing. Behind any of them
a comment may stand. Arrays and long strings may run over several lines.

Every reader takes what it reads off the front of the text, and gives back the text behind it. Those
of nested parts take a bound on their steps, which is never reached if it is the length of the text.
-/

namespace TestFleet.Toml

/-! ## Space and comments -/

/-- The characters that may stand between the parts of a line. -/
def isSpace (c : Char) : Bool := c == ' ' || c == '\t'

/-- The characters of which lines are made: all but the control characters. -/
def isPrinted (c : Char) : Bool := c == '\t' || (' ' ≤ c && c != '\x7f')

/-- Skips space. -/
def skipSpace (cs : List Char) : List Char := cs.dropWhile isSpace

/-- Takes the end of a line off the front. -/
def newline? : List Char → Option (List Char)
  | '\n' :: cs => some cs
  | '\r' :: '\n' :: cs => some cs
  | _ => none

/-- Skips space and ends of lines. -/
def skipLines : List Char → List Char
  | [] => []
  | c :: cs =>
    if isSpace c then skipLines cs
    else match c, cs with
      | '\n', cs => skipLines cs
      | '\r', '\n' :: cs => skipLines cs
      | c, cs => c :: cs

/-- Skips a comment, if there is one. -/
def skipComment : List Char → List Char
  | '#' :: cs => cs.dropWhile isPrinted
  | cs => cs

/-- Skips the rest of a line that says nothing more. -/
def endLine? (cs : List Char) : Option (List Char) :=
  match skipComment (skipSpace cs) with
  | [] => some []
  | cs => newline? cs

/-- Skips space, ends of lines and comments, within a bound on the comments. -/
def skipBetween : Nat → List Char → List Char
  | 0, cs => cs
  | n + 1, cs =>
    match skipLines cs with
    | '#' :: cs => skipBetween n (cs.dropWhile isPrinted)
    | cs => cs

/-! ## Strings -/

/-- The character with a number that is written with so many digits. -/
def codePoint? (digits : Nat) (cs : List Char) : Option (Char × List Char) :=
  if (cs.take digits).length = digits then
    match Text.hexNumber? (cs.take digits) with
    | some n => if n.isValidChar then some (Char.ofNat n, cs.drop digits) else none
    | none => none
  else none

/-- The character that is written behind a backslash. -/
def escape? : List Char → Option (Char × List Char)
  | 'b' :: cs => some ('\x08', cs)
  | 'f' :: cs => some ('\x0c', cs)
  | 'n' :: cs => some ('\n', cs)
  | 'r' :: cs => some ('\r', cs)
  | 't' :: cs => some ('\t', cs)
  | '\\' :: cs => some ('\\', cs)
  | '"' :: cs => some ('"', cs)
  | 'u' :: cs => codePoint? 4 cs
  | 'U' :: cs => codePoint? 8 cs
  | _ => none

/-- Puts a character in front of a string. -/
def andThen (c : Char) : Option (List Char × List Char) → Option (List Char × List Char) :=
  Option.map fun (s, cs) => (c :: s, cs)

/-- The rest of a string between double quotes. -/
def basic? : Nat → List Char → Option (List Char × List Char)
  | 0, _ | _, [] => none
  | _ + 1, '"' :: cs => some ([], cs)
  | n + 1, '\\' :: cs => do
    let (c, cs) ← escape? cs
    andThen c (basic? n cs)
  | n + 1, c :: cs => if isPrinted c then andThen c (basic? n cs) else none

/-- The rest of a string between single quotes, in which there are no escapes. -/
def literal? (cs : List Char) : Option (List Char × List Char) :=
  match cs.span fun c => isPrinted c && c != '\'' with
  | (s, '\'' :: cs) => some (s, cs)
  | _ => none

/-- The end of a long string, of whose closing quotes the first three were read. Up to two more
belong to the string. -/
def closing (quote : Char) : List Char → List Char × List Char
  | a :: b :: cs =>
    if a = quote ∧ b = quote then ([a, b], cs)
    else if a = quote then ([a], b :: cs)
    else ([], a :: b :: cs)
  | [a] => if a = quote then ([a], []) else ([], [a])
  | [] => ([], [])

/-- The rest of a string between three double quotes. A backslash at the end of a line joins it to
the text that follows. -/
def longBasic? : Nat → List Char → Option (List Char × List Char)
  | 0, _ | _, [] => none
  | _ + 1, '"' :: '"' :: '"' :: cs => some (closing '"' cs)
  | n + 1, '\\' :: cs =>
    match newline? (skipSpace cs) with
    | some cs => longBasic? n (skipLines cs)
    | none => do
      let (c, cs) ← escape? cs
      andThen c (longBasic? n cs)
  | n + 1, '\r' :: '\n' :: cs | n + 1, '\n' :: cs => andThen '\n' (longBasic? n cs)
  | n + 1, c :: cs => if isPrinted c then andThen c (longBasic? n cs) else none

/-- The rest of a string between three single quotes. -/
def longLiteral? : List Char → Option (List Char × List Char)
  | [] => none
  | '\'' :: '\'' :: '\'' :: cs => some (closing '\'' cs)
  | '\r' :: '\n' :: cs | '\n' :: cs => andThen '\n' (longLiteral? cs)
  | c :: cs => if isPrinted c then andThen c (longLiteral? cs) else none

/-- A text without the end of a line at its front. -/
def dropNewline (cs : List Char) : List Char := (newline? cs).getD cs

/-- A string on one line. -/
def shortString? : List Char → Option (List Char × List Char)
  | '"' :: cs => basic? (cs.length + 1) cs
  | '\'' :: cs => literal? cs
  | _ => none

/-- Any string. -/
def string? : List Char → Option (List Char × List Char)
  | '"' :: '"' :: '"' :: cs => longBasic? (cs.length + 1) (dropNewline cs)
  | '\'' :: '\'' :: '\'' :: cs => longLiteral? (dropNewline cs)
  | cs => shortString? cs

/-! ## Names -/

/-- The characters of names without quotes. -/
def isBare (c : Char) : Bool := c.isAlphanum || c == '_' || c == '-'

/-- One name. -/
def name? (cs : List Char) : Option (String × List Char) :=
  match cs with
  | '"' :: _ | '\'' :: _ => (shortString? cs).map fun (s, cs) => (String.ofList s, cs)
  | _ =>
    let s := cs.takeWhile isBare
    if s.isEmpty then none else some (String.ofList s, cs.dropWhile isBare)

/-- How many names may stand between dots. -/
def nameLimit : Nat := 127

/-- Names between dots, within a bound on their number. Space may stand around each. -/
def path? : Nat → List Char → Option (List String × List Char)
  | 0, _ => none
  | n + 1, cs => do
    let (name, cs) ← name? (skipSpace cs)
    match skipSpace cs with
    | '.' :: cs =>
      let (path, cs) ← path? n cs
      some (name :: path, cs)
    | cs => some ([name], cs)

/-! ## Values -/

/-- How many arrays and tables between braces may be open at once. -/
def nestingLimit : Nat := 127

/-- A value that is a number, a date or a time. A text that may be read as several of them is what
comes first: a date or a time, a number of floating point, a whole number. -/
def numeral? (cs : List Char) : Option (Value × List Char) :=
  match (Moment.after? cs).or (afterFloat? cs) with
  | some cs => some (.other, cs)
  | none => (integer? cs).map fun (i, cs) => (.integer i, cs)

mutual

/-- One value, `level` arrays and tables being open around it. -/
def value? : Nat → Nat → List Char → Option (Value × List Char)
  | 0, _, _ => none
  | n + 1, level, cs =>
    match cs with
    | '"' :: _ | '\'' :: _ => (string? cs).map fun (s, cs) => (.string (String.ofList s), cs)
    | '[' :: cs =>
      if level < nestingLimit then
        (items? n (level + 1) cs).map fun (vs, cs) => (.array vs, cs)
      else none
    | '{' :: cs =>
      if level < nestingLimit then
        match skipSpace cs with
        | '}' :: cs => some (.table .braces [], cs)
        | cs => (fields? n (level + 1) [] cs).map fun (t, cs) => (.table .braces t, cs)
      else none
    | 't' :: 'r' :: 'u' :: 'e' :: cs => some (.boolean true, cs)
    | 'f' :: 'a' :: 'l' :: 's' :: 'e' :: cs => some (.boolean false, cs)
    | cs => numeral? cs

/-- The rest of an array. A comma may stand behind its last item. -/
def items? : Nat → Nat → List Char → Option (List Value × List Char)
  | 0, _, _ => none
  | n + 1, level, cs =>
    match skipBetween (cs.length + 1) cs with
    | ']' :: cs => some ([], cs)
    | cs => do
      let (v, cs) ← value? n level cs
      match skipBetween (cs.length + 1) cs with
      | ',' :: cs => (items? n level cs).map fun (vs, cs) => (v :: vs, cs)
      | ']' :: cs => some ([v], cs)
      | _ => none

/-- The rest of a table between braces, of which `t` was read. -/
def fields? : Nat → Nat → Table → List Char → Option (Table × List Char)
  | 0, _, _, _ => none
  | n + 1, level, t, cs => do
    let (path, cs) ← path? nameLimit cs
    match cs with
    | '=' :: cs =>
      let (v, cs) ← value? n level (skipSpace cs)
      let t ← Table.putBetweenBraces v path t
      match skipSpace cs with
      | ',' :: cs => fields? n level t cs
      | '}' :: cs => some (t, cs)
      | _ => none
    | _ => none

end

/-! ## Files -/

/-- The path of a header, cut before its last name. -/
def header? (cs : List Char) : Option ((List String × String) × List Char) := do
  let (path, cs) ← path? nameLimit cs
  some ((path.dropLast, ← path.getLast?), cs)

/-- A line that says something. -/
def statement? (cs : List Char) : Option (Statement × List Char) :=
  match skipSpace cs with
  | '[' :: '[' :: cs => do
    let ((path, key), cs) ← header? cs
    match cs with
    | ']' :: ']' :: cs => some (.element path key, ← endLine? cs)
    | _ => none
  | '[' :: cs => do
    let ((path, key), cs) ← header? cs
    match cs with
    | ']' :: cs => some (.table path key, ← endLine? cs)
    | _ => none
  | cs => do
    let (path, cs) ← path? nameLimit cs
    match cs with
    | '=' :: cs =>
      let (v, cs) ← value? (cs.length + 1) 0 (skipSpace cs)
      some (.field path v, ← endLine? cs)
    | _ => none

/-- The lines of a text that say something, within a bound on the lines. -/
def statements? : Nat → List Char → Option (List Statement)
  | _, [] => some []
  | 0, _ => none
  | n + 1, cs =>
    match endLine? cs with
    | some cs => statements? n cs
    | none => do
      let (s, cs) ← statement? cs
      (statements? n cs).map (s :: ·)

/-- A text without the mark that tells its encoding. -/
def dropMark : List Char → List Char
  | '\ufeff' :: cs => cs
  | cs => cs

/-- The table that a text writes. -/
def ofText? (s : String) : Option Table :=
  let cs := dropMark s.toList
  statements? cs.length cs >>= Document.ofStatements?

end TestFleet.Toml
