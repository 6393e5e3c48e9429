import TestFleet.Directory
import TestFleet.Shell.Syntax

/-!
# Reading characters of scripts

A cursor is a place in a script. A reader takes what it reads off the front of the text behind the
place, and stops at the first fault, in the line where the place then is. A backslash at the end of
a line joins it to the next one.
-/

namespace TestFleet.Shell

/-- A word, operator or line end, or none where the text ends. -/
inductive Token where
  | endOfText
  | newline
  | operator (o : String)
  | redirection (stream : Option Nat) (o : String)
  | word (w : Word)
  | keyword (k : String)

/-- A token as it is named in a complaint. -/
def Token.shown : Token → String
  | .endOfText => "end of file"
  | .newline => "newline"
  | .operator o | .keyword o => "\"" ++ o ++ "\""
  | .redirection .. => "redirection"
  | .word _ => "word"

/-- A document whose text begins behind the end of the line. -/
structure Pending where
  number : Nat
  /-- The line that ends it. -/
  marker : String
  /-- Whether tabs at the beginning of its lines are dropped. -/
  dropsTabs : Bool
  /-- Whether its text has parts that are put in the place of others. -/
  expands : Bool

/-- A place in a script. -/
structure Cursor where
  /-- The text behind the place. -/
  rest : List Char
  line : Nat := 1
  /-- A token that was read ahead. -/
  ahead : Option Token := none
  pending : List Pending := []
  documents : List Document := []
  nextDocument : Nat := 0
  /-- The texts that are put in the place of words that are commands. -/
  aliases : Directory String String := ∅
  /-- Which of them were put there, and how much text is left where each ends. -/
  replaced : List (String × Nat) := []

/-- Reads something, or stops at a fault. -/
abbrev Parse := EStateM SyntaxFault Cursor

namespace Parse

/-- The text behind the place. -/
def rest : Parse (List Char) := return (← get).rest

/-- Moves the place. -/
def moveTo (rest : List Char) : Parse Unit := modify fun k => { k with rest }

/-- Counts a line. -/
def countLine : Parse Unit := modify fun k => { k with line := k.line + 1 }

/-- The text behind a place, and the number of lines that were joined before it. -/
def joined : List Char → Nat × List Char
  | '\\' :: '\n' :: cs =>
    let (n, cs) := joined cs
    (n + 1, cs)
  | cs => (0, cs)

/-- Joins lines at the place. -/
def joinLines : Parse (List Char) := modifyGet fun k =>
  let (n, cs) := joined k.rest
  (cs, { k with rest := cs, line := k.line + n })

/-- Takes the next character off the front, lines being joined before it. -/
def next? : Parse (Option Char) := do
  match ← joinLines with
  | [] => return none
  | c :: cs =>
    moveTo cs
    return some c

/-- The next character, lines being joined before it. -/
def peek? : Parse (Option Char) := return (← joinLines).head?

/-- Takes a character off the front if it is the next one. -/
def accept (c : Char) : Parse Bool := do
  match ← joinLines with
  | d :: cs =>
    if c = d then
      moveTo cs
      return true
    else return false
  | [] => return false

/-- Takes characters off the front as long as they are of a kind. -/
def takeWhile (p : Char → Bool) : Parse String := do
  let cs ← rest
  moveTo (cs.dropWhile p)
  return String.ofList (cs.takeWhile p)

/-- Takes characters of a kind off the front of lines that are joined, of at most `n + 1` lines. -/
def takeJoined (p : Char → Bool) : Nat → Parse String
  | 0 => takeWhile p
  | n + 1 => do
    let s ← takeWhile p
    match joined (← rest) with
    | (0, _) => return s
    | (_, cs) =>
      if cs.head?.any p then
        let _ ← joinLines
        return s ++ (← takeJoined p n)
      else return s

/-- Puts a token back, to be read again. -/
def putBack (t : Token) : Parse Unit := modify fun k => { k with ahead := some t }

end Parse

end TestFleet.Shell
