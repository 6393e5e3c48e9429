import TestFleet.Shell.Bytes

/-!
# Shell commands

A script is a list of commands, and a command is made of words. A word is made of pieces, of which
some are put in the place of others only when the command is run: the values of parameters, what
other commands write, and the results of calculations.

Commands keep the number of the line they begin on, which is named in complaints.
-/

namespace TestFleet.Shell

/-- How a file is opened for a redirection. -/
inductive Opening where
  | read
  | write
  | append
  | both
  /-- For writing, though it may be there and files shall not be overwritten. -/
  | clobber
  deriving DecidableEq, Repr

mutual

/-- A part of a word. -/
inductive Piece where
  /-- Text without quotes. -/
  | text (s : String)
  /-- Text between single quotes or behind a backslash. -/
  | literal (s : String)
  /-- What stands between double quotes. -/
  | quoted (ps : List Piece)
  | parameter (name : String) (use : Use)
  /-- What a command writes. -/
  | output (c : Option Command)
  | arithmetic (ps : List Piece)

/-- What is done with the value of a parameter. -/
inductive Use where
  | plain
  | length
  /-- The word stands for a missing value, or an empty one too. -/
  | orElse (emptyToo : Bool) (w : List Piece)
  /-- The word is given to a missing parameter, or an empty one too. -/
  | assign (emptyToo : Bool) (w : List Piece)
  /-- The word says what is wrong with a missing value, or an empty one too. -/
  | demand (emptyToo : Bool) (w : List Piece)
  /-- The word stands for a value that is there, and is not empty. -/
  | instead (emptyToo : Bool) (w : List Piece)
  /-- What the word matches is cut off at the front or at the end. -/
  | trim (front longest : Bool) (w : List Piece)
  /-- Nothing that can be done. -/
  | bad

/-- Where a stream is taken from or sent. -/
inductive Redirection where
  | file (stream : Nat) (opening : Opening) (path : List Piece)
  /-- To where another stream goes; a dash closes it. -/
  | copy (stream : Nat) (source : List Piece)
  /-- From the document of a number. -/
  | document (stream : Nat) (number : Nat)

/-- A command. -/
inductive Command where
  /-- Assignments, words and redirections. -/
  | simple (line : Nat) (assignments : List (String × List Piece)) (words : List (List Piece))
      (redirections : List Redirection)
  | pipeline (commands : List Command)
  | redirected (line : Nat) (body : Command) (redirections : List Redirection)
  | subshell (line : Nat) (body : Command) (redirections : List Redirection)
  | background (line : Nat) (body : Command)
  | and (first second : Command)
  | or (first second : Command)
  | sequence (first second : Command)
  | not (body : Command)
  | choice (condition yes : Command) (no : Option Command)
  /-- Repeats the body while the condition succeeds, or while it fails. -/
  | loop (whileFails : Bool) (condition body : Command)
  | each (line : Nat) (name : String) (words : List (List Piece)) (body : Command)
  | branch (line : Nat) (subject : List Piece)
      (branches : List (List (List Piece) × Option Command))
  | define (line : Nat) (name : String) (body : Command)

end

/-- A word; it may be made of nothing but quoted emptiness. -/
abbrev Word := List Piece

/-- The text of a redirection that stands below its command. -/
structure Document where
  number : Nat
  text : Word

/-- Why a text is no script. -/
inductive SyntaxFault where
  /-- A token that cannot stand where it does; what had to stand there, if that is known. -/
  | unexpected (token : String) (needed : Option String)
  | missing (what : String)
  | unterminated
  | backquote
  | badLoopVariable
  | badFunctionName
  deriving DecidableEq, Repr

/-- The explanation shown to a user. -/
def SyntaxFault.message : SyntaxFault → String
  | .unexpected token none => token ++ " unexpected"
  | .unexpected token (some needed) => token ++ " unexpected (expecting " ++ needed ++ ")"
  | .missing what => "Missing '" ++ what ++ "'"
  | .unterminated => "Unterminated quoted string"
  | .backquote => "EOF in backquote substitution"
  | .badLoopVariable => "Bad for loop variable"
  | .badFunctionName => "Bad function name"

end TestFleet.Shell
