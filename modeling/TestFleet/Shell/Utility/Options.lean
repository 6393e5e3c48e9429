import TestFleet.Shell.Redirection

/-!
# Options of programs

Programs take options in words that begin with a dash, wherever these stand, up to a word that is
two dashes; the words that are left are their operands. A program complains under its own name.
-/

namespace TestFleet.Shell.Utility

/-- What a program does with its arguments: the code that it ends with. -/
abbrev Program := List String → Action Nat

/-- Complains under the name that the program was called by. -/
def complain (what : String) : Action Unit := do
  let _ ← Action.write 2 ((← get).name ++ ": " ++ what ++ "\n")

/-- Complains of how the program was called. -/
def complainOfCall (what : String) : Action Unit := do
  complain what
  let _ ← Action.write 2 ("Try '" ++ (← get).name ++ " --help' for more information.\n")

/-- Writes the output of a program, and complains if that cannot be written. -/
def say (s : String) : Action Nat := do
  match ← Action.write 1 s with
  | none => return 0
  | some fault =>
    complain ("write error: " ++ fault.message)
    return 1

/-- The options and operands of a program. -/
structure Options where
  /-- The letters of the options with their values, the first one first. -/
  given : List (Char × String) := []
  operands : List String := []

namespace Options

/-- Whether an option was given. -/
def has (o : Options) (c : Char) : Bool := o.given.any (·.1 == c)

/-- The value that an option was given last. -/
def value? (o : Options) (c : Char) : Option String :=
  (o.given.reverse.find? (·.1 == c)).map (·.2)

/-- The options that a program takes. -/
structure Allowed where
  /-- The letters; a colon follows those that take a value. -/
  letters : String
  /-- The letters that longer names stand for. -/
  names : List (String × Char) := []

/-- Whether a letter is allowed, and takes a value. -/
def Allowed.takesValue? (a : Allowed) (c : Char) : Option Bool :=
  match a.letters.toList.dropWhile (· ≠ c) with
  | _ :: ':' :: _ => some true
  | _ :: _ => some false
  | [] => none

def add (o : Options) (c : Char) (value : String) : Options :=
  { o with given := (c, value) :: o.given }

/-- Reads the letters of a word, and the word behind it if the last letter takes a value. -/
def readLetters (a : Allowed) (o : Options) : List Char → List String →
    Except String (Options × List String)
  | [], words => .ok (o, words)
  | c :: cs, words =>
    match if c = ':' then none else a.takesValue? c with
    | none => .error ("invalid option -- '" ++ String.singleton c ++ "'")
    | some false => readLetters a (o.add c "") cs words
    | some true =>
      match cs, words with
      | [], [] => .error ("option requires an argument -- '" ++ String.singleton c ++ "'")
      | [], v :: words => .ok (o.add c v, words)
      | cs, words => .ok (o.add c (String.ofList cs), words)

/-- Reads a longer name of an option, and the word behind it if that is its value. -/
def readName (a : Allowed) (o : Options) (word : String) (words : List String) :
    Except String (Options × List String) :=
  let name := (word.splitOn "=").headD ""
  match a.names.lookup name with
  | none => .error ("unrecognized option '--" ++ name ++ "'")
  | some c =>
    if a.takesValue? c = some true then
      if name.length < word.length then
        .ok (o.add c (word.drop (name.length + 1)).toString, words)
      else match words with
        | [] => .error ("option '--" ++ name ++ "' requires an argument")
        | v :: words => .ok (o.add c v, words)
    else if name.length < word.length then
      .error ("option '--" ++ name ++ "' doesn't allow an argument")
    else .ok (o.add c "", words)

/-- Reads words, of which there are at most `n`. -/
def readFrom (a : Allowed) (o : Options) : Nat → List String → Except String Options
  | 0, _ | _, [] => .ok o
  | n + 1, word :: words =>
    if word = "--" then .ok { o with operands := o.operands ++ words }
    else match word.toList with
      | '-' :: '-' :: _ => do
        let (o, words) ← readName a o (word.drop 2).toString words
        readFrom a o n words
      | '-' :: c :: cs => do
        let (o, words) ← readLetters a o (c :: cs) words
        readFrom a o n words
      | _ => readFrom a { o with operands := o.operands ++ [word] } n words

/-- Reads the options of a program. -/
def read (a : Allowed) (words : List String) : Except String Options :=
  (readFrom a {} words.length words).map fun o => { o with given := o.given.reverse }

end Options

/-- A program that takes options; a wrong call leaves the code `usage`. -/
def withOptions (usage : Nat) (allowed : Options.Allowed)
    (f : Options → Action Nat) : Program := fun words => do
  match Options.read allowed words with
  | .ok o => f o
  | .error what =>
    complainOfCall what
    return usage

/-! ## Input -/

/-- What is in a file; a dash stands for what is to be read. -/
def contentAt (path : String) : Action (Except SystemFault String) := do
  if path = "-" then Action.readAll 0
  else match ← Action.openFile .read path with
    | .error fault => return .error fault
    | .ok place => Action.keepingStreams do
        Action.connect 10 (some place)
        Action.readAll 10

/-- What most programs say of a file that cannot be read. -/
def unreadable (path : String) (fault : SystemFault) : String := path ++ ": " ++ fault.message

/-- What is in all of some files. -/
def joinedFiles (paths : List String) : Action (Nat × String) := do
  let mut status := 0
  let mut texts := #[]
  for path in if paths.isEmpty then ["-"] else paths do
    match ← contentAt path with
    | .ok s => texts := texts.push s
    | .error fault =>
      complain (unreadable path fault)
      status := 1
  return (status, String.join texts.toList)

/-- The lines of a text without their ends. -/
def linesOf (s : String) : List String :=
  match s.splitOn "\n" with
  | [] => []
  | ls => if s = "" ∨ s.endsWith "\n" then ls.dropLast else ls

/-- Lines with their ends. -/
def ofLines (ls : List String) : String := String.join (ls.map (· ++ "\n"))

/-- The words of a text, between blanks. -/
def wordsOf (s : String) : List String :=
  ((s.split isSpace).toList.map (·.toString)).filter (· ≠ "")

end TestFleet.Shell.Utility
