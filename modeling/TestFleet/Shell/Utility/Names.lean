import TestFleet.Shell.Builtin
import TestFleet.Shell.Utility.Options

/-!
# Programs on names

Programs that take names apart, tell names, decide conditions, wait, and send signals.
-/

namespace TestFleet.Shell.Utility

/-- The part of a path behind its last slash but for slashes at its end. -/
def baseName (path : String) : String :=
  let cs := path.toList.reverse.dropWhile (· == '/')
  if cs.isEmpty then (if path = "" then "" else "/")
  else String.ofList (cs.takeWhile (· != '/')).reverse

/-- The part of a path before its last name. -/
def directoryName (path : String) : String :=
  let cs := path.toList.reverse.dropWhile (· == '/')
  let front := (cs.dropWhile (· != '/'))
  let front' := front.dropWhile (· == '/')
  if cs.isEmpty then (if path = "" then "." else "/")
  else if front.isEmpty then "."
  else if front'.isEmpty then "/"
  else String.ofList front'.reverse

/-- A name without an ending, unless it is nothing else. -/
def withoutEnding (name ending : String) : String :=
  if name ≠ ending ∧ name.endsWith ending then (name.dropEnd ending.length).toString else name

def basename : Program :=
  withOptions 1 ⟨"as:z", [("multiple", 'a'), ("suffix", 's')]⟩ fun o => do
    let ending := (o.value? 's').getD ""
    match o.operands with
    | [] =>
      complainOfCall "missing operand"
      return 1
    | all@(path :: others) =>
      if o.has 'a' ∨ o.has 's' then
        say (ofLines (all.map fun p => withoutEnding (baseName p) ending))
      else match others with
        | [] => say (baseName path ++ "\n")
        | [ending] => say (withoutEnding (baseName path) ending ++ "\n")
        | _ :: extra :: _ =>
          complainOfCall ("extra operand '" ++ extra ++ "'")
          return 1

def dirname : Program := withOptions 1 ⟨"z", []⟩ fun o => do
  if o.operands.isEmpty then
    complainOfCall "missing operand"
    return 1
  else say (ofLines (o.operands.map directoryName))

/-- Writes the values of variables, or all variables. -/
def printenv : Program := withOptions 2 ⟨"0", []⟩ fun o => do
  let environment ← Action.exported
  if o.operands.isEmpty then
    say (ofLines (environment.map fun (name, value) => name ++ "=" ++ value))
  else
    let found := o.operands.filterMap (environment.lookup ·)
    let status ← say (ofLines found)
    return if found.length = o.operands.length then status else 1

/-- Tells what kind of system this is. -/
def uname : Program := withOptions 1 ⟨"asnrvmpio", []⟩ fun o => do
  let parts := [('s', "Linux"), ('n', "localhost"), ('r', "6.0.0"), ('v', "#1"), ('m', "x86_64"),
    ('o', "GNU/Linux")]
  let asked := parts.filter fun (c, _) => o.has c || o.has 'a'
  let asked := if o.given.isEmpty then parts.take 1 else asked
  say (" ".intercalate (asked.map (·.2)) ++ "\n")

def whoami : Program := fun _ => say "root\n"

/-- Tells who the user is. -/
def userId : Program := withOptions 1 ⟨"ugGnr", []⟩ fun o =>
  say (if o.has 'n' then "root\n" else if o.given.isEmpty then
    "uid=0(root) gid=0(root) groups=0(root)\n" else "0\n")

def hostname : Program := fun _ => say "localhost\n"

def nproc : Program := fun _ => say "1\n"

def tty : Program := fun _ => do
  let _ ← say "not a tty\n"
  return 1

/-- Tells the time, in seconds since the epoch. -/
def date : Program := fun _ => do say (Text.decimal ((← Action.world).now / 1000000000) ++ "\n")

def pwd : Program := fun _ => do say ((← Action.place) ++ "\n")

/-- Looks for programs. -/
def which : Program := withOptions 2 ⟨"as", []⟩ fun o => do
  let mut status := 0
  for name in o.operands do
    match ← Action.programPath? name with
    | some path => status := max status (← say (path ++ "\n"))
    | none => status := 1
  return status

/-- The nanoseconds of an interval such as `1.5m`. -/
def interval? (s : String) : Option Nat :=
  let whole := s.toList.takeWhile Char.isDigit
  let rest := s.toList.drop whole.length
  let (places, rest) := match rest with
    | '.' :: cs => (cs.takeWhile Char.isDigit, cs.dropWhile Char.isDigit)
    | cs => ([], cs)
  let factor := match rest with
    | [] | ['s'] => some 1
    | ['m'] => some 60
    | ['h'] => some 3600
    | ['d'] => some 86400
    | _ => none
  if whole.isEmpty ∧ places.isEmpty then none
  else factor.map fun k =>
    let places := places.take 9
    let n := (digits 10 0 (whole ++ places ++ List.replicate (9 - places.length) '0')).1
    n * k

def sleep : Program := withOptions 1 ⟨"", []⟩ fun o => do
  match o.operands.find? fun w => (interval? w).isNone with
  | some w =>
    complainOfCall ("invalid time interval '" ++ w ++ "'")
    return 1
  | none =>
    if o.operands.isEmpty then
      complainOfCall "missing operand"
      return 1
    else
      let time := (o.operands.filterMap interval?).foldl (· + ·) 0
      Action.changeWorld fun w => { w with now := w.now + time }
      return 0

/-- Decides a condition. -/
def test : Program := fun words => do
  match Condition.holds (← Action.questions) words with
  | .ok holds => return if holds then 0 else 1
  | .error fault =>
    complain (match fault with
      | .illegalNumber s => "invalid integer '" ++ s ++ "'"
      | .missingArgument s => "missing argument after '" ++ s ++ "'"
      | .unexpected s => "extra argument '" ++ s ++ "'"
      | .unclosed => "')' expected")
    return 2

def bracket : Program := fun words => do
  if words.getLast? ≠ some "]" then
    complain "missing ']'"
    return 2
  else test words.dropLast

/-- Sends a signal to processes. -/
def kill : Program := fun words => do
  let (signal, names) := match words with
    | "-s" :: name :: rest => (Signal.number? name, rest)
    | a :: rest =>
      if a.startsWith "-" ∧ a ≠ "--" then (Signal.number? (a.drop 1).toString, rest)
      else (some 15, if a = "--" then rest else words)
    | [] => (some 15, [])
  match signal with
  | none =>
    complain ("unknown signal: " ++ words.headD "")
    return 1
  | some signal =>
    let mut status := 0
    for name in names do
      match natural? name with
      | none =>
        complain ("failed to parse argument: '" ++ name ++ "'")
        status := 1
      | some n =>
        if !(← Action.send signal n) then
          complain ("(" ++ name ++ "): No such process")
          status := 1
    return status

/-- The words that `xargs` starts programs with, for its own arguments and the text it reads: all at
once, so many at a time, or one line at a time in the place of a word. -/
def gathered (arguments : List String) (s : String) : Except String (List (List String)) :=
  match arguments with
  | "-n" :: n :: program =>
    match natural? n with
    | some (k + 1) =>
      let words := wordsOf s
      let rec chunks : Nat → List String → List (List String)
        | 0, _ | _, [] => []
        | m + 1, ws => (orEcho program ++ ws.take (k + 1)) :: chunks m (ws.drop (k + 1))
      .ok (chunks words.length words)
    | _ => .error ("invalid number \"" ++ n ++ "\" for -n option")
  | "-I" :: mark :: program => .ok (inPlace mark program)
  | a :: program =>
    if a.startsWith "-I" then .ok (inPlace (a.drop 2).toString program)
    else .ok [orEcho arguments ++ wordsOf s]
  | [] => .ok [orEcho [] ++ wordsOf s]
where
  orEcho (program : List String) : List String := if program.isEmpty then ["echo"] else program
  inPlace (mark : String) (program : List String) : List (List String) :=
    ((linesOf s).filter (· ≠ "")).map fun l => (orEcho program).map (·.replace mark l)

end TestFleet.Shell.Utility
