import TestFleet.Shell.Builtin.Options

/-!
# Commands on variables

The commands of the shell that set, list, mark and remove variables, and those that read into them:
from a stream, and from the options among arguments.
-/

namespace TestFleet.Shell.Action

/-! ## Marks -/

/-- Lists variables, each behind a word. -/
def listVariables (front : String) (isListed : Variable → Bool) : Action Unit := do
  for (name, v) in (← get).bindings.entries do
    if isListed v then
      let value := match v.value with
        | none => ""
        | some s => "=" ++ singleQuoted s
      let _ ← write 1 (front ++ name ++ value ++ "\n")

/-- Refuses a text that is no name. -/
def checkName (name : String) : Action Unit := do
  if !isName name then fail ((name.splitOn "=").headD name ++ ": bad variable name")

/-- Marks the variables that arguments name, some of which give values too. -/
def markAll (command : String) (isMarked : Variable → Bool) (mark : Variable → Variable)
    (arguments : List String) : Action Nat := do
  let (given, names) ← options "p" arguments
  if names.isEmpty ∨ !given.isEmpty then listVariables (command ++ " ") isMarked
  else
    for a in names do
      match a.splitOn "=" with
      | name :: _ :: _ =>
        checkName name
        assign name (a.drop (name.length + 1)).toString
      | _ => checkName a
      let name := (a.splitOn "=").headD a
      setVariable name (mark ((← binding? name).getD { value := none }))
  return 0

def export_ (arguments : List String) : Action Nat :=
  markAll "export" (·.isExported) (fun v => { v with isExported := true }) arguments

def readonly (arguments : List String) : Action Nat :=
  markAll "readonly" (·.isReadonly) (fun v => { v with isReadonly := true }) arguments

/-- Keeps what a variable is, to be brought back when the function ends. -/
def keepOutside (name : String) : Action Unit := do
  match (← get).frames with
  | [] => return
  | f :: frames =>
    if f.locals.any (·.1 == name) then return
    else
      let v ← binding? name
      modify fun s => { s with frames := { f with locals := (name, v) :: f.locals } :: frames }

def local_ (arguments : List String) : Action Nat := do
  if (← get).frames.isEmpty then fail "not in a function"
  for a in arguments do
    if a = "-" then
      modify fun s => { s with frames := match s.frames with
          | f :: frames => { f with options := f.options.or (some s.options) } :: frames
          | [] => [] }
    else
      let name := (a.splitOn "=").headD a
      checkName name
      keepOutside name
      if name.length < a.length then assign name (a.drop (name.length + 1)).toString
  return 0

def unset_ (arguments : List String) : Action Nat := do
  let (given, names) ← options "vf" arguments
  for name in names do
    if given.getLast?.any (·.1 == 'f') then
      modify fun s => { s with functions := s.functions.erase name }
    else
      checkName name
      unset name
  return 0

/-! ## Arguments -/

def shift (arguments : List String) : Action Nat := do
  let n ← match arguments with
    | [] => pure 1
    | a :: _ => numberOf a
  let s ← get
  if s.arguments.length < n then fail "can't shift that many"
  set { s with arguments := s.arguments.drop n, optionPlace := 0 }
  return 0

def set_ (arguments : List String) : Action Nat := do
  if arguments.isEmpty then
    listVariables "" (·.value.isSome)
    return 0
  else
    let words ← setOptions false arguments.length arguments
    if words.endsOptions ∨ !words.rest.isEmpty then
      modify fun s => { s with arguments := words.rest, optionPlace := 0 }
      assign "OPTIND" "1"
    return 0

/-- Looks for the next option among arguments. -/
def getopts (arguments : List String) : Action Nat := do
  match arguments with
  | allowed :: name :: given =>
    let s ← get
    let words := if given.isEmpty then s.arguments else given
    let index := ((← value? "OPTIND") >>= natural?).getD 1
    let place := s.optionPlace
    let silent := allowed.startsWith ":"
    let finish (index place : Nat) (found : String) (argument : Option String) (code : Nat) :
        Action Nat := do
      assign "OPTIND" (Text.decimal index)
      modify fun s => { s with optionPlace := place }
      match argument with
      | some a => assign "OPTARG" a
      | none => unset "OPTARG"
      checkName name
      assign name found
      return code
    let word := words.getD (index - 1) ""
    let atWord := place = 0
    if atWord ∧ (word.length < 2 ∨ !word.startsWith "-") then finish index 0 "?" none 1
    else if atWord ∧ word = "--" then finish (index + 1) 0 "?" none 1
    else
      let cs := word.toList.drop (max place 1)
      match cs with
      | [] => finish index 0 "?" none 1
      | c :: rest =>
        let shown := String.singleton c
        let next := if rest.isEmpty then (index + 1, 0) else (index, max place 1 + 1)
        let known := (allowed.toList.dropWhile (· ≠ c))
        match if c = ':' then [] else known with
        | [] =>
          if !silent then let _ ← write 2 ("Illegal option -" ++ shown ++ "\n")
          finish next.1 next.2 "?" (if silent then some shown else none) 0
        | _ :: ':' :: _ =>
          if !rest.isEmpty then finish (index + 1) 0 shown (some (String.ofList rest)) 0
          else
            match words[index]? with
            | some a => finish (index + 2) 0 shown (some a) 0
            | none =>
              if silent then finish (index + 1) 0 ":" (some shown) 0
              else
                let _ ← write 2 ("No arg for -" ++ shown ++ " option\n")
                finish (index + 1) 0 "?" none 0
        | _ => finish next.1 next.2 shown (some "") 0
  | _ => fail "Usage: getopts optstring var [arg...]"

/-! ## Reading -/

/-- The characters of the next line, and whether each may be cut at; a backslash takes that from a
character, and joins lines. Also what is behind the line, and whether the line ended. -/
def splitLine (raw : Bool) : Nat → List Char → List (Char × Bool) × List Char × Bool
  | 0, cs => ([], cs, false)
  | _ + 1, [] => ([], [], false)
  | _ + 1, '\n' :: cs => ([], cs, true)
  | n + 1, '\\' :: cs =>
    if raw then
      let (line, rest, ended) := splitLine raw n cs
      (('\\', true) :: line, rest, ended)
    else match cs with
      | [] => ([], [], false)
      | '\n' :: cs => splitLine raw n cs
      | c :: cs =>
        let (line, rest, ended) := splitLine raw n cs
        ((c, false) :: line, rest, ended)
  | n + 1, c :: cs =>
    let (line, rest, ended) := splitLine raw n cs
    if c = '\x00' then (line, rest, ended) else ((c, true) :: line, rest, ended)

/-- A line while it is cut into fields. -/
structure Cutting where
  /-- How many fields may still be cut off. -/
  left : Nat
  /-- The fields, the last one first. -/
  done : List String := []
  /-- The field at work, its last character first. -/
  open_ : List Char := []
  /-- Whether a blank ended the field before. -/
  behindBlank : Bool := false
  /-- The length that the last field is cut to, if it ends here. -/
  keep : Option Nat := none

/-- Takes the next character of a line, which may be a separator unless it was taken from that. -/
def Cutting.take (separators : List Char) (k : Cutting) (x : Char × Bool) : Cutting :=
  let (c, splits) := x
  let isSeparator := separators.contains c
  let isBlank := isSeparator && (c == ' ' || c == '\t' || c == '\n')
  let grown := { k with open_ := c :: k.open_ }
  if !splits then { grown with behindBlank := false }
  else if k.left = 0 then
    if isBlank then { grown with keep := k.keep.or (some k.open_.length) }
    else { grown with
      keep := if isSeparator && k.behindBlank then k.keep else none, behindBlank := false }
  else if k.behindBlank then
    if isSeparator then { k with open_ := [], behindBlank := isBlank }
    else { k with open_ := [c], behindBlank := false }
  else if !isSeparator then grown
  else if isBlank ∧ k.open_.isEmpty then k
  else if k.left = 1 then
    { grown with left := 0, keep := some k.open_.length, behindBlank := isBlank }
  else { k with
    left := k.left - 1
    done := String.ofList k.open_.reverse :: k.done
    open_ := []
    behindBlank := isBlank }

/-- Cuts a line into at most so many fields; the last one is the rest of the line but for
separators at its end. -/
def lineFields (separators : String) (count : Nat) (line : List (Char × Bool)) : List String :=
  let k := line.foldl (Cutting.take separators.toList) { left := count }
  let last := k.open_.reverse.take (k.keep.getD k.open_.length)
  (if last.isEmpty then k.done else String.ofList last :: k.done).reverse

def read (arguments : List String) : Action Nat := do
  let (given, names) ← options "p:r" arguments
  if names.isEmpty then fail "arg count"
  let raw := given.any (·.1 == 'r')
  let text ← match ← readAll 0 with
    | .ok s => pure s
    | .error _ => pure ""
  let (line, rest, ended) := splitLine raw (text.length + 1) text.toList
  unread 0 (String.ofList rest)
  let values := lineFields (← separators) names.length line
  for (i, name) in names.mapIdx fun i name => (i, name) do
    checkName name
    assign name (values.getD i "")
  return if ended then 0 else 1

end TestFleet.Shell.Action
