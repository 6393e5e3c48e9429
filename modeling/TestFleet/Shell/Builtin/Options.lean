import TestFleet.Shell.State

/-!
# Options

The options of the shell's own commands, and those of the shell itself, which each have a letter and
most of them a name.
-/

namespace TestFleet.Shell.Action

/-! ## Options of commands -/

/-- Takes the options off the front of arguments, of which at most `n` are read. A letter with a
colon behind it in `allowed` takes a value: the rest of its word, or the next one. -/
def takeOptions (allowed : String) : Nat → List String →
    Action (List (Char × String) × List String)
  | 0, arguments => return ([], arguments)
  | n + 1, arguments => do
    match arguments with
    | [] => return ([], [])
    | a :: rest =>
      if a = "--" then return ([], rest)
      else match a.toList with
        | '-' :: c :: cs =>
          let takesValue ← match (allowed.toList.dropWhile (· ≠ c)) with
            | [] => fail ("Illegal option -" ++ String.singleton c)
            | _ :: ':' :: _ => pure true
            | _ => pure false
          if takesValue then
            let (value, rest) ← match cs, rest with
              | [], [] => fail ("No arg for -" ++ String.singleton c ++ " option")
              | [], v :: rest => pure (v, rest)
              | cs, rest => pure (String.ofList cs, rest)
            let (later, rest) ← takeOptions allowed n rest
            return ((c, value) :: later, rest)
          else
            let rest := if cs.isEmpty then rest else String.ofList ('-' :: cs) :: rest
            let (later, rest) ← takeOptions allowed n rest
            return ((c, "") :: later, rest)
        | _ => return ([], arguments)

/-- Takes the options off the front of arguments. -/
def options (allowed : String) (arguments : List String) :
    Action (List (Char × String) × List String) :=
  takeOptions allowed (arguments.foldl (fun n a => n + a.length + 1) 1) arguments

/-- The number that an argument writes. -/
def numberOf (s : String) : Action Nat :=
  match natural? s with
  | some n => return n
  | none => fail ("Illegal number: " ++ s)

/-- A text in single quotes, with its single quotes in double ones. -/
def singleQuoted (s : String) : String :=
  let rec go (n : Nat) (cs : List Char) : String :=
    match n with
    | 0 => ""
    | n + 1 =>
      let plain := cs.takeWhile (· ≠ '\'')
      let rest := cs.drop plain.length
      let quotes := rest.takeWhile (· == '\'')
      let front := "'" ++ String.ofList plain ++ "'"
      if quotes.isEmpty then front
      else
        let front := front ++ "\"" ++ String.ofList quotes ++ "\""
        match rest.drop quotes.length with
        | [] => front
        | rest => front ++ go n rest
  go (s.length + 1) s.toList

/-! ## Options of the shell -/

/-- The options, by letter and name. -/
def optionNames : List (Option Char × String) := [(some 'e', "errexit"), (some 'f', "noglob"),
  (some 'I', "ignoreeof"), (some 'i', "interactive"), (some 'm', "monitor"), (some 'n', "noexec"),
  (some 's', "stdin"), (some 'x', "xtrace"), (some 'v', "verbose"), (some 'V', "vi"),
  (some 'E', "emacs"), (some 'C', "noclobber"), (some 'a', "allexport"), (some 'b', "notify"),
  (some 'u', "nounset"), (some 'p', "privileged"), (none, "nolog"), (none, "debug")]

/-- Sets an option, or takes it back. -/
def setOption (c : Char) (value : Bool) : Action Unit := do
  if !optionNames.any (·.1 == some c) then fail ("Illegal option -" ++ String.singleton c)
  if c = 'm' ∧ value then complain "can't access tty; job control turned off"
  else modify fun s =>
    let others := s.options.filter (· ≠ c)
    { s with options := if value then c :: others else others }

/-- Sets an option by its name. -/
def setNamedOption (name : String) (value : Bool) : Action Unit := do
  match optionNames.find? (·.2 == name) with
  | none => fail ("Illegal option -o " ++ name)
  | some (some c, _) => setOption c value
  | some (none, _) => return

/-- What is listed of all options. -/
def listedOptions (asCommands : Bool) : Action String := do
  let set := (← get).options
  let isSet (c : Option Char) := c.any set.contains
  if asCommands then
    return String.join (optionNames.map fun (c, name) =>
      "set " ++ (if isSet c then "-" else "+") ++ "o " ++ name ++ "\n")
  else
    return "Current option settings\n" ++ String.join (optionNames.map fun (c, name) =>
      name ++ String.ofList (List.replicate (16 - name.length) ' ') ++
        (if isSet c then "on" else "off") ++ "\n")

/-- What words that set options leave. -/
structure OptionWords where
  rest : List String
  /-- Whether options may follow. -/
  goesOn : Bool := false
  /-- Whether a word said that what follows are arguments, though none may follow. -/
  endsOptions : Bool := false
  /-- Whether the script is the next argument. -/
  hasScript : Bool := false

/-- Sets the options of the letters in a word, of which some take the words behind it. `atStart`
holds for the words that a shell is called with. -/
def setLetters (atStart value : Bool) (letters : List Char) (rest : List String) :
    Action OptionWords := do
  let mut words : OptionWords := { rest, goesOn := true }
  for c in letters do
    if c = 'c' ∧ atStart then words := { words with hasScript := true }
    else if c = 'l' ∧ atStart then words := words
    else if c = 'o' then
      match words.rest with
      | [] =>
        let _ ← write 1 (← listedOptions !value)
      | name :: rest =>
        setNamedOption name value
        words := { words with rest }
    else setOption c value
  return words

/-- Sets the options that the first of some words asks for. -/
def setOptionWord (atStart : Bool) (words : List String) : Action OptionWords := do
  match words with
  | [] => return { rest := [] }
  | a :: rest =>
    match a.toList with
    | ['-'] =>
      if !atStart then
        modify fun s => { s with options := s.options.filter fun c => c != 'x' && c != 'v' }
      return { rest }
    | ['-', '-'] => return { rest, endsOptions := true }
    | '-' :: cs => setLetters atStart true cs rest
    | '+' :: cs => setLetters atStart false cs rest
    | _ => return { rest := words }

/-- Sets the options that words ask for, of which at most `n` are read. -/
def setOptions (atStart : Bool) : Nat → List String → Action OptionWords
  | 0, rest => return { rest }
  | n + 1, rest => do
    let first ← setOptionWord atStart rest
    if first.goesOn then
      let later ← setOptions atStart n first.rest
      return { later with hasScript := first.hasScript || later.hasScript }
    else return first

end TestFleet.Shell.Action
