import TestFleet.Shell.Builtin.Options

/-!
# Commands on places and names

The commands of the shell that change the current directory, and those that tell what names stand
for.
-/

namespace TestFleet.Shell.Action

/-! ## Directories -/

/-- The path from the root that a path writes: two dots take back the name before them, whatever
is there. -/
def written (current path : String) : String :=
  let from_ := if path.startsWith "/" then [] else (Disk.names current).reverse
  Disk.ofNames ((Disk.names path).foldl (fun done name =>
    if name = "." then done else if name = ".." then done.tail else name :: done) from_).reverse

/-- Moves to a directory, and tells where if that is asked. The path by which it is known from then
on is the one that was written, unless the links on it are to be resolved. -/
def moveTo (path : String) (resolves tells : Bool) : Action Nat := do
  let s ← get
  let way := if resolves then path else written s.current path
  match s.world.disk.find s.current way with
  | .ok (target, .directory) =>
    let current := if resolves then target else way
    set { s with current, previous := some s.current }
    for (name, value) in [("OLDPWD", s.current), ("PWD", current)] do
      assign name value
      setVariable name { value := some value, isExported := true }
    if tells then let _ ← write 1 (current ++ "\n")
    return 0
  | _ => fail ("can't cd to " ++ path)

/-- The last of the letters that say whether links are resolved. -/
def resolvesLinks (given : List (Char × String)) : Bool := given.getLast?.any (·.1 == 'P')

def cd (arguments : List String) : Action Nat := do
  let (given, words) ← options "LP" arguments
  let move := fun path => moveTo path (resolvesLinks given)
  match words with
  | [] =>
    match ← value? "HOME" with
    | some home => if home = "" then return 0 else move home false
    | none => return 0
  | "-" :: _ => move ((← value? "OLDPWD").getD "") true
  | path :: _ => if path = "" then return 0 else move path false

def pwd (arguments : List String) : Action Nat := do
  let (given, _) ← options "LP" arguments
  let current := (← get).current
  let here ← if resolvesLinks given then place else pure current
  let _ ← write 1 (here ++ "\n")
  return 0

/-- A number in octal digits, with zeros in front of fewer than four. -/
def octal (n : Nat) : String :=
  let ds := Nat.toDigits 8 n
  String.ofList (List.replicate (4 - ds.length) '0' ++ ds)

/-- The permissions that a mask leaves. -/
def permissions (mask : Nat) : String :=
  let part (who : String) (shift : Nat) : String :=
    let bits := 7 - (mask >>> shift) % 8
    who ++ "=" ++ (if 4 ≤ bits then "r" else "") ++ (if 2 ≤ bits % 4 then "w" else "") ++
      (if bits % 2 = 1 then "x" else "")
  ",".intercalate [part "u" 6, part "g" 3, part "o" 0]

/-- The permissions left when a clause such as `u=rw` or `go-w` changes them. -/
def changePermissions (permissions : Nat) (clause : String) : Option Nat :=
  let cs := clause.toList
  let who := cs.takeWhile fun c => "ugoa".toList.contains c
  let isFor (c : Char) : Bool := who.isEmpty || who.contains c || who.contains 'a'
  let places := (if isFor 'u' then 64 else 0) + (if isFor 'g' then 8 else 0) +
    (if isFor 'o' then 1 else 0)
  match cs.drop who.length with
  | sign :: what =>
    if what.all "rwx".toList.contains then
      let bits := (if what.contains 'r' then 4 else 0) + (if what.contains 'w' then 2 else 0) +
        (if what.contains 'x' then 1 else 0)
      let meant := places * bits
      let others := permissions - (permissions &&& (places * 7))
      if sign = '=' then some (others + meant)
      else if sign = '+' then some (permissions ||| meant)
      else if sign = '-' then some (permissions - (permissions &&& meant))
      else none
    else none
  | [] => none

def umask (arguments : List String) : Action Nat := do
  let (given, words) ← options "S" arguments
  let mask := (← get).mask
  match words with
  | [] =>
    let _ ← write 1 ((if given.isEmpty then octal mask else permissions mask) ++ "\n")
  | w :: _ =>
    if w.toList.head?.any Char.isDigit then
      let (n, rest) := digits 8 0 w.toList
      if !rest.isEmpty then fail ("Illegal number: " ++ w)
      modify fun s => { s with mask := n % 512 }
    else
      match (w.splitOn ",").foldlM changePermissions (511 - mask) with
      | some n => modify fun s => { s with mask := 511 - n }
      | none => fail ("Illegal mode: " ++ w)
  return 0

/-! ## Names -/

/-- Lists a text that is put in the place of a word. -/
def listAlias (name text : String) : Action Unit := do
  let _ ← write 1 (name ++ "=" ++ singleQuoted text ++ "\n")

def alias_ (arguments : List String) : Action Nat := do
  let mut status := 0
  if arguments.isEmpty then
    for (name, text) in (← get).aliases.entries do
      listAlias name text
  for a in arguments do
    match (a.drop 1).toString.splitOn "=" with
    | front :: _ :: _ =>
      let name := (a.take (front.length + 1)).toString
      let text := (a.drop (front.length + 2)).toString
      modify fun s => { s with aliases := s.aliases.insert name text }
    | _ =>
      match (← get).aliases.get? a with
      | some text => listAlias a text
      | none =>
        let _ ← write 2 ("alias: " ++ a ++ " not found\n")
        status := 1
  return status

def unalias (arguments : List String) : Action Nat := do
  let (given, names) ← options "a" arguments
  if !given.isEmpty then
    modify fun s => { s with aliases := ∅ }
    return 0
  else
    let mut status := 0
    for name in names do
      if (← get).aliases.contains name then
        modify fun s => { s with aliases := s.aliases.erase name }
      else
        let _ ← write 2 ("unalias: " ++ name ++ " not found\n")
        status := 1
    return status

/-- The directories that programs are looked for in. -/
def searchPath : Action (List String) := do
  return ((← value? "PATH").getD "").splitOn ":"

/-- Whether what a path leads to can be run. -/
def isProgram : Node → Bool
  | .program _ => true
  | .file _ isExecutable => isExecutable
  | _ => false

/-- The path of the program of a name, along the directories that are searched. -/
def programPath? (name : String) : Action (Option String) := do
  let s ← get
  let found := (← searchPath).filterMap fun directory =>
    let path := if directory = "" then name else directory ++ "/" ++ name
    match s.world.disk.find s.current path with
    | .ok (_, node) => if isProgram node then some path else none
    | .error _ => none
  return found.head?

/-- The words that are reserved. -/
def keywords : List String := ["!", "case", "do", "done", "elif", "else", "esac", "fi", "for", "if",
  "in", "then", "until", "while", "\x7b", "\x7d"]

/-- Tells what a name stands for, in a sentence or as it would be called; `isSpecial?` knows the
commands of the shell, and which of them are special. -/
def describe (isSpecial? : String → Option Bool) (sentence : Bool) (name : String) :
    Action Nat := do
  let s ← get
  let tell (what called : String) : Action Nat := do
    let _ ← write 1 ((if sentence then name ++ what else called) ++ "\n")
    return 0
  if keywords.contains name then tell " is a shell keyword" name
  else match s.aliases.get? name with
  | some text =>
    tell (" is an alias for " ++ text) ("alias " ++ name ++ "=" ++ singleQuoted text)
  | none =>
    if s.functions.contains name then tell " is a shell function" name
    else match isSpecial? name with
    | some true => tell " is a special shell builtin" name
    | some false => tell " is a shell builtin" name
    | none =>
      let path ← if name.contains '/' then
          pure (match s.world.disk.find s.current name with
            | .ok (_, node) => if isProgram node then some name else none
            | .error _ => none)
        else programPath? name
      match path with
      | some path => tell (" is " ++ path) path
      | none =>
        if sentence then let _ ← write 1 (name ++ ": not found\n")
        return 127

def hash (arguments : List String) : Action Nat := do
  let (_, names) ← options "rv" arguments
  let mut status := 0
  for name in names do
    if !name.contains '/' ∧ (← programPath? name).isNone then
      complain (name ++ ": not found")
      status := 1
  return status

end TestFleet.Shell.Action
