import TestFleet.Shell.Expansion

/-!
# Redirections

A redirection lets a stream lead to a file, to where another stream leads, or to a document. The
words in it are expanded before any stream of the command is touched.
-/

namespace TestFleet.Shell

/-- A redirection whose words are expanded. -/
inductive Target where
  | file (stream : Nat) (opening : Opening) (path : String)
  /-- To where another stream leads, or to nowhere. -/
  | copy (stream : Nat) (source : Option Nat)
  | document (stream : Nat) (text : Word)

namespace Action

/-- Expands the words of a redirection. -/
def target (output : Option Command → Action String) : Redirection → Action Target
  | .file stream opening path => return .file stream opening (← expanded output false path)
  | .copy stream source => do
    let text := (← fields output source).headD ""
    match text.toList with
    | ['-'] => return .copy stream none
    | [c] => if c.isDigit then return .copy stream (some (c.toNat - 48)) else bad
    | _ => bad
  | .document stream number => do
    let documents := (← get).documents
    return .document stream ((documents.find? (·.number == number)).elim [] (·.text))
where
  bad : Action Target := fail "Syntax error: Bad fd number"

/-- The stream that a path stands for. -/
def streamOf? (path : String) : Option Nat :=
  match path with
  | "/dev/stdin" => some 0
  | "/dev/stdout" => some 1
  | "/dev/stderr" => some 2
  | _ =>
    if path.startsWith "/dev/fd/" then natural? (path.drop 8).toString
    else if path.startsWith "/proc/self/fd/" then natural? (path.drop 14).toString
    else none

/-- Opens what is at a path, or makes it: the place that a stream may lead to. -/
def openAt (path : String) (node : Option Node) (opening : Opening) :
    Action (Except SystemFault Channel) := do
  let keeps ← hasOption 'C'
  match node with
  | some (.device .terminal) => return .error .noDevice
  | some (.device d) => return .ok (.device d)
  | some .directory =>
    return if opening = .read then .ok (.file path 0 opening) else .error .isDirectory
  | some _ =>
    if opening = .write ∧ keeps then return .error .alreadyThere
    if opening = .write ∨ opening = .clobber then setContent path ""
    return .ok (.file path 0 opening)
  | none =>
    if opening = .read then return .error .notFound
    changeDisk (·.put path (.file "" false))
    return .ok (.file path 0 opening)

/-- Opens a file: the number of its place. -/
def openFile (opening : Opening) (path : String) : Action (Except SystemFault Nat) := do
  let fresh (path : String) : Action (Except SystemFault Nat) := do
    let s ← get
    match s.world.disk.resolve s.current path with
    | .error fault => return .error fault
    | .ok p =>
      match ← openAt p (s.world.disk.at? p) opening with
      | .error fault => return .error fault
      | .ok channel => return .ok (← openChannel channel)
  match streamOf? path with
  | none => fresh path
  | some stream =>
    match ← channel? stream with
    | none => return .error .notFound
    | some (_, .file path _ _) => fresh path
    | some (i, _) => return .ok i

/-- What a script is told of a file that could not be opened. -/
def openingFault (opening : Opening) (path : String) (fault : SystemFault) : String :=
  let missing := fault = .notFound ∨ fault = .notDirectory
  if opening = .read then
    "cannot open " ++ path ++ ": " ++ if missing then "No such file" else fault.message
  else
    "cannot create " ++ path ++ ": " ++ if missing then "Directory nonexistent" else fault.message

/-- Redirects a stream. -/
def redirect (output : Option Command → Action String) : Target → Action Unit
  | .file stream opening path => do
    match ← openFile opening path with
    | .ok i => connect stream (some i)
    | .error fault => fail (openingFault opening path fault)
  | .copy stream none => connect stream none
  | .copy stream (some source) => do
    match ← place? source with
    | some i => connect stream (some i)
    | none => fail (Text.decimal source ++ ": " ++ SystemFault.badStream.message)
  | .document stream text => do
    let cells ← wordCells output nestingLimit { isQuoted := true } text
    let i ← openChannel (.source (Cell.text cells))
    connect stream (some i)

/-- Redirects streams, the first one first; whether nothing was wrong. -/
def redirectAll (output : Option Command → Action String) (targets : List Target) :
    Action Bool := do
  match ← outcome (targets.forM (redirect output)) with
  | .ok _ => return true
  | .error .fault => return false
  | .error e => throw e

/-- Does something, and then lets streams lead again to where they led before. -/
def keepingStreams {α : Type} (a : Action α) : Action α := do
  let streams := (← get).streams
  let result ← outcome a
  modify fun s => { s with streams }
  match result with
  | .ok v => return v
  | .error e => throw e

end Action

end TestFleet.Shell
