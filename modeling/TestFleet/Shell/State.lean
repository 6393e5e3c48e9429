import TestFleet.Shell.Disk
import TestFleet.Shell.Syntax

/-!
# Processes at work

What a shell knows while it runs a script. Some of it is its own, such as its variables; some it
shares with every other process, such as the files and the places that streams lead to. Time passes
only where a process waits. What is written is kept with its time, since processes may write to one
place while they wait for one another.
-/

namespace TestFleet.Shell

/-! ## What is shared -/

/-- What a process wrote, and when. -/
structure Written where
  time : Nat
  process : Nat
  text : String

/-- Where a stream leads to. -/
inductive Channel where
  /-- What is left to be read of a text. -/
  | source (rest : String)
  /-- Keeps what is written, the last first. A reader may leave when it has got so many bytes. -/
  | sink (written : List Written) (size : Nat) (limit : Option Nat)
  | file (path : String) (position : Nat) (opening : Opening)
  | device (d : Device)

/-- A process that runs while others do not wait for it. -/
structure Job where
  process : Nat
  /-- When it ends. -/
  ends : Nat
  status : Nat
  /-- The signal that ends it, if one does. -/
  signal : Option Nat := none
  deriving DecidableEq, Repr

/-- What all processes share. -/
structure World where
  disk : Disk
  channels : Array Channel
  /-- The time. -/
  now : Nat := 0
  nextProcess : Nat := 2
  /-- The processes that wait for one another, the innermost first. -/
  living : List Nat := []
  /-- The processes that go on meanwhile. -/
  others : List Nat := []
  /-- The signals that processes trap. -/
  trapped : List (Nat × Nat) := []
  /-- The times, processes and numbers of signals that are still to be dealt with. -/
  pending : List (Nat × Nat × Nat) := []

/-! ## What is a shell's own -/

structure Variable where
  value : Option String
  isExported : Bool := false
  isReadonly : Bool := false
  deriving DecidableEq, Repr

/-- A function. -/
structure Definition where
  line : Nat
  body : Command

/-- What a function is given, and what it gives back. -/
structure Frame where
  /-- The variables of its own, with what they were outside. -/
  locals : List (String × Option Variable) := []
  /-- The options outside, if it has its own. -/
  options : Option (List Char) := none

/-- A shell at work. -/
structure State where
  world : World
  bindings : Directory String Variable := ∅
  functions : Directory String Definition := ∅
  aliases : Directory String String := ∅
  documents : List Document := []
  nextDocument : Nat := 0
  /-- The letters of the options that are set. -/
  options : List Char := []
  /-- The name it complains under. -/
  name : String
  arguments : List String := []
  /-- The code of the last command. -/
  status : Nat := 0
  /-- The code of the last output that was put into a word. -/
  outputStatus : Nat := 0
  current : String := "/"
  previous : Option String := none
  /-- Where the streams lead to. -/
  streams : List (Nat × Nat) := []
  /-- What is done on signals, and on the end as number zero. -/
  traps : List (Nat × String) := []
  /-- The permissions that new files do not get. -/
  mask : Nat := 18
  jobs : List Job := []
  lastJob : Option Nat := none
  /-- The number of the process. -/
  process : Nat := 1
  /-- The number of the process that runs the script as a whole. -/
  root : Nat := 1
  /-- The line of the command at work. -/
  line : Nat := 1
  /-- The command of the shell at work. -/
  command : Option String := none
  /-- How many loops are around the command. -/
  loops : Nat := 0
  frames : List Frame := []
  /-- Where the options of a list of arguments were last looked for. -/
  optionPlace : Nat := 0

/-- Why a shell does not go on to the next command. -/
inductive Leave where
  /-- A loop is left, and those around it; the last one may be gone through again. -/
  | loop (levels : Nat) (again : Bool)
  | function
  /-- The shell ends, with a code if one is given. -/
  | shell (code : Option Nat)
  /-- An error that a script does not outlive. -/
  | fault
  /-- A signal ended a process, this one or one that waits for it. -/
  | killed (process signal : Nat)
  deriving DecidableEq, Repr

/-- What a shell does. -/
abbrev Action := EStateM Leave State

namespace Action

def world : Action World := return (← get).world

def changeWorld (f : World → World) : Action Unit := modify fun s => { s with world := f s.world }

def changeDisk (f : Disk → Disk) : Action Unit :=
  changeWorld fun w => { w with disk := f w.disk }

/-- The path of the current directory with all links on it resolved. -/
def place : Action String := do
  let s ← get
  return (s.world.disk.resolve s.current ".").toOption.getD s.current

/-- Sets the code of the last command. -/
def leaveStatus (code : Nat) : Action Unit := modify fun s => { s with status := code }

/-- Whether the option of a letter is set. -/
def hasOption (c : Char) : Action Bool := return (← get).options.contains c

/-- Catches what an action is left for. -/
def outcome {α : Type} (a : Action α) : Action (Except Leave α) := fun s =>
  match a s with
  | .ok v s => .ok (.ok v) s
  | .error e s => .ok (.error e) s

/-! ### Streams -/

/-- Adds a place that streams may lead to. -/
def openChannel (c : Channel) : Action Nat := do
  let i := (← world).channels.size
  changeWorld fun w => { w with channels := w.channels.push c }
  return i

/-- The number of the place that a stream leads to. -/
def place? (stream : Nat) : Action (Option Nat) := return (← get).streams.lookup stream

/-- The place that a stream leads to. -/
def channel? (stream : Nat) : Action (Option (Nat × Channel)) := do
  match ← place? stream with
  | none => return none
  | some i => return (← world).channels[i]?.map (i, ·)

def setChannel (i : Nat) (c : Channel) : Action Unit :=
  changeWorld fun w => { w with channels := w.channels.setIfInBounds i c }

/-- Lets a stream lead to a place, or to none. -/
def connect (stream : Nat) (place : Option Nat) : Action Unit := modify fun s =>
  let others := s.streams.filter (·.1 ≠ stream)
  { s with streams := match place with
      | none => others
      | some i => (stream, i) :: others }

/-- The content of a file. -/
def content (path : String) : Action String := do
  match (← world).disk.at? path with
  | some (.file s _) => return s
  | _ => return ""

/-- Replaces the content of a file. -/
def setContent (path content : String) : Action Unit := do
  let isExecutable := match (← world).disk.at? path with
    | some (.file _ isExecutable) => isExecutable
    | _ => false
  changeDisk (·.put path (.file content isExecutable))

/-- A text with another one written over it from a position on. -/
def overwrite (old new : String) (position : Nat) : String :=
  let cs := old.toList
  let gap := List.replicate (position - cs.length) '\x00'
  String.ofList (cs.take position ++ gap ++ new.toList ++ cs.drop (position + new.length))

/-- Writes to a stream; what was wrong, if it could not be. -/
def write (stream : Nat) (s : String) : Action (Option SystemFault) := do
  match ← channel? stream with
  | none => return some .badStream
  | some (_, .source _) => return some .badStream
  | some (_, .device .full) => return if s = "" then none else some .noSpace
  | some (_, .device _) => return none
  | some (i, .sink written size limit) =>
    if s = "" then return none
    else if limit.any (· ≤ size) then throw (.killed (← get).process 13)
    else
      let w : Written := ⟨(← world).now, (← get).process, s⟩
      setChannel i (.sink (w :: written) (size + s.length) limit)
      return none
  | some (i, .file path position opening) =>
    if opening = .read then return some .badStream
    else
      let old ← content path
      let position := if opening = .append then old.length else position
      setContent path (if position = old.length then old ++ s else overwrite old s position)
      setChannel i (.file path (position + s.length) opening)
      return none

/-- All that is left to read from a stream. -/
def readAll (stream : Nat) : Action (Except SystemFault String) := do
  match ← channel? stream with
  | none => return .error .badStream
  | some (i, .source rest) =>
    setChannel i (.source "")
    return .ok rest
  | some (_, .sink ..) => return .error .badStream
  | some (_, .device .null) => return .ok ""
  | some (_, .device _) => return .ok (String.ofList (List.replicate 1048576 '\x00'))
  | some (i, .file path position opening) =>
    if opening = .write ∨ opening = .append ∨ opening = .clobber then return .error .badStream
    else if (← world).disk.at? path = some .directory then return .error .isDirectory
    else
      let s ← content path
      setChannel i (.file path s.length opening)
      return .ok (s.drop position).toString

/-- Takes back what was read too much from a stream. -/
def unread (stream : Nat) (s : String) : Action Unit := do
  match ← channel? stream with
  | some (i, .source rest) => setChannel i (.source (s ++ rest))
  | some (i, .file path position opening) =>
    setChannel i (.file path (position - s.length) opening)
  | _ => return

/-- What was written to a place, in the order of its times. -/
def collected (i : Nat) : Action String := do
  match (← world).channels[i]? with
  | some (.sink written _ _) =>
    let inOrder := written.reverse.mergeSort fun a b => a.time ≤ b.time
    return String.join (inOrder.map (·.text))
  | _ => return ""

/-! ### Complaints -/

/-- Complains, under the name of the shell and the line at work. -/
def complainAs (command : Option String) (what : String) : Action Unit := do
  let s ← get
  let front := s.name ++ ": " ++ Text.decimal s.line ++ ": "
  let named := match command with
    | none => ""
    | some c => c ++ ": "
  let _ ← write 2 (front ++ named ++ what ++ "\n")

/-- Complains of what the command at work found wrong. -/
def complain (what : String) : Action Unit := do complainAs (← get).command what

/-- Complains of what a script does not outlive. -/
def fail {α : Type} (what : String) : Action α := do
  complain what
  leaveStatus 2
  throw .fault

/-! ### Variables -/

/-- A variable. -/
def binding? (name : String) : Action (Option Variable) := return (← get).bindings.get? name

/-- The value of a variable. -/
def value? (name : String) : Action (Option String) := do
  return (← binding? name) >>= Variable.value

/-- Changes what is known of a variable. -/
def setVariable (name : String) (v : Variable) : Action Unit :=
  modify fun s => { s with bindings := s.bindings.insert name v }

/-- Gives a variable a value. -/
def assign (name value : String) : Action Unit := do
  let old := (← binding? name).getD { value := none }
  if old.isReadonly then fail (name ++ ": is read only")
  let all ← hasOption 'a'
  setVariable name { old with value := some value, isExported := old.isExported || all }
  if name = "OPTIND" then modify fun s => { s with optionPlace := 0 }

/-- Removes a variable. -/
def unset (name : String) : Action Unit := do
  match ← binding? name with
  | some v =>
    if v.isReadonly then fail (name ++ ": is read only")
    modify fun s => { s with bindings := s.bindings.erase name }
  | none => return

/-- The variables that programs get. -/
def exported : Action (List (String × String)) := do
  return (← get).bindings.entries.filterMap fun (name, v) =>
    if v.isExported then v.value.map (name, ·) else none

/-- The characters that fields are cut at. -/
def separators : Action String := return (← value? "IFS").getD " \t\n"

end Action

end TestFleet.Shell
