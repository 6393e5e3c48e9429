import TestFleet.Shell.Builtin
import TestFleet.Shell.Redirection

/-!
# Children

A shell does much in children: processes that begin as copies of it, and whose changes to variables
and streams are lost when they end. What they do to files and write to streams stays.
-/

namespace TestFleet.Shell.Action

/-- How a process ended: with a code, or by a signal. -/
inductive Ending where
  | code (n : Nat)
  | signal (n : Nat)

/-- The code that an ending stands for. -/
def Ending.status : Ending → Nat
  | .code n => n
  | .signal n => 128 + n

/-- Does something in a child, which ends with the code of the result. The parent waits for it, or
goes on meanwhile. -/
def inChild (waits : Bool) (a : Action Nat) : Action Ending := do
  let outer ← get
  let w := outer.world
  let process := w.nextProcess
  let (living, others) := if waits then (outer.process :: w.living, w.others)
    else ([], outer.process :: (w.living ++ w.others))
  set { outer with
    world := { w with nextProcess := process + 1, living, others }
    process
    jobs := []
    traps := outer.traps.filter (·.2 == "") }
  let result ← outcome a
  modify fun s => { outer with world := { s.world with living := w.living, others := w.others } }
  match result with
  | .ok n => return .code (n % 256)
  | .error (.killed p signal) =>
    if p = process then return .signal signal else throw (.killed p signal)
  | .error _ => return .code 2

/-- Does something in a child, and takes over the code that it ends with. -/
def awaitChild (a : Action Nat) : Action Unit := do
  let ending ← inChild true a
  if let .signal n := ending then tellSignal n
  leaveStatus ending.status

/-- Starts a child that the shell does not wait for. -/
def startChild (a : Action Nat) : Action Unit := do
  let before := (← world).now
  let process := (← world).nextProcess
  changeWorld fun w => { w with now := before + 1 }
  let null ← openChannel (.device .null)
  let ending ← inChild false do
    connect 0 (some null)
    a
  let signal := match ending with
    | .signal n => some n
    | .code _ => none
  let job : Job := { process, ends := (← world).now, status := ending.status, signal }
  changeWorld fun w => { w with now := before }
  modify fun s => { s with jobs := s.jobs ++ [job], lastJob := some process, status := 0 }

/-- How many bytes a command writes for one that does not read them before it gives up. -/
def pipeLimit : Nat := 1048576

/-- How a round through a loop ended. -/
inductive Round where
  | through
  /-- It was left for the next one. -/
  | again
  | over
  deriving DecidableEq

/-- Does a part of a loop that is one of so many around one another. -/
def round (loops : Nat) (a : Action Unit) : Action Round := do
  match ← outcome a with
  | .ok _ => return .through
  | .error (.loop levels again) =>
    modify fun s => { s with loops }
    if 1 < levels then throw (.loop (levels - 1) again)
    return if again then .again else .over
  | .error e => throw e

/-- Does something inside one more loop. -/
def insideLoop (a : Nat → Action Unit) : Action Unit := do
  let loops := (← get).loops
  modify fun s => { s with loops := loops + 1 }
  let result ← outcome (a (loops + 1))
  modify fun s => { s with loops }
  if let .error e := result then throw e

/-- Does something with variables of its own. -/
def withFrame (a : Action Unit) : Action Unit := do
  modify fun s => { s with frames := {} :: s.frames }
  let result ← outcome a
  modify fun s =>
    match s.frames with
    | [] => s
    | f :: frames => { s with
        frames
        options := f.options.getD s.options
        bindings := f.locals.foldl (fun b (name, outside) =>
          match outside with
          | some v => b.insert name v
          | none => b.erase name) s.bindings }
  if let .error e := result then throw e

/-- How deep calls of functions may be nested. -/
def callLimit : Nat := 1000

/-- Calls a function: what its body does to the arguments and loops does not stay. -/
def inFunction (arguments : List String) (body : Action Unit) : Action Unit := do
  let before ← get
  if callLimit < before.frames.length then
    fail ("Maximum function recursion depth (" ++ Text.decimal callLimit ++ ") reached")
  set { before with arguments, loops := 0, optionPlace := 0 }
  let result ← outcome body
  modify fun s => { s with
    arguments := before.arguments, loops := before.loops, optionPlace := before.optionPlace }
  match result with
  | .ok _ | .error .function => return
  | .error e => throw e

/-- Does something as a command of the shell. -/
def named {α : Type} (command : String) (a : Action α) : Action α := do
  let before := (← get).command
  modify fun s => { s with command := some command }
  let result ← outcome a
  modify fun s => { s with command := before }
  match result with
  | .ok v => return v
  | .error e => throw e

/-! ## Programs -/

/-- The directories that programs are looked for in if no variable says where. -/
def standardPath : String := "/usr/local/sbin:/usr/local/bin:/usr/sbin:/usr/bin:/sbin:/bin"

/-- Whether a path leads to a program. -/
def runnable (path : String) : Action (Except SystemFault Unit) := do
  let s ← get
  match s.world.disk.find s.current path with
  | .error fault => return .error fault
  | .ok (_, node) => return if isProgram node then .ok () else .error .denied

/-- Looks for a program in directories. -/
def locateIn (name : String) : List String → SystemFault → Action (Except SystemFault String)
  | [], fault => return .error fault
  | d :: ds, fault => do
    let path := if d = "" then name else d ++ "/" ++ name
    match ← runnable path with
    | .ok _ => return .ok path
    | .error .notFound | .error .notDirectory => locateIn name ds fault
    | .error other => locateIn name ds other

/-- The path of a program of a name, which is looked for along directories unless it is a path. -/
def locate (directories name : String) : Action (Except SystemFault String) := do
  if name.contains '/' then return (← runnable name).map fun _ => name
  else if name = "" then return .error .notFound
  else locateIn name (directories.splitOn ":") .notFound

/-- The code of a shell that cannot start a program. -/
def faultStatus (fault : SystemFault) : Nat :=
  if fault = .notFound ∨ fault = .notDirectory ∨ fault = .nameTooLong then 127 else 126

/-- What is said of a program that cannot be started. -/
def faultMessage (fault : SystemFault) : String :=
  if fault = .notFound ∨ fault = .notDirectory then "not found" else fault.message

/-- The greatest length of an argument. -/
def argumentLimit : Nat := 131072

end TestFleet.Shell.Action
