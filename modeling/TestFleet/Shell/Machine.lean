import TestFleet.Process.Call
import TestFleet.Shell.Evaluation
import TestFleet.Text.Path

/-!
# A machine

A host that has a shell and the programs of a small system. Its processes see nothing of the world
but what a call gives them: they have nothing to read, their output is dropped, and what they write
to their standard error is kept.

* `machine`: answers calls;
* `isThere`: tells which paths lead to something.
-/

namespace TestFleet.Shell

/-- The names of all programs. -/
def programs : List String :=
  ["bash", "dash", "env", "nice", "nohup", "sh", "timeout", "xargs"] ++ Utility.names

/-- The variables that every process of the machine gets. -/
def commonVariables : List (String × String) :=
  [("HOME", "/root"), ("PATH", Action.standardPath)]

/-- The variables of a call, as the bytes that a process gets. A name may hold an equals sign, but
for a process the first one ends the name. -/
def variablesOf (environment : Directory String String) : List (String × String) :=
  (environment.entries.foldl (fun d v => d.insert v.1 v.2)
    (Directory.ofList commonVariables)).entries.map fun (name, value) =>
      let cs := (encoded name).toList
      match cs.dropWhile (· ≠ '=') with
      | [] => (encoded name, encoded value)
      | _ :: rest => (String.ofList (cs.takeWhile (· ≠ '=')),
          String.ofList rest ++ "=" ++ encoded value)

/-- A bound on the steps of a process. -/
def stepLimit : Nat := 10000000

/-- What the machine has on its disk. -/
def disk : Disk := { programs }

/-- Whether a path leads to something on the machine's disk, if it begins at the root or is taken
from there. No path holds a zero byte. -/
def isThere (path : FilePath) : Bool :=
  !path.text.contains '\x00' && (disk.find "/" (encoded path.text)).isOk

/-- The process that a call asks for, before it is started. -/
def firstState (environment : List (String × String)) : State :=
  let world : World := {
    disk
    channels := #[.device .null, .sink [] 0 none] }
  { world
    bindings := Directory.ofList (environment.map fun (name, value) =>
      (name, { value := some value, isExported := true }))
    name := ""
    streams := [(0, 0), (1, 0), (2, 1)]
    process := 1 }

/-- Says why the system does not start a process. -/
def refusal (fault : SystemFault) : String :=
  fault.message ++ " (os error " ++ Text.decimal fault.number ++ ")"

/-- Answers calls by what its processes do. -/
def machine : Machine := fun c =>
  let words := c.program :: c.arguments
  let environment := c.environment.entries
  let texts := words ++ environment.flatMap fun (name, value) => [name, value]
  if texts.any (·.contains '\x00') then .error "nul byte found in provided data"
  else
    let environment := variablesOf c.environment
    let arguments := words.map encoded
    let lengths := arguments.map String.length ++
      environment.map fun (name, value) => name.length + value.length + 1
    let start : Action (Except SystemFault String) :=
      Action.locate ((environment.lookup "PATH").getD "") (encoded c.program)
    match start (firstState environment) with
    | .error _ _ => .error (refusal .notFound)
    | .ok (.error fault) _ => .error (refusal fault)
    | .ok (.ok path) s =>
      if lengths.any (Action.argumentLimit ≤ ·) then .error (refusal .argumentsTooLong)
      else
        let (status, s) := match Action.execute stepLimit path arguments s with
          | .ok code s => (ExitStatus.exited (code % 256), s)
          | .error (.killed ..) s => (.killed, s)
          | .error _ s => (.exited (s.status % 256), s)
        let errors := match Action.collected 1 s with
          | .ok text _ => bytes text
          | .error _ _ => []
        .ok ⟨status, errors, .ofNanos s.world.now⟩

end TestFleet.Shell
