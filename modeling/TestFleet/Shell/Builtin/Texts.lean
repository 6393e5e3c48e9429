import TestFleet.Shell.Builtin.Options
import TestFleet.Shell.Condition
import TestFleet.Shell.Format

/-!
# Commands on texts

The commands of the shell that write texts, and the one that decides conditions.
-/

namespace TestFleet.Shell.Action

/-- Writes what a command of the shell has to say, and complains if that cannot be written. -/
def say (s : String) : Action Nat := do
  match ← write 1 s with
  | none => return 0
  | some _ =>
    complain ((← get).command.getD "" ++ ": I/O error")
    return 1

def echo (arguments : List String) : Action Nat := say (echoed arguments)

def printf (arguments : List String) : Action Nat := do
  let (_, words) ← options "" arguments
  match words with
  | [] => fail "usage: printf format [arg ...]"
  | format :: words =>
    let (text, complaints, fatal) := printed format words
    for c in complaints do
      complain c
    let status ← say text
    match fatal with
    | some what => fail what
    | none => return if complaints.isEmpty then status else 1

/-- What conditions ask about files. -/
def questions : Action Condition.Questions := do
  let s ← get
  let find (path : String) := s.world.disk.find s.current path
  return {
    holds := fun question path =>
      match find path with
      | .error _ => false
      | .ok (_, node) =>
        match question with
        | "-e" | "-r" | "-w" | "-O" | "-G" => true
        | "-f" => (node matches .file ..) || (node matches .program _)
        | "-d" => node == .directory
        | "-c" => (node matches .device _)
        | "-s" =>
          match node with
          | .file content _ => content != ""
          | .device _ => false
          | _ => true
        | "-x" =>
          match node with
          | .directory | .program _ => true
          | .file _ isExecutable => isExecutable
          | .device _ => false
        | _ => false
    isSame := fun a b =>
      match find a, find b with
      | .ok (p, _), .ok (q, _) => p == q
      | _, _ => false }

/-- Decides a condition. -/
def decide (words : List String) : Action Nat := do
  match Condition.holds (← questions) words with
  | .ok holds => return if holds then 0 else 1
  | .error fault => fail fault.message

def bracket (words : List String) : Action Nat := do
  if !words.getLast?.any (·.startsWith "]") then fail "missing ]"
  decide words.dropLast

end TestFleet.Shell.Action
