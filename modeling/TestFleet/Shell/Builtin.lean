import TestFleet.Shell.Builtin.Places
import TestFleet.Shell.Builtin.Processes
import TestFleet.Shell.Builtin.Texts
import TestFleet.Shell.Builtin.Variables

/-!
# The shell's own commands

A shell knows some commands without a program. A few of these are special: what goes wrong in one
ends the script, and variables that are set for one stay set.
-/

namespace TestFleet.Shell.Builtin

/-- The special commands. -/
def special : List String := [".", ":", "break", "continue", "eval", "exec", "exit", "export",
  "local", "readonly", "return", "set", "shift", "times", "trap", "unset"]

/-- The other commands. -/
def usual : List String := ["[", "alias", "bg", "cd", "chdir", "command", "echo", "false", "fg",
  "getopts", "hash", "jobs", "kill", "printf", "pwd", "read", "test", "true", "type", "ulimit",
  "umask", "unalias", "wait"]

/-- Whether a command of the shell is a special one. -/
def isSpecial? (name : String) : Option Bool :=
  if special.contains name then some true
  else if usual.contains name then some false
  else none

/-- The commands whose arguments may be assignments. -/
def declares (name : String) : Bool := ["alias", "export", "local", "readonly"].contains name

/-- Leaves loops: as many as are asked for, if there are so many. -/
def leaveLoops (again : Bool) (arguments : List String) : Action Nat := do
  let n ← match arguments with
    | [] => pure 1
    | a :: _ =>
      let n ← Action.numberOf a
      if n = 0 then Action.fail ("Illegal number: " ++ a) else pure n
  let levels := min n (← get).loops
  if levels = 0 then return 0
  else
    Action.leaveStatus 0
    throw (.loop levels again)

/-- Leaves a function, or the script that is read. -/
def return_ (arguments : List String) : Action Nat := do
  if let a :: _ := arguments then Action.leaveStatus (← Action.numberOf a)
  throw .function

/-- Ends the shell. -/
def exit (arguments : List String) : Action Nat := do
  match arguments with
  | [] => throw (.shell none)
  | a :: _ => throw (.shell (some (← Action.numberOf a)))

/-- What a command does that needs nothing but its arguments. -/
def ordinary? : String → Option (List String → Action Nat)
  | ":" | "true" => some fun _ => return 0
  | "false" => some fun _ => return 1
  | "[" => some Action.bracket
  | "alias" => some Action.alias_
  | "bg" | "fg" => some Action.moveJob
  | "break" => some (leaveLoops false)
  | "cd" | "chdir" => some Action.cd
  | "continue" => some (leaveLoops true)
  | "echo" => some Action.echo
  | "exit" => some exit
  | "export" => some Action.export_
  | "getopts" => some Action.getopts
  | "hash" => some Action.hash
  | "jobs" => some Action.jobs
  | "kill" => some Action.kill
  | "local" => some Action.local_
  | "printf" => some Action.printf
  | "pwd" => some Action.pwd
  | "read" => some Action.read
  | "readonly" => some Action.readonly
  | "return" => some return_
  | "set" => some Action.set_
  | "shift" => some Action.shift
  | "test" => some Action.decide
  | "times" => some Action.times
  | "trap" => some Action.trap
  | "type" => some types
  | "ulimit" => some Action.ulimit
  | "umask" => some Action.umask
  | "unalias" => some Action.unalias
  | "unset" => some Action.unset_
  | "wait" => some Action.wait
  | _ => none
where
  /-- Tells what names stand for. -/
  types (names : List String) : Action Nat := do
    let mut status := 0
    for name in names do
      let found ← Action.describe isSpecial? true name
      if found ≠ 0 then status := found
    return status

/-- Tells what a name stands for, if options ask for that. -/
def described? (arguments : List String) : Action (Option Nat) := do
  let (given, names) ← Action.options "pvV" arguments
  let asks := given.any fun o => o.1 == 'v' || o.1 == 'V'
  match names with
  | name :: _ =>
    if asks then some <$> Action.describe isSpecial? (given.any (·.1 == 'V')) name
    else return none
  | [] => return if asks then some 0 else none

end TestFleet.Shell.Builtin
