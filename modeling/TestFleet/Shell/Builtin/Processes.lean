import TestFleet.Shell.Builtin.Options
import TestFleet.Shell.Signal

/-!
# Commands on processes

The commands of the shell that send and trap signals, and those that wait for what was started.
-/

namespace TestFleet.Shell.Action

/-- How `kill` is to be called. -/
def killUsage : String :=
  "Usage: kill [-s sigspec | -signum | -sigspec] [pid | job]... or\nkill -l [exitstatus]"

/-- The process of a job that a text names. -/
def jobNamed (s : String) : Action Job := do
  let jobs := (← get).jobs
  let found := match natural? (s.drop 1).toString with
    | some (n + 1) => jobs[n]?
    | _ => if s = "%" ∨ s = "%%" ∨ s = "%+" then jobs.getLast? else none
  match found with
  | some j => return j
  | none =>
    if natural? (s.drop 1).toString |>.isNone then fail "No current job"
    else fail ("No such job: " ++ s)

/-- Sends a signal to each process that a word names, and counts those that are not there. -/
def killAll (signal : Nat) (words : List String) : Action Nat := do
  let mut status := 0
  let root := (← get).root
  for w in words do
    let found ← if w.startsWith "%" then
        -- A job without a terminal is no group of processes.
        let _ ← jobNamed w
        pure false
      else do
        let process ← numberOf (if w.startsWith "-" then (w.drop 1).toString else w)
        send signal (if process = 0 then root else process)
    if !found then
      complain "No such process\n"
      status := 1
  return status

/-- The names of signals, or the one that ended a command with a code. -/
def listSignals (codes : List String) : Action Nat := do
  match codes with
  | [] =>
    let _ ← write 1 ("0\n" ++ String.join ((Signal.names.drop 1).map (· ++ "\n")))
  | c :: _ =>
    let n ← numberOf c
    let n := if 128 < n then n - 128 else n
    if n = 0 ∨ 64 < n then fail ("invalid signal number or exit status: " ++ c)
    let _ ← write 1 (Signal.name n ++ "\n")
  return 0

def kill (arguments : List String) : Action Nat := do
  match arguments with
  | [] => fail killUsage
  | a :: rest =>
    let direct := if a.startsWith "-" ∧ 1 < a.length then Signal.number? (a.drop 1).toString
      else none
    match direct with
    | some n => if rest.isEmpty then fail killUsage else killAll n rest
    | none =>
      let (given, rest) ← if a.startsWith "-" then options "ls:" arguments
        else pure ([], arguments)
      if given.any (·.1 == 'l') then listSignals rest
      else
        let signal ← match given.getLast? with
          | none => pure 15
          | some (_, name) =>
            match Signal.number? name with
            | some n => pure n
            | none => fail ("invalid signal number or name: " ++ name)
        if rest.isEmpty then fail killUsage else killAll signal rest

/-- Waits until a time has come, or a signal that is trapped: that signal. -/
def waitUntil (time : Nat) : Action (Option Nat) := do
  let s ← get
  let arrived := s.world.pending.find? fun (at_, process, signal) =>
    process == s.process && at_ < time && s.traps.any fun t => t.1 == signal && t.2 != ""
  let time := match arrived with
    | some (at_, _) => at_
    | none => time
  changeWorld fun w => { w with now := max w.now time }
  return arrived.map (·.2.2)

/-- Waits for a job to end: the code that it leaves, or the one of a signal that is trapped. -/
def waitFor (j : Job) : Action Nat := do
  match ← waitUntil j.ends with
  | some signal => return 128 + signal
  | none =>
    if let some signal := j.signal then tellSignal signal
    modify fun s => { s with jobs := s.jobs.map fun k =>
      if k.process = j.process then { k with signal := none } else k }
    return j.status

def wait (arguments : List String) : Action Nat := do
  let (_, names) ← options "" arguments
  if names.isEmpty then
    let ends := ((← get).jobs.map (·.ends)).foldl max 0
    match ← waitUntil ends with
    | some signal => return 128 + signal
    | none =>
      modify fun s => { s with jobs := s.jobs.map fun j => { j with signal := none } }
      return 0
  else
    let mut status := 0
    for name in names do
      let job ← if name.startsWith "%" then some <$> jobNamed name
        else
          let n ← numberOf name
          pure ((← get).jobs.find? (·.process == n))
      status ← match job with
        | none => pure 127
        | some j => waitFor j
    return status

/-- Lists the jobs that have not ended. -/
def jobs (arguments : List String) : Action Nat := do
  let (_, names) ← options "lp" arguments
  for name in names do
    let _ ← jobNamed name
  let s ← get
  for (i, j) in s.jobs.mapIdx fun i j => (i, j) do
    if names.isEmpty ∧ s.world.now < j.ends then
      let mark := if i + 1 = s.jobs.length then "+" else "-"
      let _ ← write 1 ("[" ++ Text.decimal (i + 1) ++ "] " ++ mark ++
        " Running                    \n")
  return 0

/-- A job is moved to the front or back only where there is a terminal. -/
def moveJob (arguments : List String) : Action Nat := do
  let (_, names) ← options "" arguments
  let _ ← jobNamed (names.headD "%%")
  fail "job (null) not created under job control"

def trap (arguments : List String) : Action Nat := do
  let (_, words) ← options "" arguments
  match words with
  | [] =>
    for (n, action) in (← get).traps.mergeSort fun a b => a.1 ≤ b.1 do
      let _ ← write 1 ("trap -- " ++ singleQuoted action ++ " " ++ Signal.name n ++ "\n")
    return 0
  | first :: others =>
    let isReset := others.isEmpty || (Signal.number? first).isSome
    let action := if isReset ∨ first = "-" then none else some first
    for name in if isReset then words else others do
      match Signal.number? name with
      | none =>
        let _ ← write 2 ("trap: " ++ name ++ ": bad trap\n")
        return 1
      | some n =>
        modify fun s =>
          let traps := s.traps.filter (·.1 ≠ n)
          let trapped := s.world.trapped.filter (· ≠ (s.process, n))
          match action with
          | none => { s with traps, world := { s.world with trapped } }
          | some a => { s with
              traps := (n, a) :: traps
              world := { s.world with trapped := (s.process, n) :: trapped } }
    return 0

def times (_ : List String) : Action Nat := do
  let none_ := "0m0.000000s 0m0.000000s\n"
  let _ ← write 1 (none_ ++ none_)
  return 0

def ulimit (arguments : List String) : Action Nat := do
  let (_, words) ← options "HSatfdscmlpnvwr" arguments
  match words with
  | [] => let _ ← write 1 "unlimited\n"
  | w :: _ => if w ≠ "unlimited" ∧ !w.toList.all Char.isDigit then fail "bad number"
  return 0

end TestFleet.Shell.Action
