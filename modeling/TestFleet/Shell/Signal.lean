import TestFleet.Shell.State

/-!
# Signals

A signal ends the process that it is sent to, unless the process traps it or the signal is one that
harms nobody. A process that traps it goes on, and deals with it between two commands.
-/

namespace TestFleet.Shell

namespace Signal

/-- The signals in the order of their numbers. At number zero stands the end of a shell. -/
def names : List String := ["EXIT", "HUP", "INT", "QUIT", "ILL", "TRAP", "ABRT", "BUS", "FPE",
  "KILL", "USR1", "SEGV", "USR2", "PIPE", "ALRM", "TERM", "STKFLT", "CHLD", "CONT", "STOP", "TSTP",
  "TTIN", "TTOU", "URG", "XCPU", "XFSZ", "VTALRM", "PROF", "WINCH", "IO", "PWR", "SYS"]

/-- What is said of a process that a signal ended. -/
def messages : List String := ["", "Hangup", "Interrupt", "Quit", "Illegal instruction",
  "Trace/breakpoint trap", "Aborted", "Bus error", "Floating point exception", "Killed",
  "User defined signal 1", "Segmentation fault", "User defined signal 2", "Broken pipe",
  "Alarm clock", "Terminated", "Stack fault", "Child exited", "Continued", "Stopped (signal)",
  "Stopped", "Stopped (tty input)", "Stopped (tty output)", "Urgent I/O condition",
  "CPU time limit exceeded", "File size limit exceeded", "Virtual timer expired",
  "Profiling timer expired", "Window changed", "I/O possible", "Power failure", "Bad system call"]

/-- The signals that end nobody. -/
def harmless : List Nat := [17, 18, 19, 20, 21, 22, 23, 28]

/-- The signal that a text names or numbers. -/
def number? (s : String) : Option Nat :=
  match natural? s with
  | some n => if n < 65 then some n else none
  | none => names.idxOf? (String.ofList (s.toList.map Char.toUpper))

/-- The name of a signal. -/
def name (n : Nat) : String := names.getD n (Text.decimal n)

end Signal

namespace Action

/-- Takes back what a process would have written later. -/
def silence (process : Nat) : Action Unit := changeWorld fun w =>
  { w with channels := w.channels.map fun
      | .sink written size limit =>
        .sink (written.filter fun x => !(x.process == process && w.now < x.time)) size limit
      | c => c }

/-- Sends a signal to a process; whether there is one of that number. -/
def send (signal process : Nat) : Action Bool := do
  let s ← get
  let w := s.world
  let wait : Action Bool := do
    changeWorld fun w => { w with pending := w.pending ++ [(w.now, process, signal)] }
    return true
  if s.process = process ∨ w.living.contains process then
    if signal = 0 then return true
    else if signal ≠ 9 ∧ w.trapped.contains (process, signal) then wait
    else if Signal.harmless.contains signal then return true
    else throw (.killed process signal)
  else if w.others.contains process then
    if signal = 0 then return true else wait
  else
    match s.jobs.find? (·.process == process) with
    | none => return false
    | some job =>
      if w.now < job.ends ∧ signal ≠ 0 ∧ !Signal.harmless.contains signal then
        silence process
        let ended : Job := { job with ends := w.now, status := 128 + signal, signal := some signal }
        modify fun s => { s with jobs := s.jobs.map fun j =>
          if j.process = process then ended else j }
      return true

/-- Says which signal ended a process that this one waited for, unless it is one that users send or
that a missing reader does. -/
def tellSignal (signal : Nat) : Action Unit := do
  if signal ≠ 2 ∧ signal ≠ 13 then
    let _ ← write 2 (Signal.messages.getD signal ("Signal " ++ Text.decimal signal) ++ "\n")

end Action

end TestFleet.Shell
