import TestFleet.CommandLine.Execution
import TestFleet.Log.Record
import TestFleet.Server.Running
import TestFleet.Shell.Machine

/-!
# The program

Reads the command line and the files it names, carries it out, and tells the system how it ended. A
queue is served over standard input and output, one request after the other; no other host can be
reached from here.
-/

namespace TestFleet.Program

/-- What a file holds, if it can be read. -/
def contents (path : String) : IO (Option (List UInt8)) := do
  try
    pure (some (← IO.FS.readBinFile path).toList)
  catch _ =>
    pure none

/-- Reads so many bytes of a stream, or as many as there are. -/
partial def readExactly (input : IO.FS.Stream) (n : Nat) : IO (List UInt8) := do
  if n = 0 then return []
  let bytes ← input.read (USize.ofNat n)
  if bytes.isEmpty then return []
  return bytes.toList ++ (← readExactly input (n - bytes.size))

/-- The frame at the front of a stream, as far as it is there. -/
def readFrame (input : IO.FS.Stream) : IO (List UInt8) := do
  match ← readExactly input 4 with
  | [a, b, c, d] =>
    let n := Frame.announced a b c d
    let body ← if n ≤ messageLimit then readExactly input n else pure []
    pure (a :: b :: c :: d :: body)
  | bytes => pure bytes

def now : IO Instant := return ⟨← IO.monoNanosNow⟩

def wallClock : IO Timestamp := return ⟨UInt64.ofNat (← IO.monoMsNow)⟩

/-- Writes what happened into the log. -/
def logAll (events : List Event) : IO Unit := do
  for e in events do
    let r := e.record
    let particulars := r.particulars.map fun (name, text) => " " ++ name ++ "=" ++ text
    IO.eprintln (r.level.name ++ " " ++ r.message ++ String.join particulars)

/-- Answers one request after the other, until there are no more. -/
partial def serve (r : RunningServer) (input output : IO.FS.Stream) : IO Unit := do
  let frame ← readFrame input
  if frame.isEmpty then return
  let (sent, events, r, _) := r.answer (← now) (← wallClock) frame
  logAll events
  match sent with
  | .ok bytes =>
    output.write ⟨bytes.toArray⟩
    output.flush
  | .error fault => IO.eprintln ("error handling connection to queue: " ++ fault.message)
  serve r input output

/-- A number for this process, drawn at random. -/
def freshId : IO ClientId := do
  let bytes ← IO.getRandomBytes 16
  pure ⟨BitVec.ofNat 128 (bytes.toList.foldl (fun n b => 256 * n + b.toNat) 0)⟩

/-- The settings of a file that the command line names, or of the one at the usual place. -/
def readSettings (path : Option String) : IO (Except SettingsFault Settings) := do
  match path with
  | some path => return Settings.load false (← contents path)
  | none =>
    let home := (← IO.getEnv "HOME").getD ""
    return Settings.load true (← contents (Settings.usualPath ⟨home⟩).text)

/-- Carries out a command line. -/
def carryOut (i : Invocation) (s : Settings) : IO UInt32 := do
  match i.subcommand with
  | .start bind workers buckets =>
    let setup := (s.queue.overridden bind workers buckets).setup
    serve (setup.start (← now)) (← IO.getStdin) (← IO.getStdout)
    return 0
  | c =>
    let tests ← match c with
      | .submit a => contents a.tests
      | _ => pure none
    let id ← freshId
    let site : Site Instant := {
      connect := fun _ => Connection.none
      file := fun _ => tests
      machine := Shell.machine
      cores := 1
      hostName := ← IO.getEnv "HOSTNAME"
      wall := ← wallClock
      client := id
      freshName := id.shown
      patience := 1000000 }
    let done := c.execute site s.worker (← now)
    done.lines.forM IO.println
    match done.ending with
    | .ok code => return UInt32.ofNat code.number
    | .error e =>
      IO.eprintln ("error: " ++ e.message)
      return UInt32.ofNat ExitCode.error.number

/-- The whole program. -/
def run (arguments : List String) : IO UInt32 := do
  match Invocation.ofWords arguments with
  | .error fault =>
    IO.eprintln ("error: " ++ fault.message)
    return 2
  | .ok i =>
    match ← readSettings i.config with
    | .ok s => carryOut i s
    | .error fault =>
      IO.eprintln ("error: " ++ fault.message)
      return UInt32.ofNat ExitCode.error.number

end TestFleet.Program

def main (arguments : List String) : IO UInt32 := TestFleet.Program.run arguments
