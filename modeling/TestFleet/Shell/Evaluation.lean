import TestFleet.Shell.Child
import TestFleet.Shell.Grammar
import TestFleet.Shell.Utility

/-!
# Running commands

What each command does to a shell. Commands change the state of the shell and the world around it,
and leave a code. A script is read one line at a time, and what a line does may change how the next
one is read.

Running takes a bound on the number of steps that are nested or repeated; a script that goes beyond
it ends. Whether a command is `tested` says that a failure of it is expected, and so does not end a
script that is to end at the first one.
-/

namespace TestFleet.Shell.Action

/-! ## Simple commands -/

/-- What a simple command calls. -/
structure Wanted where
  /-- The name and the arguments. -/
  words : List String
  /-- Whether functions are passed over. -/
  skipsFunctions : Bool := false
  /-- Whether programs are looked for in the standard directories. -/
  isStandard : Bool := false

/-- The words behind the options of `command`, unless it is to tell what a name stands for; whether
an option asks for the standard directories. -/
def behindOptions : List String → Option (Bool × List String)
  | [] => none
  | a :: rest =>
    if a = "--" then if rest.isEmpty then none else some (false, rest)
    else match a.toList with
      | '-' :: c :: cs =>
        if (c :: cs).all (· == 'p') then (behindOptions rest).map fun r => (true, r.2) else none
      | _ => some (false, a :: rest)

/-- What words call, within `n` times that `command` stands in front. -/
def wanted (isFunction : String → Bool) : Nat → Wanted → Wanted
  | 0, w => w
  | n + 1, w =>
    match w.words with
    | "command" :: rest =>
      if isFunction "command" ∧ !w.skipsFunctions then w
      else match behindOptions rest with
        | none => w
        | some (isStandard, words) =>
          wanted isFunction n ⟨words, true, w.isStandard || isStandard⟩
    | _ => w

/-- What the words of a command call. -/
def calledBy (words : List String) : Action Wanted := do
  let functions := (← get).functions
  return wanted functions.contains words.length { words }

/-- Expands the words of a command behind those that are expanded. Behind a command that declares
variables an assignment is one word. -/
def arguments (output : Option Command → Action String) :
    List Word → List String → Action (List String)
  | [], done => return done
  | w :: ws, done => do
    let declares := (← calledBy done).words.head?.any Builtin.declares
    let next ← match if declares then Parse.assigned? w else none with
      | some (name, value) => do
        let value ← expanded output true value
        pure [name ++ "=" ++ value]
      | none => fields output w
    arguments output ws (done ++ next)

/-- Gives variables values, which may be for one command only. -/
def assignAll (output : Option Command → Action String) (isLocal isExported : Bool)
    (assignments : List (String × Word)) : Action (List (String × String)) :=
  assignments.mapM fun (name, w) => do
    let value ← expanded output true w
    if isLocal then keepOutside name
    assign name value
    if isExported then
      if let some v ← binding? name then setVariable name { v with isExported := true }
    return (name, value)

/-- A text with parameters, outputs and calculations put into it, unless it is malformed. -/
def filledIn (output : Option Command → Action String) (s : String) : Action String := do
  let steps := 8 * s.length + 64
  match Parse.word steps (.document ['\x00'] false true) { rest := s.toList } with
  | .error .. => return s
  | .ok w _ => return Cell.text (← wordCells output nestingLimit { isQuoted := true } w)

/-- Shows a command before it is run, if that is asked for. -/
def trace (output : Option Command → Action String) (streams : List (Nat × Nat))
    (assigned : List (String × String)) (words : List String) : Action Unit := do
  if ← hasOption 'x' then
    let front ← filledIn output ((← value? "PS4").getD "+ ")
    let shown := assigned.map (fun (name, value) => name ++ "=" ++ value) ++ words
    keepingStreams do
      modify fun s => { s with streams }
      let _ ← write 2 (front ++ " ".intercalate shown ++ "\n")

/-- What a name stands for. -/
inductive Called where
  | function (d : Definition)
  | builtin
  | program

/-- What the first of some words stands for. -/
def kindOf (w : Wanted) (name : String) : Action Called := do
  let functions := (← get).functions
  match if w.skipsFunctions then none else functions.get? name with
  | some d => return .function d
  | none => return if (Builtin.isSpecial? name).isSome then .builtin else .program

/-- The variables of a shell that starts with variables that it is given. -/
def startBindings (environment : List (String × String)) (current : String) (parent : Nat) :
    Directory String Variable :=
  let usual := [("IFS", " \t\n"), ("OPTIND", "1"), ("PATH", standardPath),
    ("PPID", Text.decimal parent),
    ("PS1", "# "), ("PS2", "> "), ("PS4", "+ ")]
  let b := Directory.ofList (usual.map fun (name, value) => (name, { value := some value }))
  let b := environment.foldl (fun b (name, value) =>
    if isName name ∧ name ≠ "IFS" ∧ name ≠ "PPID" then
      b.insert name { value := some value, isExported := true }
    else b) b
  b.insert "PWD" { value := some current, isExported := true }

/-- Becomes a shell that has just been started under a name. It goes by the path of the current
directory that its variables tell, if that is one. -/
def startShell (name : String) : Action Unit := do
  let environment ← exported
  let here ← place
  let disk := (← get).world.disk
  let current := ((environment.lookup "PWD").filter fun path =>
    path.startsWith "/" && (disk.resolve "/" path).toOption == some here).getD here
  modify fun s => {
    world := s.world
    bindings := startBindings environment current
      ((s.world.living ++ s.world.others).headD 1)
    name
    current
    streams := s.streams
    traps := s.traps.filter (·.2 == "")
    mask := s.mask
    process := s.process
    root := s.process
    line := 0 }

/-- Takes back a signal that has arrived for this process. -/
def nextSignal? : Action (Option Nat) := do
  let s ← get
  let isDue : Nat × Nat × Nat → Bool := fun (time, process, _) =>
    process == s.process && time ≤ s.world.now
  match s.world.pending.find? isDue with
  | none => return none
  | some p =>
    changeWorld fun w => { w with pending := w.pending.eraseP isDue }
    return some p.2.2

/-- A name in quotes. -/
def quoted (name : String) : String := "'" ++ name ++ "'"

mutual

/-- Runs a command. -/
def run : Nat → Bool → Command → Action Unit
  | 0, _, _ => throw (.shell none)
  | n + 1, tested, c => do
    if ← hasOption 'n' then return
    match c with
    | .simple line assignments words redirections =>
      modify fun s => { s with line }
      simple n tested assignments words redirections
    | .pipeline commands => pipe n tested none commands
    | .redirected line body redirections =>
      modify fun s => { s with line }
      let targets ← redirections.mapM (target (output n))
      keepingStreams do
        if ← redirectAll (output n) targets then run n tested body else leaveStatus 2
    | .subshell line body redirections =>
      modify fun s => { s with line }
      let targets ← redirections.mapM (target (output n))
      awaitChild (asShell n do
        if ← redirectAll (output n) targets then run n tested body
        else
          leaveStatus 2
          throw .fault)
    | .background line body =>
      modify fun s => { s with line }
      startChild (asShell n (run n false body))
    | .and first second =>
      run n true first
      if (← get).status = 0 then run n tested second
    | .or first second =>
      run n true first
      if (← get).status ≠ 0 then run n tested second
    | .sequence first second =>
      run n tested first
      run n tested second
    | .not body =>
      run n true body
      modify fun s => { s with status := if s.status = 0 then 1 else 0 }
    | .choice condition yes no =>
      run n true condition
      if (← get).status = 0 then run n tested yes
      else match no with
        | some no => run n tested no
        | none => leaveStatus 0
    | .loop whileFails condition body =>
      insideLoop fun loops => loop n tested whileFails condition body loops 0
    | .each line name words body =>
      modify fun s => { s with line }
      let values := (← words.mapM (fields (output n))).flatten
      leaveStatus 0
      insideLoop fun loops => each n tested name body loops values
    | .branch line subject branches =>
      modify fun s => { s with line }
      let text ← expanded (output n) false subject
      branch n tested text branches
    | .define line name body =>
      modify fun s => { s with
        functions := s.functions.insert name { line, body }, status := 0 }
    deliver n
    let isChecked := match c with
      | .simple .. | .pipeline .. | .subshell .. => !tested
      | _ => false
    if isChecked && (← get).status != 0 then
      if ← hasOption 'e' then throw (.shell none)

/-- Deals with the signals that have arrived. -/
def deliver : Nat → Action Unit
  | 0 => return
  | n + 1 => do
    match ← nextSignal? with
    | none => return
    | some signal =>
      match (← get).traps.lookup signal with
      | none =>
        if !Signal.harmless.contains signal then throw (.killed (← get).process signal)
      | some "" => pure ()
      | some action =>
        let status := (← get).status
        match ← outcome (text n false action) with
        | .ok _ => leaveStatus status
        | .error (.shell none) => throw (.shell (some status))
        | .error e => throw e
      deliver n

/-- Does something as a shell, up to what is to be done on its end: the code that it leaves. -/
def asShell : Nat → Action Unit → Action Nat
  | 0, _ => return 2
  | n + 1, a => do
    match ← outcome a with
    | .error (.killed process signal) => throw (.killed process signal)
    | .error (.shell (some code)) => leaveStatus code
    | _ => pure ()
    let s ← get
    match s.traps.lookup 0 with
    | none | some "" => return s.status
    | some action =>
      set { s with traps := s.traps.filter (·.1 ≠ 0) }
      match ← outcome (text n false action) with
      | .error (.killed process signal) => throw (.killed process signal)
      | .error (.shell (some code)) => return code
      | .error .fault => return (← get).status
      | _ => return s.status

/-- What a command writes. -/
def output : Nat → Option Command → Action String
  | 0, _ => return ""
  | _ + 1, none => return ""
  | n + 1, some c => do
    let place ← openChannel (.sink [] 0 none)
    let before := (← get).status
    awaitChild (asShell n do
      connect 1 (some place)
      run n false c)
    modify fun s => { s with outputStatus := s.status, status := before }
    collected place

/-- Runs the commands of a script. -/
def text : Nat → Bool → String → Action Unit
  | 0, _, _ => throw (.shell none)
  | n + 1, tested, s => lines n tested { rest := s.toList } 0

/-- Runs the commands of a script from a place on; if there are none, they leave the code
`status`. -/
def lines : Nat → Bool → Cursor → Nat → Action Unit
  | 0, _, _, _ => throw (.shell none)
  | n + 1, tested, k, status => do
    if k.rest.isEmpty then leaveStatus status
    else
      let s ← get
      let k := { k with
        aliases := s.aliases, ahead := none, documents := [], nextDocument := s.nextDocument }
      match Parse.line k with
      | .error fault k =>
        modify fun s => { s with line := k.line }
        fail ("Syntax error: " ++ fault.message)
      | .ok c k =>
        modify fun s => { s with
          documents := k.documents ++ s.documents, nextDocument := k.nextDocument }
        match c with
        | none => lines n tested k status
        | some c =>
          run n tested c
          lines n tested k (← get).status

/-- Runs commands that feed one another, the first one from a place. -/
def pipe : Nat → Bool → Option Nat → List Command → Action Unit
  | 0, _, _, _ => throw (.shell none)
  | n + 1, tested, input, commands => do
    let source : Action Unit := do
      if input.isSome then connect 0 input
    match commands with
    | [] => leaveStatus 0
    | [c] => awaitChild (asShell n do
        source
        run n tested c)
    | c :: cs =>
      let place ← openChannel (.sink [] 0 (some pipeLimit))
      let _ ← inChild true (asShell n do
        source
        connect 1 (some place)
        run n tested c)
      let place ← openChannel (.source (← collected place))
      pipe n tested (some place) cs

/-- Goes through a loop whose last round left the code `status`. -/
def loop : Nat → Bool → Bool → Command → Command → Nat → Nat → Action Unit
  | 0, _, _, _, _, _, _ => throw (.shell none)
  | n + 1, tested, whileFails, condition, body, loops, status => do
    match ← round loops (run n true condition) with
    | .over => leaveStatus status
    | .again => loop n tested whileFails condition body loops status
    | .through =>
      if ((← get).status = 0) = whileFails then leaveStatus status
      else
        let ended ← round loops (run n tested body)
        if ended ≠ .over then
          loop n tested whileFails condition body loops (← get).status

/-- Goes through a loop over values. -/
def each : Nat → Bool → String → Command → Nat → List String → Action Unit
  | 0, _, _, _, _, _ => throw (.shell none)
  | _ + 1, _, _, _, _, [] => return
  | n + 1, tested, name, body, loops, value :: values => do
    assign name value
    let ended ← round loops (run n tested body)
    if ended ≠ .over then each n tested name body loops values

/-- Runs the first branch that has a pattern which a text matches. -/
def branch : Nat → Bool → String → List (List Word × Option Command) → Action Unit
  | 0, _, _, _ => throw (.shell none)
  | _ + 1, _, _, [] => leaveStatus 0
  | n + 1, tested, subject, (patterns, body) :: branches => do
    let found ← patterns.anyM fun w => do
      return Pattern.matchesText (← patternOf (output n) w) subject.toList
    if !found then branch n tested subject branches
    else match body with
      | none => leaveStatus 0
      | some c => run n tested c

/-- Runs a simple command. -/
def simple : Nat → Bool → List (String × Word) → List Word → List Redirection → Action Unit
  | 0, _, _, _, _ => throw (.shell none)
  | n + 1, tested, assignments, words, redirections => do
    modify fun s => { s with outputStatus := 0 }
    let all ← arguments (output n) words []
    let w ← calledBy all
    let isSpecial := !w.skipsFunctions && all.head?.any (Builtin.isSpecial? · == some true)
    let targets ← redirections.mapM (target (output n))
    let before := (← get).streams
    let perform : Action Unit := do
      if !(← redirectAll (output n) targets) then
        leaveStatus 2
        if isSpecial then throw .fault
      else match w.words with
        | [] =>
          let assigned ← assignAll (output n) false false assignments
          trace (output n) before assigned []
          leaveStatus (← get).outputStatus
        | name :: arguments =>
          let called ← kindOf w name
          let act (isLocal isExported : Bool) : Action Unit := do
            let assigned ← assignAll (output n) isLocal isExported assignments
            trace (output n) before assigned all
            call n tested called w name arguments
          if isSpecial then act false (name = "exec" && !arguments.isEmpty)
          else withFrame (act true true)
    if w.words = ["exec"] ∧ isSpecial then perform else keepingStreams perform

/-- Calls what a name stands for. -/
def call : Nat → Bool → Called → Wanted → String → List String → Action Unit
  | 0, _, _, _, _, _ => throw (.shell none)
  | n + 1, tested, called, w, name, arguments => do
    match called with
    | .function d => inFunction arguments (run n tested d.body)
    | .program =>
      let searched := (← value? "PATH").getD ""
      let path := if w.isStandard then standardPath else searched
      match ← locate path name with
      | .ok path => awaitChild (execute n path (name :: arguments))
      | .error fault =>
        let fault := if name = "" then .denied else fault
        complain (name ++ ": " ++ faultMessage fault)
        leaveStatus (if name.contains '/' then faultStatus fault else 127)
    | .builtin =>
      let isSpecial := !w.skipsFunctions && Builtin.isSpecial? name == some true
      match ← outcome (named name (builtin n tested w name arguments)) with
      | .ok status => leaveStatus status
      | .error .fault => if isSpecial then throw .fault
      | .error e => throw e

/-- Does what a command of the shell does: the code that it leaves. -/
def builtin : Nat → Bool → Wanted → String → List String → Action Nat
  | 0, _, _, _, _ => throw (.shell none)
  | n + 1, tested, _, name, arguments => do
    match name with
    | "eval" =>
      text n tested (" ".intercalate arguments)
      return (← get).status
    | "." =>
      let (_, words) ← options "" arguments
      match words with
      | [] => return 0
      | file :: _ => source n file
    | "exec" =>
      let (_, words) ← options "" arguments
      match words with
      | [] => return 0
      | program :: arguments =>
        match ← locate ((← value? "PATH").getD "") program with
        | .error fault =>
          complain (program ++ ": " ++ faultMessage fault)
          throw (.shell (some (faultStatus fault)))
        | .ok path =>
          modify fun s => { s with traps := s.traps.filter (·.2 == "") }
          let code ← execute n path (program :: arguments)
          throw (.shell (some code))
    | "command" => return (← Builtin.described? arguments).getD 0
    | _ =>
      match Builtin.ordinary? name with
      | some f => f arguments
      | none => return 127

/-- Runs the commands in a file: the code that they leave. -/
def source : Nat → String → Action Nat
  | 0, _ => throw (.shell none)
  | n + 1, file => do
    let path ← if file.contains '/' then pure file
      else do
        let s ← get
        let found := (← searchPath).filterMap fun d =>
          let path := if d = "" then file else d ++ "/" ++ file
          match s.world.disk.find s.current path with
          | .ok (_, .file ..) => some path
          | _ => none
        match found with
        | path :: _ => pure path
        | [] => fail (file ++ ": not found")
    match ← openFile .read path with
    | .error fault => fail (openingFault .read path fault)
    | .ok place =>
      let content ← keepingStreams do
        connect 10 (some place)
        readAll 10
      match content with
      | .error _ => return 0
      | .ok s =>
        match ← outcome (named path (text n false s)) with
        | .ok _ | .error .function => return (← get).status
        | .error e => throw e

/-- Runs the program at a path in place of this process: the code that it leaves. -/
def execute : Nat → String → List String → Action Nat
  | 0, _, _ => throw (.shell none)
  | n + 1, path, words => do
    let s ← get
    let name := words.headD ""
    let arguments := words.tail
    if words.any (argumentLimit ≤ ·.length) then
      complain (name ++ ": " ++ SystemFault.argumentsTooLong.message)
      return 126
    match s.world.disk.find s.current path with
    | .ok (_, .program program) =>
      set { s with name }
      match program with
      | "sh" | "dash" | "bash" => shell n name arguments
      | "env" => environment n arguments
      | "nice" | "nohup" | "timeout" | "xargs" => wrapped n program arguments
      | _ =>
        match Utility.ofName? program with
        | some f => f arguments
        | none => return 127
    | .ok (p, .file ..) =>
      let script ← content p
      match script.toList with
      | '#' :: '!' :: cs =>
        let line := (String.ofList (cs.takeWhile (· != '\n'))).trimAscii.toString
        let interpreter := (line.takeWhile (· != ' ')).toString
        let option := (line.drop interpreter.length).trimAscii.toString
        let front := interpreter :: if option = "" then [] else [option]
        match ← runnable interpreter with
        | .ok _ => execute n interpreter (front ++ path :: arguments)
        | .error fault =>
          complain (name ++ ": " ++ faultMessage fault)
          return faultStatus fault
      | _ => execute n "/bin/sh" (name :: path :: arguments)
    | _ =>
      complain (name ++ ": " ++ faultMessage .denied)
      return 126

/-- Is a shell of its own, with arguments: the code that it leaves. -/
def shell : Nat → String → List String → Action Nat
  | 0, _, _ => throw (.shell none)
  | n + 1, name, arguments => do
    startShell name
    asShell n do
      let words ← setOptions true arguments.length arguments
      if words.hasScript then
        match words.rest with
        | [] => fail "-c requires an argument"
        | script :: rest =>
          modify fun s => { s with
            line := 1, name := rest.headD s.name, arguments := rest.tail }
          text n false script
      else
        let input : Action (Except SystemFault String) := do
          match words.rest with
          | file :: rest =>
            if ← hasOption 's' then
              modify fun s => { s with arguments := words.rest }
              readAll 0
            else
              modify fun s => { s with name := file, arguments := rest }
              match ← openFile .read file with
              | .error fault =>
                modify fun s => { s with name }
                fail (openingFault .read file fault)
              | .ok place => keepingStreams do
                  connect 10 (some place)
                  readAll 10
          | [] => readAll 0
        match ← input with
        | .error _ => return
        | .ok script =>
          modify fun s => { s with line := 1 }
          text n false script

/-- Starts a program for another one, which complains if that is not possible, in words that name
the program. -/
def start : Nat → (String → String) → List String → Action Nat
  | 0, _, _ => throw (.shell none)
  | n + 1, complaint, words => do
    let name := words.headD ""
    match ← locate ((← value? "PATH").getD standardPath) name with
    | .ok path => execute n path words
    | .error fault =>
      Utility.complain (complaint name ++ ": " ++ fault.message)
      return if fault = .notFound then 127 else 126

/-- Runs a program in an environment that is changed, or shows the environment. -/
def environment : Nat → List String → Action Nat
  | 0, _ => throw (.shell none)
  | n + 1, arguments => do
    match arguments with
    | [] =>
      for (name, value) in ← exported do
        let _ ← write 1 (name ++ "=" ++ value ++ "\n")
      return 0
    | "-i" :: rest | "-" :: rest | "--ignore-environment" :: rest =>
      modify fun s => { s with bindings := ∅ }
      environment n rest
    | "-u" :: name :: rest =>
      modify fun s => { s with bindings := s.bindings.erase name }
      environment n rest
    | "--" :: rest => environment n rest
    | a :: rest =>
      match a.splitOn "=" with
      | name :: _ :: _ =>
        let value := some (a.drop (name.length + 1)).toString
        modify fun s => { s with
          bindings := s.bindings.insert name { value, isExported := true } }
        environment n rest
      | _ =>
        if a.startsWith "-" then
          Utility.complainOfCall ("invalid option -- '" ++ (a.drop 1).toString ++ "'")
          return 125
        else start n quoted (a :: rest)

/-- Starts a program once for each of several lists of arguments: the greatest code. -/
def startEach : Nat → List (List String) → Nat → Action Nat
  | 0, _, _ => throw (.shell none)
  | _ + 1, [], code => return code
  | n + 1, words :: later, code => do
    match ← locate ((← value? "PATH").getD standardPath) (words.headD "") with
    | .error _ => start n id words
    | .ok path =>
      let ending ← inChild true (execute n path words)
      startEach n later (if ending.status = 0 then code else 123)

/-- Runs a program in a way that another one asks for. -/
def wrapped : Nat → String → List String → Action Nat
  | 0, _, _ => throw (.shell none)
  | n + 1, how, arguments => do
    match how, arguments with
    | "xargs", "-r" :: rest => wrapped n how rest
    | "xargs", arguments =>
      let text ← match ← readAll 0 with
        | .ok s => pure s
        | .error _ => pure ""
      match Utility.gathered arguments text with
      | .ok lists => startEach n lists 0
      | .error what =>
        Utility.complainOfCall what
        return 1
    | "timeout", interval :: words@(_ :: _) =>
      match Utility.interval? interval with
      | none =>
        Utility.complainOfCall ("invalid time interval '" ++ interval ++ "'")
        return 125
      | some length =>
        let first := (← world).now
        let complaint (name : String) : String := "failed to run command " ++ quoted name
        let ending ← inChild true (start n complaint words)
        if 0 < length ∧ first + length < (← world).now then
          changeWorld fun w => { w with now := first + length }
          return 124
        else return ending.status
    | "timeout", _ =>
      let _ ← write 2 "Try 'timeout --help' for more information.\n"
      return 125
    | _, [] =>
      Utility.complainOfCall "missing operand"
      return 125
    | "nohup", words => start n (fun name => "failed to run command " ++ quoted name) words
    | _, "-n" :: _ :: words => start n quoted words
    | _, words => start n quoted words

end

end TestFleet.Shell.Action
