import TestFleet.Shell.Utility.Options

/-!
# Programs on files

Programs that list, make, copy, move and remove files and directories.
-/

namespace TestFleet.Shell.Utility

/-- Finds what is at a path. -/
def find (path : String) : Action (Except SystemFault (String × Node)) := do
  let s ← get
  return s.world.disk.find s.current path

/-- The last name of a path. -/
def lastName (path : String) : String := ((Disk.names path).getLast?).getD path

/-- Does something with each operand, and complains if there is none; the greatest code counts. -/
def overOperands (missing : String) (operands : List String) (f : String → Action Nat) :
    Action Nat := do
  if operands.isEmpty then
    complainOfCall missing
    return 1
  let mut status := 0
  for path in operands do
    status := max status (← f path)
  return status

/-- Complains of a path. -/
def refuse (what path : String) (fault : SystemFault) : Action Nat := do
  complain (what ++ " '" ++ path ++ "': " ++ fault.message)
  return 1

/-- Makes a directory, and those that it is in if that is asked. -/
def makeDirectory (parents : Bool) (path : String) : Action Nat := do
  let s ← get
  let disk := s.world.disk
  match disk.resolve s.current path with
  | .error .notFound =>
    if !parents ∨ path = "" then refuse "cannot create directory" path .notFound
    else
      let steps := (List.range (path.splitOn "/").length).map fun i =>
        "/".intercalate ((path.splitOn "/").take (i + 1))
      for step in steps.filter (· ≠ "") do
        let s ← get
        match s.world.disk.resolve s.current step with
        | .ok p => if (s.world.disk.at? p).isNone then Action.changeDisk (·.put p .directory)
        | .error fault => return ← refuse "cannot create directory" path fault
      return 0
  | .error fault => refuse "cannot create directory" path fault
  | .ok p =>
    match disk.at? p with
    | none =>
      Action.changeDisk (·.put p .directory)
      return 0
    | some node =>
      if parents ∧ node = .directory then return 0
      else refuse "cannot create directory" path .alreadyThere

def mkdir : Program :=
  withOptions 1 ⟨"pm:v", [("parents", 'p'), ("mode", 'm'), ("verbose", 'v')]⟩ fun o =>
    overOperands "missing operand" o.operands (makeDirectory (o.has 'p'))

def rmdir : Program := withOptions 1 ⟨"pv", []⟩ fun o =>
  overOperands "missing operand" o.operands fun path => do
    match ← find path with
    | .error fault => refuse "failed to remove" path fault
    | .ok (p, .directory) =>
      if ((← Action.world).disk.entries p).isEmpty then
        Action.changeDisk (·.remove p)
        return 0
      else refuse "failed to remove" path .notEmpty
    | .ok _ => refuse "failed to remove" path .notDirectory

/-- Removes what is at a path and in it, to a depth of `n`. -/
def removeAll : Nat → Disk → String → Disk
  | 0, d, path => d.remove path
  | n + 1, d, path =>
    let inner := if d.at? path = some .directory then d.entries path else []
    (inner.foldl (fun d name => removeAll n d (Disk.join path name)) d).remove path

def rm : Program :=
  let names := [("recursive", 'r'), ("force", 'f'), ("dir", 'd'), ("verbose", 'v')]
  withOptions 1 ⟨"rRfidvI", names⟩ fun o => do
    if o.operands.isEmpty ∧ o.has 'f' then return 0
    overOperands "missing operand" o.operands fun path => do
      match ← find path with
      | .error fault =>
        if o.has 'f' ∧ (fault = .notFound ∨ fault = .notDirectory) then return 0
        else refuse "cannot remove" path fault
      | .ok (p, node) =>
        if node ≠ .directory ∨ o.has 'r' ∨ o.has 'R' then
          Action.changeDisk (removeAll 64 · p)
          return 0
        else refuse "cannot remove" path .isDirectory

def touch : Program :=
  withOptions 1 ⟨"acmd:t:r:", [("no-create", 'c'), ("date", 'd'), ("reference", 'r')]⟩ fun o =>
    overOperands "missing file operand" o.operands fun path => do
      let s ← get
      match s.world.disk.resolve s.current path with
      | .error fault => refuse "cannot touch" path fault
      | .ok p =>
        if (s.world.disk.at? p).isNone ∧ !o.has 'c' then
          Action.changeDisk (·.put p (.file "" false))
        return 0

/-- Where a file goes that is copied or moved: to a path, or into the directory there. -/
def destination (source target : String) : Action (Except SystemFault String) := do
  let s ← get
  let disk := s.world.disk
  match disk.resolve s.current target with
  | .error fault => return .error fault
  | .ok p =>
    return .ok (if disk.at? p = some .directory then Disk.join p (lastName source) else p)

/-- Copies what is at a path and in it, to a depth of `n`. -/
def copyAll : Nat → Disk → String → String → Disk
  | 0, d, _, _ => d
  | n + 1, d, source, target =>
    match d.at? source with
    | none => d
    | some .directory =>
      (d.entries source).foldl (fun d name =>
        copyAll n d (Disk.join source name) (Disk.join target name)) (d.put target .directory)
    | some node => d.put target node

/-- Copies or moves each operand but the last one to that. -/
def transfer (moves : Bool) : Program :=
  let names := [("recursive", 'r'), ("archive", 'a'), ("force", 'f'), ("verbose", 'v')]
  withOptions 1 ⟨"rRafinpuvTL", names⟩ fun o => do
    match o.operands.reverse with
    | [] =>
      complainOfCall "missing file operand"
      return 1
    | [a] =>
      complainOfCall ("missing destination file operand after '" ++ a ++ "'")
      return 1
    | target :: sources =>
      if 1 < sources.length then
        match ← find target with
        | .ok (_, .directory) => pure ()
        | .ok _ => return ← refuse "target" target .notDirectory
        | .error fault => return ← refuse "target" target fault
      overOperands "" sources.reverse fun source => do
        match ← find source with
        | .error fault => refuse "cannot stat" source fault
        | .ok (p, node) =>
          if node = .directory ∧ !moves ∧ !(o.has 'r' ∨ o.has 'R' ∨ o.has 'a') then
            complain ("-r not specified; omitting directory '" ++ source ++ "'")
            return 1
          else match ← destination source target with
            | .error fault =>
              if moves then
                complain ("cannot move '" ++ source ++ "' to '" ++ target ++ "': " ++ fault.message)
                return 1
              else refuse "cannot create regular file" target fault
            | .ok q =>
              if p = q then
                complain ("'" ++ source ++ "' and '" ++ target ++ "' are the same file")
                return 1
              Action.changeDisk fun d =>
                let d := copyAll 64 d p q
                if moves then removeAll 64 d p else d
              return 0

def cp : Program := transfer false

def mv : Program := transfer true

/-- Lets files be run, or not: only that of the permissions is kept. -/
def chmod : Program := fun words => do
  match words.filter fun w => w ≠ "-R" ∧ w ≠ "-v" ∧ w ≠ "-f" with
  | [] =>
    complainOfCall "missing operand"
    return 1
  | [mode] =>
    complainOfCall ("missing operand after '" ++ mode ++ "'")
    return 1
  | mode :: paths =>
    let cs := mode.toList
    let isOctal := cs.all fun c => '0' ≤ c && c ≤ '7'
    let sign := cs.find? fun c => c == '+' || c == '-' || c == '='
    if !isOctal ∧ !(sign.isSome ∧ cs.all fun c => "ugoa+-=rwxXst,".toList.contains c) then
      complainOfCall ("invalid mode: '" ++ mode ++ "'")
      return 1
    else overOperands "" paths fun path => do
      match ← find path with
      | .error fault => refuse "cannot access" path fault
      | .ok (p, .file content isExecutable) =>
        let isExecutable := if isOctal then ((digits 8 0 cs).1 / 64) % 2 = 1
          else if cs.contains 'x' then sign ≠ some '-'
          else if sign = some '=' then false else isExecutable
        Action.changeDisk (·.put p (.file content isExecutable))
        return 0
      | .ok _ => return 0

/-- Lists directories, one name a line. -/
def ls : Program :=
  let names := [("all", 'a'), ("almost-all", 'A'), ("directory", 'd'), ("reverse", 'r')]
  withOptions 2 ⟨"1aACdFfhilnoprRstuUxgGcSXZL", names⟩ fun o => do
    let shownNames (p : String) : Action (List String) := do
      let all := (← Action.world).disk.entries p
      let all := if o.has 'a' then "." :: ".." :: all
        else if o.has 'A' then all
        else all.filter (!·.startsWith ".")
      return if o.has 'r' then all.reverse else all
    let paths := if o.operands.isEmpty then ["."] else o.operands
    let mut status := 0
    let mut files := #[]
    let mut directories := #[]
    for path in paths.mergeSort (· ≤ ·) do
      match ← find path with
      | .error fault =>
        let _ ← refuse "cannot access" path fault
        status := 2
      | .ok (p, node) =>
        if node = .directory ∧ !o.has 'd' then
          directories := directories.push (path, ← shownNames p)
        else files := files.push path
    let hasTitles := 1 < paths.length
    let blocks := (if files.isEmpty then [] else [ofLines files.toList]) ++
      directories.toList.map fun (path, all) =>
        (if hasTitles then path ++ ":\n" else "") ++ ofLines all
    return max status (← say ("\n".intercalate blocks))

/-- Makes a file or directory of a name that none has. -/
def mktemp : Program := withOptions 1 ⟨"dqup:t", [("directory", 'd')]⟩ fun o => do
  let template := o.operands.headD "/tmp/tmp.XXXXXXXXXX"
  let count := ((template.toList.reverse).takeWhile (· == 'X')).length
  if count < 3 then
    complain ("too few X's in template '" ++ template ++ "'")
    return 1
  let s ← get
  let disk := s.world.disk
  let name (n : Nat) : String :=
    let ds := Text.decimal n
    (template.take (template.length - count)).toString ++
      String.ofList (List.replicate (count - ds.length) 'a') ++ ds
  let free := (List.range 1000).find? fun n =>
    match disk.resolve s.current (name n) with
    | .ok p => (disk.at? p).isNone
    | .error _ => true
  let path := name (free.getD 0)
  match disk.resolve s.current path with
  | .error fault =>
    let kind := if o.has 'd' then "directory" else "file"
    complain ("failed to create " ++ kind ++ " via template '" ++ template ++ "': " ++
      fault.message)
    return 1
  | .ok p =>
    Action.changeDisk (·.put p (if o.has 'd' then .directory else .file "" false))
    say (path ++ "\n")

/-- Tells where paths lead to from the root. -/
def realpath : Program := withOptions 1 ⟨"emfqsnv", []⟩ fun o =>
  overOperands "missing operand" o.operands fun path => do
    let s ← get
    match s.world.disk.resolve s.current path with
    | .ok p => say (p ++ "\n")
    | .error fault =>
      complain (unreadable path fault)
      return 1

end TestFleet.Shell.Utility
