import TestFleet.Shell.Arithmetic
import TestFleet.Shell.Pattern
import TestFleet.Shell.State

/-!
# Expanding words

When a command is run its words are expanded: parameters, outputs and calculations are put into
them, what was put in without quotes is cut into fields, and fields that are patterns are replaced
by the paths that match them. Until then a word is a row of cells, each of which knows whether it
was quoted and whether it may be cut at.
-/

namespace TestFleet.Shell

/-- A part of a word in expansion. -/
inductive Cell where
  | char (c : Char) (isQuoted splits : Bool)
  /-- Quotes, which make a field of nothing. -/
  | mark
  /-- The end of a field. -/
  | boundary
  deriving DecidableEq

namespace Cell

/-- The text of cells. -/
def text (cells : List Cell) : String :=
  String.ofList (cells.filterMap fun
    | char c _ _ => some c
    | _ => none)

/-- The pattern of cells. -/
def pattern (cells : List Cell) : Pattern :=
  cells.filterMap fun
    | char c isQuoted _ => some (c, isQuoted)
    | _ => none

/-- The fields of a row of cells that is cut at separators. Separators that are blanks are dropped
around fields, and every other one ends a field. Behind a blank that ended a field, one other
separator belongs to it. -/
def fields (separators : String) (cells : List Cell) : List (List Cell) :=
  let isSeparator (c : Char) := c == '\x00' || separators.toList.contains c
  let isBlank (c : Char) := c == '\x00' || c == ' ' || c == '\t' || c == '\n'
  let step : List (List Cell) × List Cell × Bool → Cell → List (List Cell) × List Cell × Bool :=
    fun (done, open_, behindBlank) cell =>
      match cell with
      | char c isQuoted true =>
        if isSeparator c then
          if behindBlank then (done, [], isBlank c)
          else if open_.isEmpty ∧ isBlank c then (done, [], false)
          else (open_.reverse :: done, [], isBlank c)
        else (done, char c isQuoted true :: open_, false)
      | boundary => (open_.reverse :: done, [], false)
      | cell => (done, cell :: open_, false)
  let (done, open_, _) := cells.foldl step ([], [], false)
  (if open_.isEmpty then done else open_.reverse :: done).reverse

end Cell

/-- How a word is expanded. -/
structure Mode where
  /-- Whether it is cut into fields. -/
  splits : Bool := false
  isQuoted : Bool := false
  /-- Whether its own text is cut too. -/
  splitsText : Bool := false

namespace Mode

/-- The cells of a text that is put into a word. -/
def cells (m : Mode) (s : String) : List Cell :=
  s.toList.map fun c => .char c m.isQuoted (m.splits && !m.isQuoted)

end Mode

namespace Action

/-! ## Parameters -/

/-- The letters of the options, in the order in which they are listed. -/
def optionLetters : List Char := "efIimnsxvVECabup".toList.reverse

/-- The arguments joined to one text. -/
def joinedArguments : Action String := do
  let separator := match (← value? "IFS").map String.toList with
    | none => " "
    | some [] => ""
    | some (c :: _) => String.singleton c
  return separator.intercalate (← get).arguments

/-- The value of a parameter that has one. -/
def parameter? (name : String) : Action (Option String) := do
  let s ← get
  match name with
  | "?" => return some (Text.decimal s.status)
  | "$" => return some (Text.decimal s.root)
  | "#" => return some (Text.decimal s.arguments.length)
  | "!" => return s.lastJob.map Text.decimal
  | "-" => return some (String.ofList (optionLetters.filter s.options.contains))
  | "0" => return some s.name
  | "@" | "*" => return some (← joinedArguments)
  | _ =>
    if name.toList.all Char.isDigit then
      match natural? name with
      | some (n + 1) => return s.arguments[n]?
      | _ => return none
    else value? name

/-- The cells of all arguments. -/
def argumentCells (m : Mode) (name : String) : Action (List Cell) := do
  let arguments := (← get).arguments
  if m.splits ∧ !m.isQuoted then
    return (arguments.map m.cells).intersperse [.char '\x00' false true] |>.flatten
  else if m.splits ∧ name = "@" then
    return (arguments.map m.cells).intersperse [.boundary] |>.flatten
  else return m.cells (← joinedArguments)

/-- The cells of a parameter's value. -/
def valueCells (m : Mode) (name value : String) : Action (List Cell) :=
  if name = "@" ∨ name = "*" then argumentCells m name else return m.cells value

/-! ## Home directories -/

/-- The home directories of users. -/
def homeOf? : String → Option String
  | "root" => some "/root"
  | "daemon" => some "/usr/sbin"
  | "bin" => some "/bin"
  | "sys" => some "/dev"
  | "nobody" => some "/nonexistent"
  | "www-data" => some "/var/www"
  | "mail" => some "/var/mail"
  | "games" => some "/usr/games"
  | "man" => some "/var/cache/man"
  | _ => none

/-- The home directory that a text begins with a tilde for, and the text behind that; a colon ends
it where `colons` holds, and so does the end of the text where `whole` holds. -/
def home? (colons whole : Bool) (cs : List Char) : Action (Option (String × List Char)) := do
  match cs with
  | '~' :: cs =>
    let name := cs.takeWhile fun c => c != '/' && !(colons && c == ':')
    let rest := cs.drop name.length
    if rest.isEmpty ∧ !whole then return none
    else
      let home ← if name.isEmpty then value? "HOME" else pure (homeOf? (String.ofList name))
      return (home.filter (· ≠ "")).map (·, rest)
  | _ => return none

/-- A text with home directories in the place of tildes, which are found at its beginning and, where
`colons` holds, behind colons. -/
def tildes (colons atStart whole : Bool) (s : String) : Action Word := do
  let parts := if colons then s.splitOn ":" else [s]
  let last := parts.length - 1
  let words ← parts.mapIdx (fun i part => (i, part)) |>.mapM fun (i, part) => do
    let front : Word := if i = 0 then [] else [.text ":"]
    let isPlace := if i = 0 then atStart else true
    let home ← if isPlace then home? colons (whole || i < last) part.toList else pure none
    match home with
    | some (home, rest) => return front ++ [.literal home, .text (String.ofList rest)]
    | none => return front ++ [.text part]
  return words.flatten

/-- A word with home directories in the place of tildes. -/
def homes (colons : Bool) (w : Word) : Action Word := do
  let hasTilde := w.any fun
    | .text s => s.toList.contains '~'
    | _ => false
  if !hasTilde then return w
  else
    let last := w.length - 1
    let words ← w.mapIdx (fun i p => (i, p)) |>.mapM fun (i, p) => do
      match p with
      | .text s => tildes colons (i = 0) (i = last) s
      | p => return [p]
    return words.flatten

/-! ## Words -/

/-- What an output ends with but for its last lines' ends. -/
def withoutEnd (s : String) : String :=
  String.ofList ((s.toList.filter (· ≠ '\x00')).reverse.dropWhile (· == '\n')).reverse

/-- The result of a calculation. -/
def calculate (s : String) : Action Int64 := do
  let state ← get
  let value (name : String) : String :=
    (state.bindings.get? name >>= Variable.value).getD ""
  match Arithmetic.evaluate value s with
  | .ok (n, given) =>
    for (name, v) in given do
      assign name (shownInt v.toInt)
    return n
  | .error (.malformed what) => fail ("arithmetic expression: " ++ what ++ ": \"" ++ s ++ "\"")
  | .error (.illegal v) => fail ("Illegal number: " ++ v)

mutual

/-- The cells of a word, within a bound on the nesting. -/
def wordCells (output : Option Command → Action String) : Nat → Mode → Word → Action (List Cell)
  | 0, _, _ => return []
  | n + 1, m, w => return (← w.mapM (pieceCells output n m)).flatten

/-- The cells of a piece. -/
def pieceCells (output : Option Command → Action String) : Nat → Mode → Piece → Action (List Cell)
  | 0, _, _ => return []
  | n + 1, m, p => do
    match p with
    | .text s =>
      return s.toList.map fun c => .char c m.isQuoted (m.splits && m.splitsText && !m.isQuoted)
    | .literal s => return .mark :: s.toList.map (.char · true false)
    | .quoted [.parameter "@" .plain] =>
      if m.isQuoted ∨ !m.splits then return ← argumentCells { m with isQuoted := true } "@"
      else
        let arguments := (← get).arguments
        return (arguments.map fun a => .mark :: { m with isQuoted := true }.cells a).intersperse
          [.boundary] |>.flatten
    | .quoted ps =>
      let inner ← wordCells output n { m with isQuoted := true } ps
      return .mark :: inner ++ [.mark]
    | .output c =>
      let s ← output c
      return m.cells (withoutEnd s)
    | .arithmetic ps =>
      let inner ← wordCells output n {} ps
      return m.cells (shownInt (← calculate (Cell.text inner)).toInt)
    | .parameter name use => parameterCells output n m name use

/-- The cells of a parameter. -/
def parameterCells (output : Option Command → Action String) :
    Nat → Mode → String → Use → Action (List Cell)
  | 0, _, _, _ => return []
  | n + 1, m, name, use => do
    let value ← parameter? name
    let demanded : Action String := do
      match value with
      | some v => return v
      | none =>
        if (← hasOption 'u') then fail (name ++ ": parameter not set") else return ""
    let isMissing (emptyToo : Bool) : Bool :=
      match value with
      | none => true
      | some v => emptyToo && v == ""
    let word (w : Word) : Action (List Cell) := do
      wordCells output n { m with splitsText := true } (← homes false w)
    let single (w : Word) : Action String := do
      return Cell.text (← wordCells output n {} (← homes false w))
    match use with
    | .bad => fail "Bad substitution"
    | .plain => valueCells m name (← demanded)
    | .length => return m.cells (Text.decimal (← demanded).length)
    | .orElse emptyToo w => if isMissing emptyToo then word w else valueCells m name (value.getD "")
    | .instead emptyToo w => if isMissing emptyToo then return [] else word w
    | .assign emptyToo w =>
      if isMissing emptyToo then
        let v ← single w
        if isName name then assign name v else fail (name ++ ": bad variable name")
        return m.cells v
      else valueCells m name (value.getD "")
    | .demand emptyToo w =>
      if isMissing emptyToo then
        let what ← if w.isEmpty then
            pure ("parameter not set" ++ if emptyToo then " or null" else "")
          else single w
        fail (name ++ ": " ++ what)
      else valueCells m name (value.getD "")
    | .trim front longest w =>
      let v := (← demanded).toList
      let p := Cell.pattern (← wordCells output n {} (← homes false w))
      let trimmed := if front then p.trimFront longest v else p.trimEnd longest v
      return m.cells (String.ofList trimmed)

end

/-- How deep words may be nested. -/
def nestingLimit : Nat := 1000

/-- A word as one text; tildes are looked for behind colons where `colons` holds. -/
def expanded (output : Option Command → Action String) (colons : Bool) (w : Word) :
    Action String := do
  return Cell.text (← wordCells output nestingLimit {} (← homes colons w))

/-- A word as a pattern. -/
def patternOf (output : Option Command → Action String) (w : Word) : Action Pattern := do
  return Cell.pattern (← wordCells output nestingLimit {} (← homes false w))

/-! ## Paths -/

/-- The parts of a pattern between its slashes. -/
def pathParts (p : Pattern) : List Pattern :=
  p.foldr (fun c parts =>
    match parts with
    | [] => [[c]]
    | part :: parts => if c.1 = '/' then [] :: part :: parts else (c :: part) :: parts) [[]]

/-- The paths that match the parts of a pattern, behind `front`. -/
def matchingPaths (d : Disk) (current : String) : String → List Pattern → List String
  | _, [] => []
  | front, part :: parts =>
    let text := String.ofList (part.map (·.1))
    if !part.isWild then
      if parts.isEmpty then
        match d.find current (front ++ text) with
        | .ok _ => [front ++ text]
        | .error _ => []
      else matchingPaths d current (front ++ text ++ "/") parts
    else
      let directory := if front = "" then "." else front
      match d.resolve current directory with
      | .error _ => []
      | .ok path =>
        let names := ("." :: ".." :: d.entries path).filter fun name =>
          Pattern.matchesText part name.toList &&
            (!name.startsWith "." || part.head?.any (·.1 == '.'))
        if parts.isEmpty then names.map (front ++ ·)
        else names.flatMap fun name =>
          match d.find current (front ++ name) with
          | .ok (_, .directory) => matchingPaths d current (front ++ name ++ "/") parts
          | _ => []

/-- The texts of a field: the paths that match it, or itself. -/
def paths (field : List Cell) : Action (List String) := do
  let p := Cell.pattern field
  if p.isWild ∧ !(← hasOption 'f') then
    let s ← get
    match matchingPaths s.world.disk s.current "" (pathParts p) with
    | [] => return [Cell.text field]
    | found => return found.mergeSort (· ≤ ·)
  else return [Cell.text field]

/-- The fields of a word. -/
def fields (output : Option Command → Action String) (w : Word) : Action (List String) := do
  let cells ← wordCells output nestingLimit { splits := true } (← homes false w)
  return (← (Cell.fields (← separators) cells).mapM paths).flatten

end Action

end TestFleet.Shell
