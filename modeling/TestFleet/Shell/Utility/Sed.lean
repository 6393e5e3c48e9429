import TestFleet.Shell.Regex
import TestFleet.Shell.Utility.Streams

/-!
# Editing lines

A program that edits lines by a script. Each line is put into a buffer, the commands that select it
change the buffer, and at the end of the script the buffer is written. A second buffer keeps what is
held back.
-/

namespace TestFleet.Shell.Utility

namespace Editing

/-! ## Scripts -/

/-- What says where a command is carried out. -/
inductive Address where
  | line (n : Nat)
  | last
  | matching (r : Regex)
  /-- Every so many lines from a first one on. -/
  | every (first step : Nat)
  /-- So many lines further. -/
  | further (n : Nat)

/-- The lines that a command is carried out for. -/
structure Selection where
  first : Option Address := none
  last : Option Address := none
  isNegated : Bool := false

/-- A part of a text that replaces another one. -/
inductive Part where
  | literal (c : Char)
  /-- What the whole matched, as number zero, or a group. -/
  | group (n : Nat)

inductive Edit where
  | beginBlock
  | endBlock
  | label (name : String)
  | jump (label : String) (ifReplaced : Bool)
  | delete (firstLineOnly : Bool)
  | print (firstLineOnly : Bool)
  | showNumber
  | quit (prints : Bool) (code : Nat)
  | nextLine (joins : Bool)
  | hold (adds : Bool)
  | fetch (adds : Bool)
  | exchange
  | append (text : String)
  | insert (text : String)
  | change (text : String)
  | replace (r : Regex) (parts : List Part) (occurrence : Nat) (isGlobal prints : Bool)
  | replaceEach (from_ target : List Char)

structure Step where
  selection : Selection
  edit : Edit

/-! ## Reading scripts -/

/-- A place in a script. -/
structure Reading where
  rest : List Char
  position : Nat := 0

/-- Reads a script, or says what is wrong. -/
abbrev Reader := EStateM String Reading

def advance (n : Nat) : Reader Unit :=
  modify fun k => { rest := k.rest.drop n, position := k.position + n }

def skip (p : Char → Bool) : Reader Unit := do
  advance ((← get).rest.takeWhile p).length

def fault {α : Type} (what : String) : Reader α := do
  throw ("-e expression #1, char " ++ Text.decimal (← get).position ++ ": " ++ what)

def number? : Reader (Option Nat) := do
  let ds := (← get).rest.takeWhile Char.isDigit
  advance ds.length
  return if ds.isEmpty then none else some (digits 10 0 ds).1

/-- Reads up to a delimiter, in at most `n` steps. A backslash before the delimiter is dropped. -/
def delimited (delimiter : Char) (what : String) : Nat → List Char → Reader String
  | 0, _ => fault what
  | n + 1, done => do
    match (← get).rest with
    | [] => fault what
    | '\\' :: c :: _ =>
      advance 2
      delimited delimiter what n
        (if c = delimiter then c :: done else c :: '\\' :: done)
    | c :: _ =>
      advance 1
      if c = delimiter then return String.ofList done.reverse
      else delimited delimiter what n (c :: done)

/-- A text as a regular expression. -/
def regex (isExtended ignoresCase : Bool) (s : String) : Reader Regex := do
  match Regex.ofText { isExtended, ignoresCase } s with
  | .ok r => return r
  | .error what => fault what

def address? (isExtended : Bool) : Reader (Option Address) := do
  match (← get).rest with
  | '$' :: _ =>
    advance 1
    return some .last
  | '/' :: rest =>
    advance 1
    let s ← delimited '/' "unterminated address regex" (rest.length + 1) []
    let ignoresCase := (← get).rest.head? = some 'I'
    if ignoresCase then advance 1
    return some (.matching (← regex isExtended ignoresCase s))
  | _ =>
    match ← number? with
    | none => return none
    | some n =>
      if (← get).rest.head? = some '~' then
        advance 1
        return some (.every n ((← number?).getD 0))
      else return some (.line n)

/-- The parts of a text that replaces others. -/
def replacement : List Char → List Part
  | '\\' :: c :: cs =>
    let part := if c.isDigit then .group (c.toNat - 48)
      else if c = 'n' then .literal '\n'
      else if c = 't' then .literal '\t'
      else .literal c
    part :: replacement cs
  | '&' :: cs => .group 0 :: replacement cs
  | c :: cs => .literal c :: replacement cs
  | [] => []

/-- The text behind a command, up to the end of the line; a backslash at the end joins lines. -/
def textBehind : Reader String := do
  skip fun c => c == ' ' || c == '\t'
  if (← get).rest.head? = some '\\' then
    advance 1
    skip fun c => c == ' ' || c == '\t'
    if (← get).rest.head? = some '\n' then advance 1
  let rec go : Nat → List Char → List Char → Nat × List Char
    | used, '\\' :: c :: cs, done => go (used + 2) cs (c :: done)
    | used, '\n' :: _, done => (used + 1, done)
    | used, c :: cs, done => go (used + 1) cs (c :: done)
    | used, [], done => (used, done)
  let (used, text) := go 0 (← get).rest []
  advance used
  return String.ofList text.reverse ++ "\n"

/-- The name behind a command. -/
def labelBehind : Reader String := do
  skip fun c => c == ' ' || c == '\t'
  let name := (← get).rest.takeWhile fun c => c != '\n' && c != ';'
  advance name.length
  return (String.ofList name).trimAscii.toString

def replaceBehind (isExtended : Bool) : Reader Edit := do
  match (← get).rest with
  | [] => fault "unterminated `s' command"
  | delimiter :: rest =>
    advance 1
    let what := "unterminated `s' command"
    let pattern ← delimited delimiter what (rest.length + 1) []
    let text ← delimited delimiter what (rest.length + 1) []
    let flags := (← get).rest.takeWhile fun c => c.isDigit || "gpiImM".toList.contains c
    advance flags.length
    match (← get).rest with
    | c :: _ =>
      if !(c = ';' ∨ c = '\n' ∨ c = '\x7d' ∨ c = ' ' ∨ c = '#') then
        advance 1
        fault "unknown option to `s'"
    | [] => pure ()
    let count := (digits 10 0 (flags.filter Char.isDigit)).1
    let r ← regex isExtended (flags.contains 'i' || flags.contains 'I') pattern
    return .replace r (replacement text.toList) (max count 1) (flags.contains 'g')
      (flags.contains 'p')

def editBehind (isExtended : Bool) (c : Char) : Reader Edit := do
  match c with
  | '\x7b' => return .beginBlock
  | '\x7d' => return .endBlock
  | ':' => return .label (← labelBehind)
  | 'b' => return .jump (← labelBehind) false
  | 't' => return .jump (← labelBehind) true
  | 'd' => return .delete false
  | 'D' => return .delete true
  | 'p' => return .print false
  | 'P' => return .print true
  | '=' => return .showNumber
  | 'q' | 'Q' =>
    skip (· == ' ')
    return .quit (c == 'q') ((← number?).getD 0)
  | 'n' => return .nextLine false
  | 'N' => return .nextLine true
  | 'h' => return .hold false
  | 'H' => return .hold true
  | 'g' => return .fetch false
  | 'G' => return .fetch true
  | 'x' => return .exchange
  | 'a' => return .append (← textBehind)
  | 'i' => return .insert (← textBehind)
  | 'c' => return .change (← textBehind)
  | 's' => replaceBehind isExtended
  | 'y' =>
    match (← get).rest with
    | [] => fault "unterminated `y' command"
    | delimiter :: rest =>
      advance 1
      let what := "unterminated `y' command"
      let from_ ← delimited delimiter what (rest.length + 1) []
      let target ← delimited delimiter what (rest.length + 1) []
      if from_.length ≠ target.length then
        fault "strings for `y' command are different lengths"
      return .replaceEach from_.toList target.toList
  | _ => fault ("unknown command: `" ++ String.singleton c ++ "'")

/-- Reads the commands of a script, of which there are at most `n`, at a depth of blocks. -/
def commands (isExtended : Bool) : Nat → Nat → Reader (List Step)
  | 0, _ => return []
  | n + 1, depth => do
    skip fun c => isSpace c || c == ';'
    match (← get).rest with
    | [] =>
      if 0 < depth then throw "-e expression #1, char 0: unmatched `\x7b'"
      return []
    | '#' :: _ =>
      skip (· != '\n')
      commands isExtended n depth
    | _ =>
      let first ← address? isExtended
      skip (· == ' ')
      let last ← if first.isSome ∧ (← get).rest.head? = some ',' then
          advance 1
          skip (· == ' ')
          if (← get).rest.head? = some '+' then
            advance 1
            pure (some (Address.further ((← number?).getD 0)))
          else match ← address? isExtended with
            | some a => pure (some a)
            | none => fault "unexpected `,'"
        else pure none
      skip (· == ' ')
      let isNegated := (← get).rest.head? = some '!'
      if isNegated then advance 1
      skip (· == ' ')
      match (← get).rest with
      | [] => fault "missing command"
      | c :: _ =>
        advance 1
        let edit ← editBehind isExtended c
        let depth ← match edit with
          | .beginBlock => pure (depth + 1)
          | .endBlock => if depth = 0 then fault "unexpected `\x7d'" else pure (depth - 1)
          | _ => pure depth
        skip (· == ' ')
        let isEnded := match edit, (← get).rest with
          | .beginBlock, _ | .append _, _ | .insert _, _ | .change _, _ | _, [] => true
          | _, c :: _ => c == ';' || c == '\n' || c == '\x7d' || c == '#'
        if !isEnded then
          advance 1
          fault "extra characters after command"
        return ⟨{ first, last, isNegated }, edit⟩ :: (← commands isExtended n depth)

/-- Reads a script. -/
def ofText (isExtended : Bool) (s : String) : Except String (List Step) :=
  match commands isExtended (s.length + 1) 0 |>.run { rest := s.toList } with
  | .ok cs _ => .ok cs
  | .error what _ => .error what

/-! ## Running scripts -/

/-- The lines at work. -/
structure Editor where
  /-- The lines to come. -/
  rest : List String
  buffer : String := ""
  held : String := ""
  number : Nat := 0
  /-- What was written, the last first. -/
  written : List String := []
  /-- What is written behind the line. -/
  later : List String := []
  hasReplaced : Bool := false
  /-- The places of commands that are carried out up to a later line, and the number of that line
  if it is known. -/
  active : List (Nat × Option Nat) := []

/-- How the commands end for a line. -/
inductive Ending where
  | through
  | deleted
  /-- The rest of the buffer goes through the commands again. -/
  | again
  | quit (prints : Bool) (code : Nat)

def write (s : String) : StateM Editor Unit :=
  modify fun e => { e with written := s :: e.written }

/-- Whether an address is that of the line at work. -/
def Address.isHere (e : Editor) : Address → Bool
  | line n => e.number == n
  | last => e.rest.isEmpty
  | matching r => (r.find? e.buffer.toList).isSome
  | every first step =>
    if step = 0 then e.number == first
    else first ≤ e.number && (e.number - first) % step == 0
  | further _ => false

/-- Whether the line at work is selected by the command at a place. -/
def Selection.holds (s : Selection) (place : Nat) : StateM Editor Bool := do
  let e ← get
  let close : StateM Editor Unit :=
    modify fun e => { e with active := e.active.filter (·.1 ≠ place) }
  let selected ← match s.first, s.last with
    | none, _ => pure true
    | some a, none => pure (a.isHere e)
    | some a, some z =>
      match e.active.lookup place with
      | some (some until_) =>
        if until_ ≤ e.number then close
        pure (e.number ≤ until_)
      | some none =>
        if z.isHere e then close
        pure true
      | none =>
        if a.isHere e then
          let until_ := match z with
            | .line n => some n
            | .further n => some (e.number + n)
            | _ => none
          if until_.all (e.number < ·) ∧ !(z matches .last ∧ e.rest.isEmpty) then
            modify fun e => { e with active := (place, until_) :: e.active }
          pure true
        else pure false
  return selected != s.isNegated

/-- Replaces what matches in a text from a place on, in at most `n` steps, and says whether anything
was. Nothing is matched at the place itself where a match ended there. -/
def replaceIn (r : Regex) (parts : List Part) (occurrence : Nat) (isGlobal : Bool) :
    Nat → Nat → Bool → Option Char → List Char → List Char × Bool
  | 0, _, _, _, cs => (cs, false)
  | n + 1, count, isBehindMatch, previous, cs =>
    let go := replaceIn r parts occurrence isGlobal n
    match r.search previous [] cs with
    | none => (cs, false)
    | some m =>
      if isBehindMatch && m.before.isEmpty && m.text.isEmpty then
        match cs with
        | [] => ([], false)
        | c :: cs =>
          let (later, found) := go count false (some c) cs
          (c :: later, found)
      else
        let count := count + 1
        let isMeant := count = occurrence || isGlobal && occurrence < count
        let new := parts.flatMap fun
          | .literal c => [c]
          | .group 0 => m.text
          | .group k => (m.groups.lookup k).getD []
        let done := m.before ++ if isMeant then new else m.text
        if isMeant && !isGlobal then (done ++ m.behind, true)
        else if !m.text.isEmpty then
          let (later, found) := go count true m.text.getLast? m.behind
          (done ++ later, isMeant || found)
        else match m.behind with
          | [] => (done, isMeant)
          | c :: cs =>
            let (later, found) := go count false (some c) cs
            (done ++ c :: later, isMeant || found)

/-- The place behind the block that begins before the commands at a place. -/
def behindBlock : Nat → Nat → List Step → Nat
  | place, _, [] => place
  | place, depth, c :: cs =>
    match c.edit with
    | .beginBlock => behindBlock (place + 1) (depth + 1) cs
    | .endBlock => if depth = 0 then place + 1 else behindBlock (place + 1) (depth - 1) cs
    | _ => behindBlock (place + 1) depth cs

/-- The part of a buffer up to the end of its first line, and what is behind that. -/
def firstLine (s : String) : String × Option String :=
  match s.splitOn "\n" with
  | l :: ls@(_ :: _) => (l, some ("\n".intercalate ls))
  | _ => (s, none)

/-- Carries out the commands from a place on, in at most `n` steps. -/
def perform (quiet : Bool) (all : List Step) : Nat → Nat → StateM Editor Ending
  | 0, _ => return .through
  | n + 1, place => do
    match all[place]? with
    | none => return .through
    | some c =>
      if !(← c.selection.holds place) then
        perform quiet all n (if c.edit matches .beginBlock
          then behindBlock (place + 1) 0 (all.drop (place + 1)) else place + 1)
      else
        let e ← get
        let next := perform quiet all n (place + 1)
        match c.edit with
        | .beginBlock | .endBlock | .label _ => next
        | .jump name ifReplaced =>
          if ifReplaced ∧ !e.hasReplaced then next
          else
            if ifReplaced then set { e with hasReplaced := false }
            let target := all.findIdx fun c => match c.edit with
              | .label l => l == name
              | _ => false
            perform quiet all n (if name = "" then all.length else target)
        | .delete false => return .deleted
        | .delete true =>
          match firstLine e.buffer with
          | (_, none) => return .deleted
          | (_, some rest) =>
            set { e with buffer := rest }
            return .again
        | .print isFirst =>
          write ((if isFirst then (firstLine e.buffer).1 else e.buffer) ++ "\n")
          next
        | .showNumber =>
          write (Text.decimal e.number ++ "\n")
          next
        | .quit prints code => return .quit prints code
        | .nextLine joins =>
          match e.rest with
          | [] => return .quit true 0
          | l :: rest =>
            if !joins ∧ !quiet then write (e.buffer ++ "\n")
            modify fun e => { e with
              rest, number := e.number + 1, written := e.later.reverse ++ e.written, later := []
              buffer := if joins then e.buffer ++ "\n" ++ l else l }
            next
        | .hold adds =>
          set { e with held := if adds then e.held ++ "\n" ++ e.buffer else e.buffer }
          next
        | .fetch adds =>
          set { e with buffer := if adds then e.buffer ++ "\n" ++ e.held else e.held }
          next
        | .exchange =>
          set { e with buffer := e.held, held := e.buffer }
          next
        | .append text =>
          set { e with later := e.later ++ [text] }
          next
        | .insert text =>
          write text
          next
        | .change text =>
          if c.selection.last.isNone ∨ (e.active.lookup place).isNone ∨ e.rest.isEmpty then
            write text
          return .deleted
        | .replace r parts occurrence isGlobal prints =>
          let (cs, found) := replaceIn r parts occurrence isGlobal (2 * e.buffer.length + 2) 0
            false none e.buffer.toList
          if found then
            set { e with buffer := String.ofList cs, hasReplaced := true }
            if prints then write (String.ofList cs ++ "\n")
          next
        | .replaceEach from_ target =>
          let table := from_.zip target
          set { e with
            buffer := String.ofList (e.buffer.toList.map fun c => (table.lookup c).getD c) }
          next

/-- Goes through the lines, in at most `n` rounds: the code at the end. -/
def rounds (quiet : Bool) (all : List Step) : Nat → Bool → StateM Editor Nat
  | 0, _ => return 0
  | n + 1, keeps => do
    let e ← get
    if !keeps ∧ e.rest.isEmpty then return 0
    if !keeps then
      set { e with
        rest := e.rest.tail, buffer := e.rest.headD "", number := e.number + 1
        hasReplaced := false }
    let ending ← perform quiet all 100000 0
    let show_ (prints : Bool) : StateM Editor Unit := do
      if prints ∧ !quiet then write ((← get).buffer ++ "\n")
      modify fun e => { e with written := e.later.reverse ++ e.written, later := [] }
    match ending with
    | .through =>
      show_ true
      rounds quiet all n false
    | .deleted =>
      show_ false
      rounds quiet all n false
    | .again =>
      show_ false
      rounds quiet all n true
    | .quit prints code =>
      show_ prints
      return code

/-- What becomes of lines, and the code at the end. -/
def run (quiet : Bool) (all : List Step) (lines : List String) : String × Nat :=
  let (code, e) := rounds quiet all (2 * lines.length + 1000) false |>.run { rest := lines }
  (String.join e.written.reverse, code)

end Editing

def sed : Program :=
  let names := [("quiet", 'n'), ("silent", 'n'), ("expression", 'e'), ("regexp-extended", 'E'),
    ("in-place", 'i'), ("separate", 's')]
  withOptions 1 ⟨"ne:Eruisz", names⟩ fun o => do
    let given := (o.given.filter (·.1 == 'e')).map (·.2)
    let scripts := if given.isEmpty then o.operands.take 1 else given
    let paths := if given.isEmpty then o.operands.drop 1 else o.operands
    if scripts.isEmpty then
      let _ ← Action.write 2 ("Usage: " ++ (← get).name ++
        " [OPTION]... \x7bscript-only-if-no-other-script\x7d [input-file]...\n")
      return 1
    match Editing.ofText (o.has 'E' || o.has 'r') ("\n".intercalate scripts) with
    | .error what =>
      complain what
      return 1
    | .ok all =>
      let mut status := 0
      let mut texts := #[]
      for path in if paths.isEmpty then ["-"] else paths do
        match ← contentAt path with
        | .ok s =>
          if o.has 'i' then
            let (new, _) := Editing.run (o.has 'n') all (linesOf s)
            match ← Action.openFile .clobber path with
            | .ok place => Action.keepingStreams do
                Action.connect 10 (some place)
                let _ ← Action.write 10 new
            | .error fault => complain (unreadable path fault)
          else texts := texts.push s
        | .error fault =>
          if fault = .isDirectory then complain ("couldn't edit " ++ path ++ ": not a regular file")
          else complain ("can't read " ++ unreadable path fault)
          status := 2
      if o.has 'i' then return status
      let (new, code) := Editing.run (o.has 'n') all (texts.toList.flatMap linesOf)
      -- A last line without an end keeps none.
      let isOpen := texts.back?.any fun s => s ≠ "" && !s.endsWith "\n"
      let written ← say (if isOpen then (new.dropEnd 1).toString else new)
      return max code (max status written)

end TestFleet.Shell.Utility
