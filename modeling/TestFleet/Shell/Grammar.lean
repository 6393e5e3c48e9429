import TestFleet.Shell.Reader

/-!
# Reading commands

A script is read one line at a time, or as many lines as a command takes. Whether a word is a
reserved one depends on where it stands, so whoever reads a token says what may stand there.

The readers of nested commands take a bound on their steps, which is never reached if it is great
enough for the length of the text.
-/

namespace TestFleet.Shell.Parse

/-- What may stand where a token is read. -/
structure Place where
  /-- Ends of lines are passed over. -/
  passesLines : Bool := false
  /-- Words may be reserved ones. -/
  reserves : Bool := false
  /-- Words may be names of texts to be put in their place. -/
  replaces : Bool := false

namespace Place

/-- Anywhere else. -/
def inside : Place := {}

/-- Where a command begins. -/
def command : Place := { reserves := true, replaces := true }

/-- Where a command begins, maybe on a later line. -/
def later : Place := { passesLines := true, reserves := true, replaces := true }

end Place

/-- The reserved words. -/
def keywords : List String := ["!", "case", "do", "done", "elif", "else", "esac", "fi", "for", "if",
  "in", "then", "until", "while", "\x7b", "\x7d"]

/-- Whether a token ends a list of commands. -/
def endsList : Token → Bool
  | .endOfText => true
  | .operator o => o == ")" || o == ";;"
  | .keyword k => ["do", "done", "elif", "else", "esac", "fi", "then", "\x7d"].contains k
  | _ => false

/-- The text of a word without quotes and parameters. -/
def bare? (w : Word) : Option String :=
  w.foldl (fun s p => match s, p with
    | some s, .text t => some (s ++ t)
    | _, _ => none) (some "")

/-- The text of the word that ends a document, and whether nothing in it was quoted. -/
def marker (w : Word) : String × Bool :=
  let text (s : String) : Piece → String
    | .text t | .literal t => s ++ t
    | _ => s
  (w.foldl (fun s p => match p with
    | .quoted ps => ps.foldl text s
    | p => text s p) "", (bare? w).isSome)

/-! ## Tokens -/

/-- The lines of a document behind those in `done`, within a bound, up to the one that ends it; also
the text behind that, and the number of lines. -/
def documentLines (p : Pending) (done cs : List Char) (n : Nat) :
    Nat → List Char × List Char × Nat
  | 0 => (done, cs, n)
  | steps + 1 =>
    let cs := if p.dropsTabs then cs.dropWhile (· == '\t') else cs
    match afterMarker? p.marker.toList cs with
    | some cs => (done, cs, n + 1)
    | none =>
      let line := cs.takeWhile (· != '\n')
      match cs.drop line.length with
      | [] => (done ++ line, [], n)
      | _ :: cs => documentLines p (done ++ line ++ ['\n']) cs (n + 1) steps

/-- Reads the texts of documents that begin at the place. -/
def documents (word : Within → Parse Word) : Parse Unit := do
  let pending := (← get).pending
  modify fun k => { k with pending := [] }
  for p in pending do
    let text ← if p.expands then word (.document p.marker.toList p.dropsTabs true)
      else do
        let cs ← rest
        let (text, cs, n) := documentLines p [] cs 0 (cs.length + 1)
        modify fun k => { k with rest := cs, line := k.line + n }
        pure [.literal (String.ofList text)]
    modify fun k => { k with documents := k.documents ++ [⟨p.number, text⟩] }

/-- Skips blanks and a comment. -/
def skipBlanks : Nat → Parse Unit
  | 0 => return
  | n + 1 => do
    match ← joinLines with
    | ' ' :: cs | '\t' :: cs =>
      moveTo cs
      skipBlanks n
    | '#' :: cs => moveTo (cs.dropWhile (· != '\n'))
    | _ => return

/-- Reads an operator that may be one or two characters long. -/
def operator (first : Char) (seconds : List Char) : Parse Token := do
  let _ ← next?
  match ← peek? with
  | some c =>
    if seconds.contains c then
      let _ ← next?
      return .operator (String.ofList [first, c])
    else return .operator (String.singleton first)
  | none => return .operator (String.singleton first)

/-- Reads the sign of a redirection. -/
def redirection (stream : Option Nat) : Parse Token := do
  match ← next? with
  | some '<' =>
    if ← accept '<' then
      return .redirection stream (if ← accept '-' then "<<-" else "<<")
    else if ← accept '&' then return .redirection stream "<&"
    else if ← accept '>' then return .redirection stream "<>"
    else return .redirection stream "<"
  | _ =>
    if ← accept '>' then return .redirection stream ">>"
    else if ← accept '|' then return .redirection stream ">|"
    else if ← accept '&' then return .redirection stream ">&"
    else return .redirection stream ">"

/-- Reads the next token, whatever it may stand for. -/
def rawToken (word : Within → Parse Word) (steps : Nat) : Parse Token := do
  skipBlanks steps
  match ← joinLines with
  | [] => return .endOfText
  | '\n' :: cs =>
    moveTo cs
    countLine
    return .newline
  | '&' :: _ => operator '&' ['&']
  | '|' :: _ => operator '|' ['|']
  | ';' :: _ => operator ';' [';']
  | '(' :: cs =>
    moveTo cs
    return .operator "("
  | ')' :: cs =>
    moveTo cs
    return .operator ")"
  | c :: '<' :: cs =>
    if c.isDigit then
      moveTo ('<' :: cs)
      redirection (some (c.toNat - 48))
    else if c = '<' ∨ c = '>' then redirection none
    else return .word (← word .word)
  | c :: '>' :: cs =>
    if c.isDigit then
      moveTo ('>' :: cs)
      redirection (some (c.toNat - 48))
    else if c = '<' ∨ c = '>' then redirection none
    else return .word (← word .word)
  | c :: _ =>
    if c = '<' ∨ c = '>' then redirection none
    else return .word (← word .word)

/-- The text that a word is to be replaced by, unless it stands in that text itself. -/
def replacement? (name : String) : Parse (Option String) := do
  let k ← get
  if k.aliases.entries.isEmpty then return none
  else
    let left := k.rest.length
    let replaced := k.replaced.filter fun r => r.2 < left
    if replaced.any fun r => r.1 == name then return none
    else match k.aliases.get? name with
      | none => return none
      | some s =>
        set { k with rest := s.toList ++ k.rest, replaced := (name, left) :: replaced }
        return some s

/-- Reads the next token at a place. -/
def token (word : Within → Parse Word) (place : Place) : Nat → Parse Token
  | 0 => return .endOfText
  | n + 1 => do
    let t ← match (← get).ahead with
      | some t =>
        modify fun k => { k with ahead := none }
        pure t
      | none => rawToken word n
    match t with
    | .newline =>
      if place.passesLines then
        documents word
        token word place n
      else return t
    | .word w =>
      match bare? w with
      | none => return t
      | some s =>
        if place.reserves && keywords.contains s then return .keyword s
        else if place.replaces then
          match ← replacement? s with
          | some _ => token word place n
          | none => return t
        else return t
    | t => return t

/-! ## Commands -/

/-- The fault of finding a token where something else is needed. -/
def unexpected {α : Type} (t : Token) (needed : Option String) : Parse α :=
  throw (.unexpected t.shown needed)

/-- The names that no function may have. -/
def specialNames : List String := [":", ".", "break", "continue", "eval", "exec", "exit", "export",
  "readonly", "return", "set", "shift", "times", "trap", "unset"]

/-- The name and the value of a word that is an assignment. -/
def assigned? (w : Word) : Option (String × Word) :=
  match w with
  | .text s :: ps =>
    (assignment? s).map fun (name, value) =>
      (name, if value = "" then ps else .text value :: ps)
  | _ => none

/-- How a sign of a redirection opens a file. -/
def opening (sign : String) : Opening :=
  if sign = "<" then .read
  else if sign = ">>" then .append
  else if sign = "<>" then .both
  else if sign = ">|" then .clobber
  else .write

/-- A command that does nothing. -/
def nothing : Command := .pipeline []

mutual

/-- The words that are read off the place. -/
def word : Nat → Within → Parse Word
  | 0, _ => throw .unterminated
  | n + 1, w =>
    let closed : Parse (Option Command) := do
      let c ← list n false true
      match ← token (word n) .inside n with
      | .operator ")" => return c
      | t => unexpected t (some (Token.operator ")").shown)
    pieces closed (list n false true) n w []

/-- A list of commands. The outermost list ends with its line; an inner one may be empty only where
that is said. -/
def list : Nat → Bool → Bool → Parse (Option Command)
  | 0, _, _ => unexpected .endOfText none
  | n + 1, outermost, mayBeEmpty => listFrom n outermost mayBeEmpty none

/-- What follows the commands of a list that were read. -/
def listFrom : Nat → Bool → Bool → Option Command → Parse (Option Command)
  | 0, _, _, _ => unexpected .endOfText none
  | n + 1, outermost, mayBeEmpty, first => do
    let t ← token (word n) (if outermost then .command else .later) n
    match t with
    | .newline =>
      documents (word n)
      return first
    | .endOfText =>
      documents (word n)
      putBack t
      return first
    | t =>
      putBack t
      if !outermost && mayBeEmpty && endsList t then return first
      let second ← condition n
      let line := (← get).line
      let t ← token (word n) .inside n
      let second := if t matches .operator "&" then .background line second else second
      let joined := some (match first with
        | none => second
        | some first => .sequence first second)
      match t with
      | .newline | .endOfText =>
        putBack t
        listFrom n outermost true joined
      | .operator "&" | .operator ";" => listFrom n outermost true joined
      | t =>
        if outermost then unexpected t none
        else
          putBack t
          return joined

/-- Commands joined by conditions. -/
def condition : Nat → Parse Command
  | 0 => unexpected .endOfText none
  | n + 1 => do conditionFrom n (← pipeline n .inside)

/-- What follows a command that others are joined to. -/
def conditionFrom : Nat → Command → Parse Command
  | 0, _ => unexpected .endOfText none
  | n + 1, first => do
    match ← token (word n) .inside n with
    | .operator "&&" => conditionFrom n (.and first (← pipeline n .later))
    | .operator "||" => conditionFrom n (.or first (← pipeline n .later))
    | t =>
      putBack t
      return first

/-- Commands that feed one another. -/
def pipeline : Nat → Place → Parse Command
  | 0, _ => unexpected .endOfText none
  | n + 1, place => do
    let t ← token (word n) place n
    let negated := t matches .keyword "!"
    if !negated then putBack t
    let first ← command n (if negated then .command else .inside)
    let commands ← piped n [first]
    let c := match commands with
      | [c] => c
      | cs => .pipeline cs
    return if negated then .not c else c

/-- The commands that are fed by those in `done`. -/
def piped : Nat → List Command → Parse (List Command)
  | 0, _ => unexpected .endOfText none
  | n + 1, done => do
    match ← token (word n) .inside n with
    | .operator "|" => piped n (done ++ [← command n .later])
    | t =>
      putBack t
      return done

/-- Reads a reserved word or operator that has to stand at the place. -/
def expect : Nat → Place → Token → Parse Unit
  | 0, _, _ => unexpected .endOfText none
  | n + 1, place, needed => do
    let t ← token (word n) place n
    if t.shown ≠ needed.shown then unexpected t (some needed.shown)

/-- One command. -/
def command : Nat → Place → Parse Command
  | 0, _ => unexpected .endOfText none
  | n + 1, place => do
    let before := (← get).line
    let body := return (← list n false false).getD nothing
    match ← token (word n) place n with
    | .keyword "if" => redirected n before (← choice n)
    | .keyword "while" =>
      let c ← body
      expect n .inside (.keyword "do")
      let b ← body
      expect n .inside (.keyword "done")
      redirected n before (.loop false c b)
    | .keyword "until" =>
      let c ← body
      expect n .inside (.keyword "do")
      let b ← body
      expect n .inside (.keyword "done")
      redirected n before (.loop true c b)
    | .keyword "for" =>
      let name ← match ← token (word n) .inside n with
        | .word w =>
          match bare? w with
          | some s => if isName s then pure s else throw .badLoopVariable
          | none => throw .badLoopVariable
        | _ => throw .badLoopVariable
      let words ← match ← token (word n) .later n with
        | .keyword "in" => members n []
        | .operator ";" => pure [[.quoted [.parameter "@" .plain]]]
        | t =>
          putBack t
          pure [[.quoted [.parameter "@" .plain]]]
      expect n .later (.keyword "do")
      let b ← body
      expect n .inside (.keyword "done")
      redirected n before (.each before name words b)
    | .keyword "case" =>
      let subject ← match ← token (word n) .inside n with
        | .word w => pure w
        | t => unexpected t (some (Token.word []).shown)
      expect n .later (.keyword "in")
      redirected n before (.branch before subject (← branches n []))
    | .operator "(" =>
      let b ← body
      expect n .inside (.operator ")")
      let rs ← redirections n .command []
      return .subshell before b rs
    | .keyword "\x7b" =>
      let b ← body
      expect n .inside (.keyword "\x7d")
      redirected n before b
    | .word w =>
      putBack (.word w)
      simple n (← get).line true [] [] []
    | .redirection stream o =>
      putBack (.redirection stream o)
      simple n (← get).line true [] [] []
    | t => unexpected t none

/-- The rest of a choice behind its first word. -/
def choice : Nat → Parse Command
  | 0 => unexpected .endOfText none
  | n + 1 => do
    let c := (← list n false false).getD nothing
    expect n .inside (.keyword "then")
    let yes := (← list n false false).getD nothing
    match ← token (word n) .inside n with
    | .keyword "elif" => return .choice c yes (some (← choice n))
    | .keyword "else" =>
      let no ← list n false false
      expect n .inside (.keyword "fi")
      return .choice c yes no
    | .keyword "fi" => return .choice c yes none
    | t => unexpected t (some (Token.keyword "fi").shown)

/-- The words that a loop goes through, up to the end of the line. -/
def members : Nat → List Word → Parse (List Word)
  | 0, _ => unexpected .endOfText none
  | n + 1, done => do
    match ← token (word n) .inside n with
    | .word w => members n (done ++ [w])
    | .newline =>
      documents (word n)
      return done
    | .operator ";" => return done
    | t => unexpected t none

/-- The branches behind those in `done`, up to the word that ends them. -/
def branches : Nat → List (List Word × Option Command) →
    Parse (List (List Word × Option Command))
  | 0, _ => unexpected .endOfText none
  | n + 1, done => do
    let place : Place := { passesLines := true, reserves := true }
    match ← token (word n) place n with
    | .keyword "esac" => return done
    | t =>
      if !(t matches .operator "(") then putBack t
      let ps ← patterns n []
      let b ← list n false true
      let done := done ++ [(ps, b)]
      match ← token (word n) place n with
      | .keyword "esac" => return done
      | .operator ";;" => branches n done
      | t => unexpected t (some (Token.operator ";;").shown)

/-- The patterns of a branch, up to its parenthesis. -/
def patterns : Nat → List Word → Parse (List Word)
  | 0, _ => unexpected .endOfText none
  | n + 1, done => do
    let w ← match ← token (word n) .inside n with
      | .word w => pure w
      | .keyword k => pure [.text k]
      | _ => pure []
    match ← token (word n) .inside n with
    | .operator "|" => patterns n (done ++ [w])
    | .operator ")" => return done ++ [w]
    | t => unexpected t (some (Token.operator ")").shown)

/-- A redirection behind its sign. -/
def target : Nat → Option Nat → String → Parse Redirection
  | 0, _, _ => unexpected .endOfText none
  | n + 1, stream, sign => do
    let isDocument := sign = "<<" ∨ sign = "<<-"
    let t ← if isDocument then rawToken (fun _ => word n .marker) n else token (word n) .inside n
    match t with
    | .word w =>
      if isDocument then
        let number := (← get).nextDocument
        let (text, expands) := marker w
        let p : Pending := { number, marker := text, dropsTabs := sign == "<<-", expands }
        modify fun k => { k with nextDocument := number + 1, pending := k.pending ++ [p] }
        return .document (stream.getD 0) number
      else if sign = ">&" ∨ sign = "<&" then
        return .copy (stream.getD (if sign = "<&" then 0 else 1)) w
      else
        let usual := if sign = "<" ∨ sign = "<>" then 0 else 1
        return .file (stream.getD usual) (opening sign) w
    | t => unexpected t none

/-- Redirections behind a command. -/
def redirections : Nat → Place → List Redirection → Parse (List Redirection)
  | 0, _, _ => unexpected .endOfText none
  | n + 1, place, done => do
    match ← token (word n) place n with
    | .redirection stream sign => redirections n .inside (done ++ [← target n stream sign])
    | t =>
      putBack t
      return done

/-- A command with the redirections behind it. -/
def redirected : Nat → Nat → Command → Parse Command
  | 0, _, _ => unexpected .endOfText none
  | n + 1, line, body => do
    match ← redirections n .command [] with
    | [] => return body
    | rs => return .redirected line body rs

/-- The rest of a simple command; whether assignments may still follow. -/
def simple : Nat → Nat → Bool → List (String × Word) → List Word → List Redirection →
    Parse Command
  | 0, _, _, _, _, _ => unexpected .endOfText none
  | n + 1, line, atFront, assignments, words, rs => do
    match ← token (word n) { replaces := atFront } n with
    | .word w =>
      match if atFront then assigned? w else none with
      | some a => simple n line true (assignments ++ [a]) words rs
      | none => simple n line false assignments (words ++ [w]) rs
    | .redirection stream sign =>
      simple n line atFront assignments words (rs ++ [← target n stream sign])
    | .operator "(" =>
      match words, assignments, rs with
      | [w], [], [] =>
        expect n .inside (.operator ")")
        match bare? w with
        | some name =>
          if isName name && !specialNames.contains name then
            let line := (← get).line
            return .define line name (← command n .later)
          else throw .badFunctionName
        | none => throw .badFunctionName
      | _, _, _ =>
        putBack (.operator "(")
        return .simple line assignments words rs
    | t =>
      putBack t
      return .simple line assignments words rs

end

/-- Reads the commands of the next line, with those further lines that they take. -/
def line : Parse (Option Command) := do
  let n := 8 * (← rest).length + 64
  list n true true

end TestFleet.Shell.Parse
