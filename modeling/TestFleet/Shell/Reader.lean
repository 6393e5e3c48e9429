import TestFleet.Shell.Cursor

/-!
# Reading words

A word ends at a blank, an operator or the end of a line, unless that is quoted. What stands behind
a dollar sign or between back quotes is read along with it; the reader of words is given one for the
commands that may stand there.
-/

namespace TestFleet.Shell.Parse

/-- What the next characters belong to. -/
inductive Within where
  | word
  /-- The word that ends a document. -/
  | marker
  /-- Double quotes, which may stand within braces, and those in a document. -/
  | quotes (inBraces inDocument : Bool)
  /-- The word of a parameter, which may be quoted as a whole. -/
  | braces (isQuoted inDocument : Bool)
  /-- A calculation, with so many parentheses open. -/
  | arithmetic (depth : Nat)
  /-- A document; whether a line of it begins. -/
  | document (marker : List Char) (dropsTabs atStart : Bool)
  deriving DecidableEq

namespace Within

/-- Whether blanks and single quotes have no meaning. -/
def isQuoted : Within → Bool
  | word | marker | braces false _ => false
  | _ => true

/-- Whether a backslash takes the meaning from a character. -/
def escapes (w : Within) (c : Char) : Bool :=
  match w with
  | word | marker | braces false _ => true
  | quotes inBraces _ => "\\`$\"".toList.contains c || inBraces && c == '\x7d'
  | braces true _ => "\\`$\"\x7d".toList.contains c
  | arithmetic _ => "\\`$\"".toList.contains c
  | document .. => "\\`$".toList.contains c

/-- The characters that stand for themselves. -/
def isOrdinary (w : Within) (c : Char) : Bool :=
  let special := match w with
    | word => " \t\n&|;<>()\\'\"$`"
    | marker => " \t\n&|;<>()\\'\""
    | quotes .. => "\n\\\"$`"
    | braces false _ => "\n\\'\"$`\x7d"
    | braces true _ => "\n\\\"$`\x7d"
    | arithmetic _ => "\n\\$`()"
    | document .. => "\n\\$`"
  !special.toList.contains c

/-- Whether a document is around it. -/
def inDocument : Within → Bool
  | document .. | quotes _ true | braces _ true => true
  | _ => false

/-- What is missing where the text ends. A document ends there too, and with it what is quoted. -/
def fault? : Within → Option SyntaxFault
  | word | marker | document .. => none
  | quotes _ false | braces true false => some .unterminated
  | quotes _ true | braces _ _ => some (.missing "\x7d")
  | arithmetic _ => some (.missing "))")

end Within

/-- The parameters that are named by one character. -/
def isSpecial (c : Char) : Bool := c.isDigit || "#?$!-*@".toList.contains c

/-- Takes the text between back quotes off the front, of which `done` was read. -/
def backquoted (inQuotes : Bool) (done : List Char) :
    List Char → Nat → Option (List Char × List Char × Nat)
  | [], _ => none
  | '\x60' :: cs, n => some (done.reverse, cs, n)
  | '\\' :: '\n' :: cs, n => backquoted inQuotes done cs (n + 1)
  | '\\' :: c :: cs, n =>
    let done := if "\\`$".toList.contains c || inQuotes && c == '"' then c :: done
      else c :: '\\' :: done
    backquoted inQuotes done cs n
  | c :: cs, n => backquoted inQuotes (c :: done) cs (if c = '\n' then n + 1 else n)

/-- The text behind the marker of a document at the place, if it is there. -/
def afterMarker? (marker cs : List Char) : Option (List Char) :=
  if cs.take marker.length = marker then
    match cs.drop marker.length with
    | [] => some []
    | '\n' :: cs => some cs
    | _ => none
  else none

/-- Reads commands off a text of their own, and goes on where this one was. What is behind the
commands in that text is passed over. -/
def nested (text : List Char) (commands : Parse (Option Command)) : Parse (Option Command) := do
  let k ← get
  set { k with rest := text, line := 1, pending := [] }
  let c ← commands
  modify fun k' => { k' with rest := k.rest, line := k.line, pending := k.pending, ahead := none }
  return c

mutual

/-- The pieces up to an end, behind those in `done`. -/
def pieces (closed commands : Parse (Option Command)) :
    Nat → Within → List Piece → Parse (List Piece)
  | 0, _, _ => throw .unterminated
  | n + 1, w, done => do
    let plain (s : String) : Piece := if w.isQuoted then .literal s else .text s
    if let .document marker dropsTabs true := w then
      if dropsTabs then moveTo ((← rest).dropWhile (· == '\t'))
      if let some cs := afterMarker? marker (← rest) then
        moveTo cs
        countLine
        return done.reverse
      else pieces closed commands n (.document marker dropsTabs false) done
    else
    let s ← takeWhile w.isOrdinary
    if s ≠ "" then pieces closed commands n w (plain s :: done)
    else match ← rest with
    | [] =>
      match w.fault? with
      | some fault => throw fault
      | none => return done.reverse
    | '\n' :: cs =>
      match w with
      | .word | .marker => return done.reverse
      | .document marker dropsTabs _ =>
        moveTo cs
        countLine
        pieces closed commands n (.document marker dropsTabs true) (plain "\n" :: done)
      | w =>
        moveTo cs
        countLine
        pieces closed commands n w (plain "\n" :: done)
    | ['\\'] =>
      moveTo []
      pieces closed commands n w (.literal "\\" :: done)
    | '\\' :: '\n' :: cs =>
      moveTo cs
      countLine
      pieces closed commands n w done
    | '\\' :: c :: cs =>
      moveTo cs
      let s := if w.escapes c then String.singleton c else String.ofList ['\\', c]
      pieces closed commands n w (.literal s :: done)
    | '\'' :: cs =>
      let s := cs.takeWhile (· != '\'')
      modify fun k => { k with line := k.line + s.count '\n', rest := cs.drop (s.length + 1) }
      if cs.length = s.length then throw .unterminated
      pieces closed commands n w (.literal (String.ofList s) :: done)
    | '"' :: cs =>
      moveTo cs
      match w with
      | .quotes .. => return done.reverse
      | w =>
        let inner ← pieces closed commands n (.quotes (w matches .braces ..) w.inDocument) []
        pieces closed commands n w (.quoted inner :: done)
    | '\x7d' :: cs =>
      moveTo cs
      return done.reverse
    | '$' :: cs =>
      moveTo cs
      let p ← dollar closed commands n w
      pieces closed commands n w (p :: done)
    | '\x60' :: cs =>
      match backquoted w.isQuoted [] cs 0 with
      | none =>
        modify fun k => { k with line := k.line + cs.count '\n' }
        throw .backquote
      | some (text, cs, lines) =>
        modify fun k => { k with rest := cs, line := k.line + lines }
        let c ← nested text commands
        pieces closed commands n w (.output c :: done)
    | '(' :: cs =>
      match w with
      | .arithmetic depth =>
        moveTo cs
        pieces closed commands n (.arithmetic (depth + 1)) (plain "(" :: done)
      | _ => return done.reverse
    | ')' :: cs =>
      match w with
      | .arithmetic 0 =>
        moveTo cs
        if ← accept ')' then return done.reverse
        else pieces closed commands n w (plain ")" :: done)
      | .arithmetic (depth + 1) =>
        moveTo cs
        pieces closed commands n (.arithmetic depth) (plain ")" :: done)
      | _ => return done.reverse
    | _ => return done.reverse

/-- What stands behind a dollar sign. -/
def dollar (closed commands : Parse (Option Command)) : Nat → Within → Parse Piece
  | 0, _ => throw .unterminated
  | n + 1, w => do
    match ← peek? with
    | some '(' =>
      let _ ← next?
      if ← accept '(' then return .arithmetic (← pieces closed commands n (.arithmetic 0) [])
      else
        let pending := (← get).pending
        modify fun k => { k with pending := [] }
        let c ← closed
        modify fun k => { k with pending }
        return .output c
    | some '\x7b' =>
      let _ ← next?
      braced closed commands n w
    | some c =>
      if isNameStart c then return .parameter (← takeJoined isNamePart n) .plain
      else if isSpecial c then
        let _ ← next?
        return .parameter (String.singleton c) .plain
      else return if w.isQuoted then .literal "$" else .text "$"
    | none => return if w.isQuoted then .literal "$" else .text "$"

/-- What stands behind an opening brace. -/
def braced (closed commands : Parse (Option Command)) : Nat → Within → Parse Piece
  | 0, _ => throw .unterminated
  | n + 1, w => do
    let word (isQuoted : Bool) := pieces closed commands n (.braces isQuoted w.inDocument) []
    let bad (name : String) : Parse Piece := do
      let _ ← word w.isQuoted
      return .parameter name .bad
    let operated (name : String) : Parse Piece := do
      match ← next? with
      | some '\x7d' => return .parameter name .plain
      | some '%' =>
        let longest ← accept '%'
        return .parameter name (.trim false longest (← word false))
      | some '#' =>
        let longest ← accept '#'
        return .parameter name (.trim true longest (← word false))
      | some c =>
        let emptyToo := c == ':'
        let operator ← if emptyToo then next? else pure (some c)
        match operator with
        | some '-' => return .parameter name (.orElse emptyToo (← word w.isQuoted))
        | some '=' => return .parameter name (.assign emptyToo (← word w.isQuoted))
        | some '?' => return .parameter name (.demand emptyToo (← word w.isQuoted))
        | some '+' => return .parameter name (.instead emptyToo (← word w.isQuoted))
        | _ => bad name
      | none => bad name
    let measured (name : String) : Parse Piece := do
      if ← accept '\x7d' then return .parameter name .length else bad name
    match ← next? with
    | some '#' =>
      match ← peek? with
      | some c =>
        if isNameStart c then measured (← takeJoined isNamePart n)
        else if c.isDigit then measured (← takeJoined Char.isDigit n)
        else
          let before ← joinLines
          let _ ← next?
          if c ≠ '\x7d' ∧ (← accept '\x7d') then
            if isSpecial c then return .parameter (String.singleton c) .length
            else return .parameter "" .bad
          else
            moveTo before
            operated "#"
      | none => bad ""
    | some c =>
      if isNameStart c then operated (String.singleton c ++ (← takeJoined isNamePart n))
      else if c.isDigit then operated (String.singleton c ++ (← takeJoined Char.isDigit n))
      else if isSpecial c then operated (String.singleton c)
      else if c = '\x7d' then return .parameter "" .bad
      else bad ""
    | none => bad ""

end

end TestFleet.Shell.Parse
