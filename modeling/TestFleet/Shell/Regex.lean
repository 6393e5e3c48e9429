import TestFleet.Shell.Pattern

/-!
# Regular expressions

Texts that describe texts, in two dialects: in the basic one most operators stand behind a
backslash, in the extended one they stand alone. Of the matches in a text the first one counts, and
of those that begin there the longest.
-/

namespace TestFleet.Shell

/-- A regular expression. -/
inductive Regex where
  | nothing
  | character (isNegated : Bool) (members : List Char)
  | start
  | stop
  /-- Where a word begins, where one ends, or either. -/
  | edge (begins ends : Bool)
  | group (number : Nat) (r : Regex)
  /-- What a group matched before. -/
  | same (number : Nat)
  | sequence (first second : Regex)
  | either (first second : Regex)
  | times (r : Regex) (least : Nat) (most : Option Nat)
  deriving Repr

namespace Regex

/-! ## Matching -/

/-- A place in a text. -/
structure Place where
  position : Nat := 0
  previous : Option Char := none
  rest : List Char
  /-- What groups matched: the place where each begins, and the text. -/
  groups : List (Nat × List Char) := []

def isWordPart (c : Option Char) : Bool := c.any isNamePart

/-- Places without those of a position that is there before. -/
def distinct (ps : List Place) : List Place :=
  (ps.foldl (fun (seen : List Nat × List Place) p =>
    if seen.1.contains p.position then seen else (p.position :: seen.1, p :: seen.2))
    ([], [])).2.reverse

/-- The places where matches that begin at a place end; a bound on the steps is taken. -/
def ends : Nat → Regex → Place → List Place
  | 0, _, _ => []
  | n + 1, r, p =>
    match r with
    | nothing => [p]
    | character isNegated members =>
      match p.rest with
      | [] => []
      | c :: cs =>
        if members.contains c != isNegated then
          [{ p with position := p.position + 1, previous := some c, rest := cs }]
        else []
    | start => if p.previous.isNone then [p] else []
    | stop => if p.rest.isEmpty then [p] else []
    | edge begins ends =>
      let before := isWordPart p.previous
      let behind := isWordPart p.rest.head?
      if begins && !before && behind || ends && before && !behind then [p] else []
    | group number r =>
      (ends n r p).map fun q =>
        let text := p.rest.take (q.position - p.position)
        { q with groups := (number, text) :: q.groups.filter (·.1 ≠ number) }
    | same number =>
      match p.groups.lookup number with
      | none => []
      | some text =>
        if text.isPrefixOf p.rest then
          [{ p with
            position := p.position + text.length
            previous := text.getLast?.or p.previous
            rest := p.rest.drop text.length }]
        else []
    | sequence a b => distinct ((ends n a p).flatMap (ends n b))
    | either a b => distinct (ends n a p ++ ends n b p)
    | times r least most =>
      let more := if most = some 0 then [] else
        ((ends n r p).filter fun q => p.position < q.position || 0 < least).flatMap
          (ends n (times r (least - 1) (most.map (· - 1))))
      distinct (if least = 0 then more ++ [p] else more)

/-- A match: what is before it, what it matches, what groups match, and what is behind it. -/
structure Match where
  before : List Char
  text : List Char
  groups : List (Nat × List Char)
  behind : List Char

/-- The longest match that begins at a place. -/
def matchAt? (r : Regex) (p : Place) : Option Place :=
  (ends (4 * p.rest.length + 1000) r p).foldl (fun best q =>
    match best with
    | none => some q
    | some b => some (if b.position < q.position then q else b)) none

/-- The first match in a text behind the character `previous`, from its place on. -/
def search (r : Regex) (previous : Option Char) : List Char → List Char → Option Match
  | before, cs =>
    match r.matchAt? { previous := before.head?.or previous, rest := cs } with
    | some q => some ⟨before.reverse, cs.take q.position, q.groups, q.rest⟩
    | none =>
      match cs with
      | [] => none
      | c :: cs => search r previous (c :: before) cs

/-- The first match in a text. -/
def find? (r : Regex) (s : List Char) : Option Match := r.search none [] s

/-! ## Reading -/

/-- How regular expressions are written. -/
structure Dialect where
  isExtended : Bool := false
  ignoresCase : Bool := false

/-- A place in the text of a regular expression. -/
structure Reading where
  rest : List Char
  groups : Nat := 0
  /-- How many groups are open. -/
  depth : Nat := 0

/-- Reads a regular expression, or says why that cannot be done. -/
abbrev Reader := EStateM String Reading

/-- All characters of a text of bytes. -/
def bytesWhere (p : Char → Bool) : List Char := ((List.range 256).map Char.ofNat).filter p

/-- The set of given characters. -/
def among (d : Dialect) (isNegated : Bool) (members : List Char) : Regex :=
  character isNegated (if d.ignoresCase then
      members ++ members.map Char.toLower ++ members.map Char.toUpper
    else members)

/-- Takes the operator that `c` writes off the front, behind a backslash in the basic dialect. -/
def operator (d : Dialect) (c : Char) : Reader Bool := do
  let k ← get
  match d.isExtended, k.rest with
  | true, e :: rest | false, '\\' :: e :: rest =>
    if e = c then
      set { k with rest }
      return true
    else return false
  | _, _ => return false

/-- What is said of a set without an end. -/
def openSet : String := "Unmatched [, [^, [:, [., or [="

/-- Reads the members of a set up to its end, of which there are at most `n`. -/
def members : Nat → Bool → List Char → Reader (List Char)
  | 0, _, _ => throw openSet
  | n + 1, isFirst, done => do
    let k ← get
    match k.rest with
    | [] => throw (if isFirst then "Invalid regular expression" else openSet)
    | '[' :: ':' :: rest =>
      let name := rest.takeWhile (· != ':')
      match rest.drop name.length, Pattern.kind? (String.ofList name) with
      | ':' :: ']' :: rest, some p =>
        set { k with rest }
        members n false (done ++ bytesWhere p)
      | ':' :: ']' :: _, none => throw "Invalid character class name"
      | _, _ => throw openSet
    | a :: '-' :: b :: rest =>
      if a = ']' ∧ !isFirst then
        set { k with rest := '-' :: b :: rest }
        return done
      else if b = ']' then
        set { k with rest := '-' :: b :: rest }
        members n false (a :: done)
      else if b < a then throw "Invalid range end"
      else
        set { k with rest }
        members n false (done ++ bytesWhere fun c => a ≤ c && c ≤ b)
    | a :: rest =>
      set { k with rest }
      if a = ']' ∧ !isFirst then return done else members n false (a :: done)

/-- The numbers of a bounded repetition and what is behind its end, if it has one. -/
def bounds? (d : Dialect) (cs : List Char) : Option (Nat × Option Nat × List Char) :=
  let number (cs : List Char) : Option Nat × List Char :=
    let ds := cs.takeWhile Char.isDigit
    (if ds.isEmpty then none else some (digits 10 0 ds).1, cs.drop ds.length)
  let (least, rest) := number cs
  let (most, rest) := match rest with
    | ',' :: rest => number rest
    | _ => (least, rest)
  let isEmpty := least.isNone && most.isNone
  match d.isExtended, rest with
  | true, '\x7d' :: rest | false, '\\' :: '\x7d' :: rest =>
    if isEmpty then none else some (least.getD 0, most, rest)
  | _, _ => none

mutual

/-- Alternatives, up to the end of the group. -/
def alternatives (d : Dialect) : Nat → Reader Regex
  | 0 => throw "Regular expression too big"
  | n + 1 => do
    let first ← sequenceFrom d n nothing
    if ← operator d '|' then return either first (← alternatives d n) else return first

/-- The parts behind those in `done`, up to the end of the alternative. -/
def sequenceFrom (d : Dialect) : Nat → Regex → Reader Regex
  | 0, _ => throw "Regular expression too big"
  | n + 1, done => do
    let k ← get
    let isFirst := done matches nothing
    let ended := match d.isExtended, k.rest with
      | _, [] => true
      | true, c :: _ => c == '|' || c == ')' && 0 < k.depth
      | false, '\\' :: c :: _ => c == '|' || c == ')'
      | _, _ => false
    if ended then
      if !d.isExtended ∧ k.depth = 0 ∧ k.rest.take 2 = ['\\', ')'] then throw "Unmatched ) or \\)"
      return done
    else
      let a ← atom d n isFirst
      let a ← repeated d n a
      sequenceFrom d n (if isFirst then a else sequence done a)

/-- One part. -/
def atom (d : Dialect) : Nat → Bool → Reader Regex
  | 0, _ => throw "Regular expression too big"
  | n + 1, isFirst => do
    if ← operator d '(' then
      let number := (← get).groups + 1
      modify fun k => { k with groups := number, depth := k.depth + 1 }
      let r ← alternatives d n
      if !(← operator d ')') then throw "Unmatched ( or \\("
      modify fun k => { k with depth := k.depth - 1 }
      return group number r
    else
      let k ← get
      let go (r : Regex) (rest : List Char) : Reader Regex := do
        set { k with rest }
        return r
      match k.rest with
      | [] => return nothing
      | '.' :: rest => go (character true []) rest
      | '[' :: '^' :: rest =>
        set { k with rest }
        return among d true (← members (rest.length + 1) true [])
      | '[' :: rest =>
        set { k with rest }
        return among d false (← members (rest.length + 1) true [])
      | '^' :: rest => go (if d.isExtended ∨ isFirst then start else among d false ['^']) rest
      | '$' :: rest =>
        let atEnd := rest.isEmpty || rest.take 2 == ['\\', ')'] || rest.take 2 == ['\\', '|']
        go (if d.isExtended ∨ atEnd then stop else among d false ['$']) rest
      | '*' :: rest =>
        if d.isExtended then atom d n isFirst else go (among d false ['*']) rest
      | ['\\'] => throw "Trailing backslash"
      | '\\' :: c :: rest =>
        match c with
        | 'w' => go (character false (bytesWhere isNamePart)) rest
        | 'W' => go (character true (bytesWhere isNamePart)) rest
        | 's' => go (character false (bytesWhere isSpace)) rest
        | 'S' => go (character true (bytesWhere isSpace)) rest
        | 'b' => go (edge true true) rest
        | '<' => go (edge true false) rest
        | '>' => go (edge false true) rest
        | 'n' => go (character false ['\n']) rest
        | 't' => go (character false ['\t']) rest
        | _ =>
          if c.isDigit ∧ c ≠ '0' then
            let number := c.toNat - 48
            if k.groups < number then throw "Invalid back reference" else go (same number) rest
          else go (among d false [c]) rest
      | c :: rest => go (among d false [c]) rest

/-- A part with the repetitions behind it. -/
def repeated (d : Dialect) : Nat → Regex → Reader Regex
  | 0, r => return r
  | n + 1, r => do
    let k ← get
    match k.rest with
    | '*' :: rest =>
      if r matches start then return r
      set { k with rest }
      repeated d n (times r 0 none)
    | _ =>
      if ← operator d '+' then repeated d n (times r 1 none)
      else if ← operator d '?' then repeated d n (times r 0 (some 1))
      else if ← operator d '\x7b' then
        match bounds? d (← get).rest with
        | some (least, most, rest) =>
          modify fun k => { k with rest }
          repeated d n (times r least most)
        | none =>
          if d.isExtended then return sequence r (among d false ['\x7b'])
          else throw "Unmatched \\\x7b"
      else return r

end

/-- Reads a regular expression. -/
def ofText (d : Dialect) (s : String) : Except String Regex :=
  let whole : Reader Regex := do
    let r ← alternatives d (4 * s.length + 16)
    match (← get).rest with
    | [] => return r
    | _ => throw "Unmatched ) or \\)"
  match whole.run { rest := s.toList } with
  | .ok r _ => .ok r
  | .error what _ => .error what

end Regex

end TestFleet.Shell
