import TestFleet.Shell.Regex
import TestFleet.Shell.Utility.Streams

/-!
# Programs on expressions

A program that calculates with words, and one that picks the lines that match regular expressions.
-/

namespace TestFleet.Shell.Utility

/-! ## Calculation -/

/-- Reads words off the front and calculates with them, or says what is wrong. -/
abbrev Words := EStateM String (List String)

namespace Words

/-- A word as a number. -/
def number (s : String) : Words Int :=
  match if s.startsWith "+" then none else whole? s with
  | some n => return n
  | none => throw "non-integer argument"

/-- Whether a value stands for nothing: it is empty or zero. -/
def isNothing (s : String) : Bool := s == "" || whole? s == some 0

/-- The text that a regular expression matches at the beginning of another one: what its first group
matches, or how long it is. -/
def matched (s r : String) : Words String := do
  match Regex.ofText {} r with
  | .error what => throw what
  | .ok regex =>
    let hasGroup := 1 < (r.splitOn "\\(").length
    match regex.matchAt? { rest := s.toList } with
    | none => return if hasGroup then "" else "0"
    | some q =>
      return if hasGroup then String.ofList ((q.groups.lookup 1).getD [])
        else Text.decimal q.position

/-- The results of an operator. -/
def apply (o a b : String) : Words String := do
  let truth (x : Bool) : String := if x then "1" else "0"
  let compared : Ordering := match whole? a, whole? b with
    | some x, some y => compare x y
    | _, _ => compare a b
  match o with
  | "|" => return if !isNothing a then a else if !isNothing b then b else "0"
  | "&" => return if isNothing a ∨ isNothing b then "0" else a
  | "<" => return truth (compared == .lt)
  | "<=" => return truth (compared != .gt)
  | "=" | "==" => return truth (compared == .eq)
  | "!=" => return truth (compared != .eq)
  | ">=" => return truth (compared != .lt)
  | ">" => return truth (compared == .gt)
  | ":" => matched a b
  | _ =>
    let x ← number a
    let y ← number b
    if o = "+" then return shownInt (x + y)
    else if o = "-" then return shownInt (x - y)
    else if o = "*" then return shownInt (x * y)
    else if y = 0 then throw "division by zero"
    else return shownInt (if o = "/" then Int.tdiv x y else Int.tmod x y)

/-- The operators, those that bind more tightly later. -/
def ranks : List (List String) := [["|"], ["&"], ["<", "<=", "=", "==", "!=", ">=", ">"],
  ["+", "-"], ["*", "/", "%"], [":"]]

/-- The next word, which has to be there behind the word `before`. -/
def next (before : String) : Words String := do
  match ← get with
  | w :: ws =>
    set ws
    return w
  | [] => throw ("syntax error: missing argument after '" ++ before ++ "'")

mutual

/-- An operand that no operator stands around. -/
def operand : Nat → String → Words String
  | 0, _ => throw "syntax error"
  | n + 1, before => do
    let w ← next before
    match w with
    | "(" =>
      let v ← ranked n "(" ranks
      match ← get with
      | ")" :: ws =>
        set ws
        return v
      | [] => throw ("syntax error: expecting ')' after '" ++ v ++ "'")
      | w :: _ => throw ("syntax error: expecting ')' instead of '" ++ w ++ "'")
    | ")" => throw "syntax error: unexpected ')'"
    | "+" => next "+"
    | "length" => return Text.decimal (← operand n w).length
    | "match" =>
      let s ← operand n w
      matched s (← operand n s)
    | "index" =>
      let s ← operand n w
      let among := (← operand n s).toList
      let i := s.toList.findIdx among.contains
      return Text.decimal (if i < s.length then i + 1 else 0)
    | "substr" =>
      let s ← operand n w
      let first ← operand n s
      let count ← operand n first
      return match whole? first, whole? count with
        | some i, some k =>
          if i ≤ 0 ∨ k ≤ 0 then ""
          else ((s.drop (i.toNat - 1)).take k.toNat).toString
        | _, _ => ""
    | _ => return w

/-- Operands joined by operators of some ranks. -/
def ranked : Nat → String → List (List String) → Words String
  | 0, _, _ => throw "syntax error"
  | n + 1, before, [] => operand n before
  | n + 1, before, os :: later => do
    let a ← ranked n before later
    rankedFrom n a os later

/-- The operators of a rank behind an operand. -/
def rankedFrom : Nat → String → List String → List (List String) → Words String
  | 0, _, _, _ => throw "syntax error"
  | n + 1, a, os, later => do
    match ← get with
    | o :: ws =>
      if os.contains o then
        set ws
        let b ← ranked n o later
        rankedFrom n (← apply o a b) os later
      else return a
    | [] => return a

end

end Words

def expr : Program := fun words => do
  let words := if words.head? = some "--" then words.tail else words
  if words.isEmpty then
    complainOfCall "missing operand"
    return 2
  let whole : Words String := do
    let v ← Words.ranked (16 * words.length + 64) "" Words.ranks
    match ← get with
    | [] => return v
    | w :: _ => throw ("syntax error: unexpected argument '" ++ w ++ "'")
  match whole.run words with
  | .ok v _ =>
    let status ← say (v ++ "\n")
    return if Words.isNothing v then 1 else status
  | .error what _ =>
    complain what
    return 2

/-! ## Lines that match -/

/-- Complains of how `grep` was called. -/
def complainOfGrep : Action Nat := do
  let name := (← get).name
  let _ ← Action.write 2 ("Usage: " ++ name ++ " [OPTION]... PATTERNS [FILE]...\nTry '" ++ name ++
    " --help' for more information.\n")
  return 2

/-- The matches in a line, one behind the other, of which there are at most `n`. -/
def matchesIn (r : Regex) : Nat → Option Char → List Char → List String
  | 0, _, _ => []
  | n + 1, previous, cs =>
    match r.search previous [] cs with
    | none => []
    | some m =>
      match m.text, m.behind with
      | [], [] => []
      | [], c :: cs => matchesIn r n (some c) cs
      | text, behind => String.ofList text :: matchesIn r n text.getLast? behind

/-- A text in which no character has a meaning of its own. -/
def quotedRegex (s : String) : String :=
  String.ofList (s.toList.flatMap fun c =>
    if "\\.[]*^$".toList.contains c then ['\\', c] else [c])

def grep : Program := fun words => do
  let names := [("extended-regexp", 'E'), ("fixed-strings", 'F'), ("invert-match", 'v'),
    ("count", 'c'), ("ignore-case", 'i'), ("line-number", 'n'), ("quiet", 'q'), ("silent", 'q'),
    ("only-matching", 'o'), ("files-with-matches", 'l'), ("word-regexp", 'w'),
    ("line-regexp", 'x'), ("regexp", 'e'), ("no-messages", 's'), ("no-filename", 'h'),
    ("with-filename", 'H'), ("max-count", 'm')]
  match Options.read ⟨"EFGvcinqole:wxshHm:arU", names⟩ words with
  | .error what =>
    complain what
    complainOfGrep
  | .ok o =>
    let given := (o.given.filter (·.1 == 'e')).map (·.2)
    let texts := if given.isEmpty then o.operands.take 1 else given
    let paths := if given.isEmpty then o.operands.drop 1 else o.operands
    if texts.isEmpty then return ← complainOfGrep
    let dialect : Regex.Dialect := { isExtended := o.has 'E', ignoresCase := o.has 'i' }
    let wrap (t : String) : String :=
      let (a, z) := if dialect.isExtended then ("(", ")") else ("\\(", "\\)")
      if o.has 'x' then "^" ++ a ++ t ++ z ++ "$"
      else if o.has 'w' then "\\<" ++ a ++ t ++ z ++ "\\>" else t
    let each := (texts.flatMap (·.splitOn "\n")).map fun t =>
      Regex.ofText dialect (wrap (if o.has 'F' then quotedRegex t else t))
    match each.mapM id with
    | .error what =>
      complain what
      return 2
    | .ok [] => return 1
    | .ok (r :: rs) =>
      let r := rs.foldl Regex.either r
      let hasNames := o.has 'H' || (1 < paths.length && !o.has 'h')
      let mut found := false
      let mut failed := false
      for path in if paths.isEmpty then ["-"] else paths do
        match ← contentAt path with
        | .error fault =>
          if !o.has 's' then complain (unreadable path fault)
          failed := true
        | .ok s =>
          let title := if path = "-" then "(standard input)" else path
          let front := if hasNames then title ++ ":" else ""
          let numbered := (linesOf s).mapIdx fun i l => (i + 1, l)
          let kept := numbered.filter fun x => (r.find? x.2.toList).isSome != o.has 'v'
          let kept := kept.take (((o.value? 'm') >>= natural?).getD kept.length)
          if !kept.isEmpty then found := true
          if o.has 'q' then pure ()
          else if o.has 'l' then
            if !kept.isEmpty then let _ ← say (title ++ "\n")
          else if o.has 'c' then let _ ← say (front ++ Text.decimal kept.length ++ "\n")
          else
            let shown := kept.flatMap fun (i, l) =>
              let front := front ++ if o.has 'n' then Text.decimal i ++ ":" else ""
              if o.has 'o' then
                (matchesIn r (l.length + 1) none l.toList).map (front ++ ·)
              else [front ++ l]
            let _ ← say (ofLines shown)
      return if found ∧ (o.has 'q' ∨ !failed) then 0 else if failed then 2 else 1

end TestFleet.Shell.Utility
