import TestFleet.Shell.Utility.Options

/-!
# Programs on lines

Programs that sort, drop, cut and turn lines, and one that replaces characters.
-/

namespace TestFleet.Shell.Utility

/-- Writes what becomes of the lines in files. -/
def overLines (paths : List String) (f : List String → List String) :
    Action Nat := do
  let (status, s) ← joinedFiles paths
  return max status (← say (ofLines (f (linesOf s))))

/-- Writes the lines of files from the last to the first. -/
def tac : Program := withOptions 1 ⟨"", []⟩ fun o =>
  overLines o.operands List.reverse

/-- Writes the characters of each line from the last to the first. -/
def rev : Program := withOptions 1 ⟨"", []⟩ fun o =>
  overLines o.operands (·.map fun l => String.ofList l.toList.reverse)

/-! ## Order -/

/-- The fields of a line. Without a separator, a field begins with the blanks before it. -/
def sortFields (separator : Option Char) (l : String) : List String :=
  match separator with
  | some c => l.splitOn (String.singleton c)
  | none =>
    let rec go : Nat → List Char → List String
      | 0, _ | _, [] => []
      | n + 1, cs =>
        let blanks := cs.takeWhile fun c => c == ' ' || c == '\t'
        let rest := cs.drop blanks.length
        let field := rest.takeWhile fun c => c != ' ' && c != '\t'
        String.ofList (blanks ++ field) :: go n (rest.drop field.length)
    go (l.length + 1) l.toList

/-- The number that a text begins with, as a count of thousandths of thousandths. -/
def leadingNumber (s : String) : Int :=
  let cs := s.toList.dropWhile isSpace
  let (negative, cs) := match cs with
    | '-' :: cs => (true, cs)
    | cs => (false, cs)
  let whole := cs.takeWhile Char.isDigit
  let behind := match cs.drop whole.length with
    | '.' :: cs => (cs.takeWhile Char.isDigit).take 6
    | _ => []
  let n := (digits 10 0 (whole ++ behind ++ List.replicate (6 - behind.length) '0')).1
  if negative then -n else n

/-- What lines are compared by: the fields from one to another, as numbers or texts. -/
structure SortKey where
  first : Nat := 1
  last : Option Nat := none
  letters : List Char

/-- Reads a key such as `2,3n`, with the letters that hold for keys without any. -/
def SortKey.read (letters : List Char) (s : String) : SortKey :=
  let parts := s.splitOn ","
  let number (t : String) : Nat := (digits 10 0 t.toList).1
  let own := s.toList.filter Char.isAlpha
  { first := number (parts.headD "1")
    last := parts[1]?.map number
    letters := if own.isEmpty then letters else own }

/-- Compares two lines by a key. -/
def SortKey.compare (k : SortKey) (separator : Option Char) (a b : String) : Ordering :=
  let part (l : String) : String :=
    if k.first ≤ 1 ∧ k.last.isNone then l
    else
      let fs := sortFields separator l
      let fs := match k.last with
        | some n => fs.take n
        | none => fs
      (separator.elim "" String.singleton).intercalate (fs.drop (k.first - 1))
  let trimmed (t : String) : String :=
    let t := if k.letters.contains 'b' then String.ofList (t.toList.dropWhile isSpace) else t
    let t := if k.letters.contains 'f' then String.ofList (t.toList.map Char.toUpper) else t
    if k.letters.contains 'd' then
      String.ofList (t.toList.filter fun c => c.isAlphanum || c == ' ' || c == '\t')
    else t
  let found := if k.letters.contains 'n' ∨ k.letters.contains 'g' then
      compareOfLessAndEq (leadingNumber (part a)) (leadingNumber (part b))
    else compareOfLessAndEq (trimmed (part a)) (trimmed (part b))
  if k.letters.contains 'r' then found.swap else found

/-- Sorts the lines of files. -/
def sort : Program :=
  let names := [("reverse", 'r'), ("numeric-sort", 'n'), ("unique", 'u'), ("key", 'k'),
    ("field-separator", 't'), ("ignore-case", 'f'), ("stable", 's')]
  withOptions 2 ⟨"bdfgk:no:rst:uzcC", names⟩ fun o => do
    let paths := if o.operands.isEmpty then ["-"] else o.operands
    let contents ← paths.mapM contentAt
    let faults := (paths.zip contents).filterMap fun (path, content) =>
      match content with
      | .ok _ => none
      | .error fault => some (path, fault)
    if let some (path, fault) := faults.head? then
      complain ((if fault = .isDirectory then "read failed: " else "cannot read: ") ++
        unreadable path fault)
      return 2
    let s := String.join (contents.filterMap Except.toOption)
    let letters := (o.given.map (·.1)).filter "bdfgnr".toList.contains
    let separator := (o.value? 't').bind (·.toList.head?)
    let keys := (o.given.filter (·.1 == 'k')).map fun g => SortKey.read letters g.2
    let keys := if keys.isEmpty then [({ letters } : SortKey)] else keys
    let byKeys (a b : String) : Ordering :=
      keys.foldl (fun found k => found.then (k.compare separator a b)) .eq
    let whole (a b : String) : Ordering :=
      if o.has 'u' ∨ o.has 's' then .eq
      else
        let found := compareOfLessAndEq a b
        if letters.contains 'r' then found.swap else found
    let sorted := (linesOf s).mergeSort fun a b => ((byKeys a b).then (whole a b)).isLE
    let kept := if o.has 'u' then
        (sorted.foldl (fun (done : List String) l =>
          match done with
          | d :: _ => if byKeys d l == .eq then done else l :: done
          | [] => [l]) []).reverse
      else sorted
    say (ofLines kept)

/-! ## Repeated lines -/

/-- Lines that follow one another and are alike, with how many they are. -/
def runs (same : String → String → Bool) (ls : List String) : List (String × Nat) :=
  (ls.foldl (fun (done : List (String × Nat)) l =>
    match done with
    | (d, n) :: rest => if same d l then (d, n + 1) :: rest else (l, 1) :: done
    | [] => [(l, 1)]) []).reverse

/-- Writes one of several lines that are alike. -/
def uniq : Program :=
  let names := [("count", 'c'), ("repeated", 'd'), ("unique", 'u'), ("ignore-case", 'i')]
  withOptions 1 ⟨"cdui", names⟩ fun o => do
    let lower (l : String) := String.ofList (l.toList.map Char.toLower)
    let same (a b : String) : Bool := if o.has 'i' then lower a == lower b else a == b
    overLines (o.operands.take 1) fun ls =>
      let kept := (runs same ls).filter fun (_, n) =>
        (!o.has 'd' || 1 < n) && (!o.has 'u' || n == 1)
      kept.map fun (l, n) =>
        if o.has 'c' then
          let ds := Text.decimal n
          String.ofList (List.replicate (7 - ds.length) ' ') ++ ds ++ " " ++ l
        else l

/-! ## Parts of lines -/

/-- Whether a place is in a list of places and ranges of them. -/
def isListed (ranges : List (Nat × Option Nat)) (i : Nat) : Bool :=
  ranges.any fun (first, last) => first ≤ i && last.all (i ≤ ·)

/-- Reads a list such as `1,3-5,7-`. -/
def readRanges (s : String) : Option (List (Nat × Option Nat)) :=
  (s.splitOn ",").mapM fun part =>
    match part.splitOn "-" with
    | [a] => (natural? a).bind fun n => if n = 0 then none else some (n, some n)
    | [a, b] =>
      let first := if a = "" then some 1 else natural? a
      let last := if b = "" then some none else (natural? b).map some
      if a = "" ∧ b = "" then none else do return (← first, ← last)
    | _ => none

/-- Writes parts of each line: bytes, or fields between separators. -/
def cut : Program :=
  let names := [("fields", 'f'), ("delimiter", 'd'), ("bytes", 'b'), ("characters", 'c'),
    ("only-delimited", 's'), ("output-delimiter", 'o')]
  withOptions 1 ⟨"b:c:d:f:so:", names⟩ fun o => do
    match o.given.find? fun g => g.1 == 'b' || g.1 == 'c' || g.1 == 'f' with
    | none =>
      complainOfCall "you must specify a list of bytes, characters, or fields"
      return 1
    | some (kind, list) =>
      let separator := (o.value? 'd').getD "\t"
      match readRanges list with
      | none =>
        let isZero := (list.splitOn ",").any (·.startsWith "0")
        complainOfCall (if isZero then
            (if kind = 'f' then "fields" else "byte/character positions") ++ " are numbered from 1"
          else "invalid " ++ (if kind = 'f' then "field value" else "byte/character position") ++
            " '" ++ list ++ "'")
        return 1
      | some ranges =>
        if separator.length ≠ 1 then
          complainOfCall "the delimiter must be a single character"
          return 1
        else
          let pick {α : Type} (xs : List α) : List α :=
            ((xs.mapIdx fun i x => (i + 1, x)).filter fun x => isListed ranges x.1).map (·.2)
          overLines o.operands fun ls => ls.filterMap fun l =>
            if kind = 'f' then
              let fs := l.splitOn separator
              if fs.length = 1 then if o.has 's' then none else some l
              else some (((o.value? 'o').getD separator).intercalate (pick fs))
            else some (String.ofList (pick l.toList))

/-! ## Characters -/

/-- The characters of a class. -/
def classOf? (name : String) : Option (List Char) :=
  let all := (List.range 128).map Char.ofNat
  let isGraph (c : Char) : Bool := '!' ≤ c && c ≤ '~'
  match name with
  | "alpha" => some (all.filter Char.isAlpha)
  | "digit" => some (all.filter Char.isDigit)
  | "alnum" => some (all.filter Char.isAlphanum)
  | "upper" => some (all.filter Char.isUpper)
  | "lower" => some (all.filter Char.isLower)
  | "space" => some (all.filter isSpace)
  | "blank" => some [' ', '\t']
  | "punct" => some (all.filter fun c => isGraph c && !c.isAlphanum)
  | "graph" => some (all.filter isGraph)
  | "print" => some (all.filter fun c => isGraph c || c == ' ')
  | "cntrl" => some (all.filter fun c => c < ' ' || c == '\x7f')
  | "xdigit" => some (all.filter fun c => (digit? 16 c).isSome)
  | _ => none

/-- The characters from one to another. -/
def charRange (a b : Char) : List Char :=
  (List.range (b.toNat + 1 - a.toNat)).map fun i => Char.ofNat (a.toNat + i)

/-- The character at the front of a set, and what is behind it. -/
def setChar : List Char → Option (Char × List Char)
  | '\\' :: c :: cs =>
    match c with
    | 'n' => some ('\n', cs)
    | 't' => some ('\t', cs)
    | 'r' => some ('\r', cs)
    | 'a' => some ('\x07', cs)
    | 'b' => some ('\x08', cs)
    | 'f' => some ('\x0c', cs)
    | 'v' => some ('\x0b', cs)
    | _ =>
      let ds := ((c :: cs).take 3).takeWhile fun d => '0' ≤ d && d ≤ '7'
      if ds.isEmpty then some (c, cs)
      else some (Char.ofNat ((digits 8 0 ds).1 % 256), (c :: cs).drop ds.length)
  | c :: cs => some (c, cs)
  | [] => none

/-- The characters of a set such as `a-z[:digit:]`, of at most `n` parts. -/
def setOf : Nat → List Char → List Char
  | 0, _ => []
  | n + 1, cs =>
    let named : Option (List Char × List Char) := match cs with
      | '[' :: ':' :: rest =>
        let name := rest.takeWhile (· != ':')
        match rest.drop name.length with
        | ':' :: ']' :: rest => (classOf? (String.ofList name)).map (·, rest)
        | _ => none
      | _ => none
    match named with
    | some (set, rest) => set ++ setOf n rest
    | none =>
      match setChar cs with
      | none => []
      | some (a, '-' :: rest) =>
        match setChar rest with
        | some (b, rest) => charRange a b ++ setOf n rest
        | none => [a, '-']
      | some (a, rest) => a :: setOf n rest

/-- Replaces characters of a text, drops them, and joins those that are repeated. -/
def translated (drops squeezes : Bool) (from_ : List Char) (target : Option (List Char))
    (s : String) : String :=
  let kept := if drops then s.toList.filter (!from_.contains ·) else s.toList
  let replaced := match if drops then none else target with
    | none => kept
    | some target =>
      let last := List.replicate (from_.length - target.length) (target.getLast?.getD '\x00')
      let table := (from_.zip (target ++ last)).reverse
      kept.map fun c => (table.lookup c).getD c
  let squeezed := if squeezes then target.getD from_ else []
  let joined := replaced.foldl (fun (done : List Char) c =>
    if squeezed.contains c ∧ done.head? = some c then done else c :: done) []
  String.ofList joined.reverse

/-- Replaces or drops the characters of a set, or joins those that are repeated. -/
def tr : Program :=
  let names := [("delete", 'd'), ("squeeze-repeats", 's'), ("complement", 'c')]
  withOptions 1 ⟨"cCdst", names⟩ fun o => do
    let needed := if o.has 'd' != o.has 's' then 1 else 2
    let hint := "\nTry '" ++ (← get).name ++ " --help' for more information.\n"
    match o.operands with
    | first :: others =>
      if others.isEmpty ∧ needed = 2 then
        complain ("missing operand after '" ++ first ++ "'")
        let _ ← Action.write 2 ((if o.has 'd' then
            "Two strings must be given when both deleting and squeezing repeats."
          else "Two strings must be given when translating.") ++ hint)
        return 1
      else if o.has 'd' ∧ needed = 1 ∧ others.length = 1 then
        complain ("extra operand '" ++ others.headD "" ++ "'")
        let _ ← Action.write 2
          ("Only one string may be given when deleting without squeezing repeats." ++ hint)
        return 1
      else if 1 < others.length then
        complainOfCall ("extra operand '" ++ others.getD 1 "" ++ "'")
        return 1
      else
        let listed := setOf (first.length + 1) first.toList
        let from_ := if o.has 'c' ∨ o.has 'C' then
            ((List.range 256).map Char.ofNat).filter (!listed.contains ·)
          else listed
        let target := others.head?.map fun s => setOf (s.length + 1) s.toList
        match ← Action.readAll 0 with
        | .ok s => say (translated (o.has 'd') (o.has 's') from_ target s)
        | .error fault =>
          complain ("read error: " ++ fault.message)
          return 1
    | [] =>
      complainOfCall "missing operand"
      return 1

end TestFleet.Shell.Utility
