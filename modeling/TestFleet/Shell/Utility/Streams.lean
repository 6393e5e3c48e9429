import TestFleet.Shell.Format
import TestFleet.Shell.Utility.Options

/-!
# Programs on streams

Programs that pass on what they read, a part of it, or how much it is, and programs that have
something to write of their own.
-/

namespace TestFleet.Shell.Utility

/-- Writes what is in files. -/
def cat : Program :=
  let names := [("number", 'n'), ("show-ends", 'E'), ("squeeze-blank", 's')]
  withOptions 1 ⟨"benstuvAET", names⟩ fun o => do
    let mut status := 0
    for path in if o.operands.isEmpty then ["-"] else o.operands do
      match ← contentAt path with
      | .error fault =>
        complain (unreadable path fault)
        status := 1
      | .ok s =>
        let shown :=
          if o.has 'n' then
            ofLines ((linesOf s).mapIdx fun i l =>
              let number := Text.decimal (i + 1)
              String.ofList (List.replicate (6 - number.length) ' ') ++ number ++ "\t" ++ l)
          else if o.has 'E' ∨ o.has 'e' ∨ o.has 'A' then s.replace "\n" "$\n"
          else s
        status := max status (← say shown)
    return status

/-! ## Parts -/

/-- How much of a text is meant: so much of it, or all behind or but for so much. -/
structure Amount where
  isBytes : Bool
  sign : Option Char
  count : Nat

/-- Reads an amount, or says what is no number. -/
def Amount.ofOptions (o : Options) : Except String Amount :=
  let isBytes := match o.given.reverse.find? fun g => g.1 == 'c' || g.1 == 'n' with
    | some (c, _) => c == 'c'
    | none => false
  let text := (o.value? (if isBytes then 'c' else 'n')).getD "10"
  let (sign, ds) := match text.toList with
    | '-' :: ds => (some '-', ds)
    | '+' :: ds => (some '+', ds)
    | ds => (none, ds)
  let (n, rest) := digits 10 0 ds
  let factor := match rest with
    | [] => some 1
    | ['b'] => some 512
    | ['k'] | ['K'] => some 1024
    | ['M'] => some 1048576
    | _ => none
  match if ds.head?.any Char.isDigit then factor else none with
  | some k => .ok ⟨isBytes, sign, n * k⟩
  | none => .error ("invalid number of " ++ (if isBytes then "bytes" else "lines") ++ ": '" ++
      text ++ "'")

/-- The parts that amounts count, each line with its end. -/
def Amount.parts (a : Amount) (s : String) : List String :=
  if a.isBytes then s.toList.map String.singleton
  else
    let ls := s.splitOn "\n"
    ls.dropLast.map (· ++ "\n") ++ (ls.getLast?.toList.filter (· ≠ ""))

/-- Writes a part of each file, behind the names of files if there are several. -/
def partOf (part : Amount → String → String) : Program := fun words =>
  -- A number behind a dash is a number of lines, if it stands first.
  let words := match words with
    | [] => []
    | w :: rest =>
      if w.startsWith "-" ∧ 1 < w.length ∧ (w.drop 1).all Char.isDigit then
        ("-n" ++ (w.drop 1).toString) :: rest
      else words
  let names := [("lines", 'n'), ("bytes", 'c'), ("quiet", 'q'), ("silent", 'q'), ("verbose", 'v')]
  withOptions 1 ⟨"c:n:qvzfF", names⟩ (fun o => do
    match Amount.ofOptions o with
    | .error what =>
      complain what
      return 1
    | .ok a =>
      let hasNames := !o.has 'q' && (o.has 'v' || 1 < o.operands.length)
      let mut status := 0
      let mut isFirst := true
      for path in if o.operands.isEmpty then ["-"] else o.operands do
        match ← contentAt path with
        | .error fault =>
          let what := if fault = .isDirectory then "error reading '" ++ path ++ "': "
            else "cannot open '" ++ path ++ "' for reading: "
          complain (what ++ fault.message)
          status := 1
        | .ok s =>
          let title := if path = "-" then "standard input" else path
          let front := if !hasNames then ""
            else (if isFirst then "" else "\n") ++ "==> " ++ title ++ " <==\n"
          status := max status (← say (front ++ part a s))
          isFirst := false
      return status) words

def head : Program := partOf fun a s =>
  let parts := a.parts s
  String.join (parts.take (if a.sign = some '-' then parts.length - a.count else a.count))

def tail : Program := partOf fun a s =>
  let parts := a.parts s
  String.join (parts.drop (if a.sign = some '+' then a.count - 1 else parts.length - a.count))

/-- Writes what is to be read to files too. -/
def tee : Program :=
  withOptions 1 ⟨"ai", [("append", 'a')]⟩ fun o => do
    let text ← match ← Action.readAll 0 with
      | .ok s => pure s
      | .error _ => pure ""
    let mut status := 0
    for path in o.operands do
      match ← Action.openFile (if o.has 'a' then .append else .clobber) path with
      | .error fault =>
        complain (unreadable path fault)
        status := 1
      | .ok place =>
        let _ ← Action.keepingStreams do
          Action.connect 10 (some place)
          Action.write 10 text
    return max status (← say text)

/-! ## Counts -/

/-- The number of lines, words, characters and bytes of a text. -/
def counts (s : String) : List Nat :=
  let continued := (s.toList.filter fun c => c.toNat / 64 == 2).length
  [(s.toList.filter (· == '\n')).length, (wordsOf s).length, s.length - continued, s.length]

/-- Counts what is in files. -/
def wc : Program :=
  let names := [("lines", 'l'), ("words", 'w'), ("chars", 'm'), ("bytes", 'c')]
  withOptions 1 ⟨"lwmcL", names⟩ fun o => do
    let asked := "lwmc".toList.map fun c => o.has c || (o.given.isEmpty && c != 'm')
    let mut rows := #[]
    let mut status := 0
    for path in if o.operands.isEmpty then ["-"] else o.operands do
      match ← contentAt path with
      | .ok s => rows := rows.push (path, counts s)
      | .error fault =>
        complain (unreadable path fault)
        if fault = .isDirectory then rows := rows.push (path, [0, 0, 0, 0])
        status := 1
    let total := rows.foldl (fun t r => (t.zip r.2).map fun (a, b) => a + b) [0, 0, 0, 0]
    let all := if 1 < o.operands.length then rows.push ("total", total) else rows
    let shown := (asked.filter (· == true)).length
    let width := if shown = 1 ∧ o.operands.length ≤ 1 then 1
      else if o.operands.isEmpty ∨ o.operands.contains "-" then 7
      else (Text.decimal (total.getD 3 0)).length
    let line (path : String) (ns : List Nat) : String :=
      let fields := ((asked.zip ns).filter (·.1)).map fun (_, n) =>
        let ds := Text.decimal n
        String.ofList (List.replicate (width - ds.length) ' ') ++ ds
      " ".intercalate fields ++ (if o.operands.isEmpty then "" else " " ++ path)
    let written ← say (ofLines (all.toList.map fun (path, ns) => line path ns))
    return max status written

/-! ## Texts of their own -/

/-- Writes a line again and again, until nobody reads it or enough is written. -/
def yes : Program := fun words => do
  let line := (if words.isEmpty then "y" else " ".intercalate words) ++ "\n"
  let block := String.join (List.replicate (8192 / line.length + 1) line)
  for _ in [0:1024] do
    match ← Action.write 1 block with
    | none => pure ()
    | some fault =>
      complain ("standard output: " ++ fault.message)
      return 1
  return 0

/-- Writes its words; escape sequences count only where an option says so. -/
def echo : Program := fun words => do
  let isOption (w : String) : Bool :=
    w.startsWith "-" && 1 < w.length && (w.drop 1).all fun c => c == 'n' || c == 'e' || c == 'E'
  let given := words.takeWhile isOption
  let letters := given.flatMap (·.toList)
  let text := " ".intercalate (words.drop given.length)
  let escapes := letters.reverse.find? fun c => c == 'e' || c == 'E'
  let (shown, goesOn) := if escapes = some 'e' then unescape (text.length + 1) text.toList
    else (text.toList, true)
  let ending := if letters.contains 'n' ∨ !goesOn then "" else "\n"
  say (String.ofList shown ++ ending)

/-- Writes arguments in a format. -/
def printf : Program := fun words => do
  match if words.head? = some "--" then words.tail else words with
  | [] =>
    complainOfCall "missing operand"
    return 1
  | format :: words =>
    let (text, complaints, fatal) := printed format words
    let status ← say text
    for c in complaints ++ fatal.toList do
      complain c
    return if complaints.isEmpty ∧ fatal.isNone then status else 1

/-- A whole number with an optional sign. -/
def whole? (s : String) : Option Int :=
  let (negative, ds) := match s.toList with
    | '-' :: ds => (true, ds)
    | '+' :: ds => (false, ds)
    | ds => (false, ds)
  if !ds.isEmpty ∧ ds.all Char.isDigit then
    let n := (digits 10 0 ds).1
    some (if negative then -n else n)
  else none

/-- Writes the numbers from one to another. -/
def seq : Program := fun words => do
  let isNegative (w : String) : Bool := w.startsWith "-" && (w.drop 1).any Char.isDigit
  let options := words.takeWhile fun w => !isNegative w
  let later := words.drop options.length
  let protected_ := if options.contains "--" ∨ later.isEmpty then words
    else options ++ "--" :: later
  withOptions 1 ⟨"s:wf:", [("separator", 's'), ("equal-width", 'w')]⟩ (fun o => do
    let limits := o.operands.map fun w => (w, whole? w)
    match limits.find? (·.2.isNone) with
    | some (w, _) =>
      complainOfCall ("invalid floating point argument: '" ++ w ++ "'")
      return 1
    | none =>
      let go (first step last : Int) : Action Nat := do
        if step = 0 then
          complainOfCall "invalid Zero increment value: '0'"
          return 1
        else
          let count := (Int.fdiv (last - first) step + 1).toNat
          let numbers := (List.range count).map fun (i : Nat) => shownInt (first + step * i)
          let width := if o.has 'w' then (numbers.map String.length).foldl max 0 else 0
          let pad (n : String) : String :=
            let zeros := String.ofList (List.replicate (width - n.length) '0')
            if n.startsWith "-" then "-" ++ zeros ++ (n.drop 1).toString else zeros ++ n
          let text := ((o.value? 's').getD "\n").intercalate (numbers.map pad)
          if numbers.isEmpty then return 0 else say (text ++ "\n")
      match limits.filterMap (·.2) with
      | [last] => go 1 1 last
      | [first, last] => go first 1 last
      | [first, step, last] => go first step last
      | [] =>
        complainOfCall "missing operand"
        return 1
      | _ =>
        complainOfCall ("extra operand '" ++ o.operands.getD 3 "" ++ "'")
        return 1) protected_

end TestFleet.Shell.Utility
