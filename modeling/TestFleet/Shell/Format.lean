import TestFleet.Shell.Bytes

/-!
# Formatted output

What is written by `echo` and `printf`: texts with backslash sequences, and formats whose directives
say how arguments are shown. A format is gone through again as long as arguments are left.
-/

namespace TestFleet.Shell

/-! ## Backslash sequences -/

/-- The character that a letter behind a backslash stands for. -/
def escaped? : Char → Option Char
  | 'a' => some '\x07'
  | 'b' => some '\x08'
  | 'e' => some '\x1b'
  | 'f' => some '\x0c'
  | 'n' => some '\n'
  | 'r' => some '\r'
  | 't' => some '\t'
  | 'v' => some '\x0b'
  | '\\' => some '\\'
  | _ => none

/-- The character that stands behind a backslash: a letter's, or that of up to three octal digits.
Any other leaves the backslash. -/
def unescapeOne (cs : List Char) : Char × List Char :=
  match cs with
  | [] => ('\\', [])
  | c :: rest =>
    match escaped? c with
    | some e => (e, rest)
    | none =>
      let ds := (cs.take 3).takeWhile fun d => '0' ≤ d && d ≤ '7'
      if ds.isEmpty then ('\\', cs)
      else (Char.ofNat ((digits 8 0 ds).1 % 256), cs.drop ds.length)

/-- The text of an argument with backslash sequences, within `n` steps, and whether more may follow
it. A zero may stand before octal digits. -/
def unescape : Nat → List Char → List Char × Bool
  | 0, _ => ([], true)
  | _ + 1, [] => ([], true)
  | n + 1, '\\' :: cs =>
    if cs.head? = some 'c' then ([], false)
    else
      let cs := match cs with
        | '0' :: d :: rest => if '0' ≤ d ∧ d ≤ '7' then d :: rest else cs
        | cs => cs
      let (c, rest) := unescapeOne cs
      let (later, more) := unescape n rest
      (c :: later, more)
  | n + 1, c :: cs =>
    let (later, more) := unescape n cs
    (c :: later, more)

/-- What is written for some arguments: they are joined by blanks, and a line ends behind them. -/
def echoed (arguments : List String) : String :=
  let (line, arguments) := match arguments with
    | "-n" :: rest => (false, rest)
    | _ => (true, arguments)
  let cs := (" ".intercalate arguments).toList
  let (text, more) := unescape (cs.length + 1) cs
  String.ofList (if line && more then text ++ ['\n'] else text)

/-! ## Directives -/

/-- How an argument is shown. -/
structure Directive where
  /-- The signs behind the percent sign. -/
  flags : List Char
  width : Nat := 0
  precision : Option Nat := none

namespace Directive

/-- A text in its width; zeros may be put in front of a number, behind its sign. -/
def padded (d : Directive) (zeros : Bool) (sign body : String) : String :=
  let gap := d.width - (sign.length + body.length)
  let fill (c : Char) := String.ofList (List.replicate gap c)
  if d.flags.contains '-' then sign ++ body ++ fill ' '
  else if zeros ∧ d.flags.contains '0' then sign ++ fill '0' ++ body
  else fill ' ' ++ sign ++ body

def text (d : Directive) (s : String) : String :=
  d.padded false "" (match d.precision with
    | none => s
    | some n => (s.take n).toString)

/-- The sign of a number. -/
def sign (d : Directive) (negative : Bool) : String :=
  if negative then "-"
  else if d.flags.contains '+' then "+"
  else if d.flags.contains ' ' then " "
  else ""

/-- Digits of which there are at least as many as asked for, and none of a zero if none are. -/
def counted (d : Directive) (ds : String) : String :=
  match d.precision with
  | none => ds
  | some n =>
    if n = 0 ∧ ds = "0" then "" else String.ofList (List.replicate (n - ds.length) '0') ++ ds

def signed (d : Directive) (n : Int) : String :=
  d.padded d.precision.isNone (d.sign (n < 0)) (d.counted (Text.decimal n.natAbs))

def unsigned (d : Directive) (kind : Char) (n : Nat) : String :=
  let base := if kind = 'o' then 8 else if kind = 'u' then 10 else 16
  let ds := String.ofList (Nat.toDigits base n)
  let ds := if kind = 'X' then String.ofList (ds.toList.map Char.toUpper) else ds
  let ds := d.counted ds
  if !d.flags.contains '#' then d.padded d.precision.isNone "" ds
  else if kind = 'o' then
    d.padded d.precision.isNone "" (if ds.startsWith "0" then ds else "0" ++ ds)
  else if n = 0 ∨ kind = 'u' then d.padded d.precision.isNone "" ds
  else d.padded d.precision.isNone (String.ofList ['0', kind]) ds

/-! ### Numbers of floating point -/

/-- The quotient of two numbers, rounded to the nearest whole one, a half to the even one. -/
def nearestQuotient (a b : Nat) : Nat :=
  let q := a / b
  let r := a % b
  if b < 2 * r ∨ b = 2 * r ∧ q % 2 = 1 then q + 1 else q

/-- A number `a / b` times a power of ten, rounded to the nearest whole one. -/
def scaled (a b : Nat) (power : Int) : Nat :=
  nearestQuotient (a * Nat.pow 10 power.toNat) (b * Nat.pow 10 (-power).toNat)

/-- Digits with a point before the last `n` of them. -/
def pointed (ds : String) (n : Nat) (always : Bool) : String :=
  let ds := String.ofList (List.replicate (n + 1 - ds.length) '0') ++ ds
  let cut := ds.length - n
  let behind := (ds.drop cut).toString
  (ds.take cut).toString ++ (if n = 0 ∧ !always then "" else ".") ++ behind

/-- The power of ten of the leading digit of `a / b`, found from `guess` downwards. -/
def leading (a b : Nat) : Nat → Int → Int
  | 0, guess => guess
  | n + 1, guess =>
    if b * Nat.pow 10 guess.toNat ≤ a * Nat.pow 10 (-guess).toNat then guess
    else leading a b n (guess - 1)

/-- Digits without the zeros at their end. -/
def withoutZeros (s : String) : String :=
  let cs := (s.toList.reverse.dropWhile (· == '0')).reverse
  String.ofList (if cs.getLast? = some '.' then cs.dropLast else cs)

/-- The exponent of a power of ten, of two digits at least. -/
def shownPower (power : Int) : String :=
  let ds := Text.decimal power.natAbs
  "e" ++ (if power < 0 then "-" else "+") ++ (if ds.length < 2 then "0" ++ ds else ds)

/-- The leading digits of `a / b`, so many behind the first, and the power of ten of the first. -/
def leadingDigits (a b places : Nat) : Nat × Int :=
  if a = 0 then (0, 0)
  else
    let guess : Int := (Text.decimalDigits a).length - (Text.decimalDigits b).length
    let power := leading a b 3 (guess + 1)
    let n := scaled a b (places - power)
    if Nat.pow 10 (places + 1) ≤ n then (n / 10, power + 1) else (n, power)

/-- A number `a / b` as a kind of directive shows it. -/
def fraction (d : Directive) (kind : Char) (a b : Nat) : String :=
  let places := d.precision.getD 6
  let always := d.flags.contains '#'
  if kind = 'f' then pointed (Text.decimal (scaled a b places)) places always
  else if kind = 'e' then
    let (n, power) := leadingDigits a b places
    pointed (Text.decimal n) places always ++ shownPower power
  else
    let significant := max places 1
    let (n, power) := leadingDigits a b (significant - 1)
    let trim (s : String) := if always ∨ !s.contains '.' then s else withoutZeros s
    if power < -4 ∨ (significant : Int) ≤ power then
      trim (pointed (Text.decimal n) (significant - 1) always) ++ shownPower power
    else
      let behind := ((significant : Int) - 1 - power).toNat
      trim (pointed (Text.decimal (scaled a b behind)) behind always)

/-- A number of floating point in sixteens, with a power of two. -/
def binary (d : Directive) (stored part : Nat) : String :=
  let places := d.precision.getD 13
  let n := (if stored = 0 then 0 else 1 <<< 52) + part
  let n := if 13 ≤ places then n <<< (4 * (places - 13))
    else nearestQuotient n (1 <<< (4 * (13 - places)))
  let ds := String.ofList (Nat.toDigits 16 (n % (1 <<< (4 * places))))
  let ds := String.ofList (List.replicate (places - ds.length) '0') ++ ds
  let ds := if places = 0 then "" else if d.precision.isNone then withoutZeros ds else ds
  let power : Int := if stored = 0 then (if part = 0 then 0 else -1022) else stored - 1023
  let point := if ds = "" ∧ !d.flags.contains '#' then "" else "."
  Text.decimal (n >>> (4 * places)) ++ point ++ ds ++ "p" ++ (if power < 0 then "-" else "+") ++
    Text.decimal power.natAbs

/-- A number of floating point. -/
def float (d : Directive) (kind : Char) (x : Float) : String :=
  let negative := x.toBits >>> 63 == 1
  let upper (s : String) := if kind.isUpper then String.ofList (s.toList.map Char.toUpper) else s
  if x.isNaN then d.padded false (d.sign negative) (upper "nan")
  else if x.isInf then d.padded false (d.sign negative) (upper "inf")
  else
    let stored := ((x.toBits >>> 52) &&& 0x7ff).toNat
    let part := (x.toBits &&& 0xfffffffffffff).toNat
    if kind.toLower = 'a' then
      d.padded true (d.sign negative ++ upper "0x") (upper (d.binary stored part))
    else
    let significand := if stored = 0 then part else part + (1 <<< 52)
    let exponent : Int := (if stored = 0 then 1 else stored : Nat) - (1075 : Int)
    let a := significand <<< exponent.toNat
    let b := 1 <<< (-exponent).toNat
    d.padded true (d.sign negative) (upper (d.fraction kind.toLower a b))

end Directive

/-! ## Formats -/

/-- What was printed so far, and what is left to be shown. -/
structure Printing where
  arguments : List String
  /-- The texts printed, the last one first. -/
  texts : List String := []
  /-- The complaints, the last one first. -/
  complaints : List String := []

/-- Prints, and stops with a complaint, or without one where an argument says so. -/
abbrev Printer := EStateM (Option String) Printing

namespace Printer

def put (s : String) : Printer Unit := modify fun p => { p with texts := s :: p.texts }

def warn (s : String) : Printer Unit := modify fun p => { p with complaints := s :: p.complaints }

/-- The next argument. -/
def argument? : Printer (Option String) := modifyGet fun p =>
  (p.arguments.head?, { p with arguments := p.arguments.tail })

/-- Complains if a number is followed by something, or is none. -/
def check (s rest : String) (outOfRange : Bool) : Printer Unit := do
  if rest ≠ "" then
    if rest = s then warn (s ++ ": expected numeric value")
    else warn (s ++ ": not completely converted")
  else if outOfRange then warn (s ++ ": Numerical result out of range")

/-- The next argument as a whole number: the code of a character behind a quote, or what it writes
as a number. -/
def integer (low high : Int) : Printer Int := do
  match ← argument? with
  | none => return 0
  | some s =>
    match s.toList with
    | '"' :: cs | '\'' :: cs => return (cs.head?.map Char.toNat).getD 0
    | cs =>
      let blank := cs.dropWhile isSpace
      let (negative, unsigned) := match blank with
        | '-' :: r => (true, r)
        | '+' :: r => (false, r)
        | r => (false, r)
      if unsigned.head?.any Char.isDigit then
        let (n, rest) := literal unsigned
        let v : Int := if negative then -n else n
        check s (String.ofList rest) (v < low || high < v)
        return max low (min high v)
      else
        check s s false
        return 0

/-- The number that decimal digits with a point and an exponent write, and the text behind it. -/
def readFloat? (cs : List Char) : Option (Float × List Char) :=
  let whole := cs.takeWhile Char.isDigit
  let rest := cs.drop whole.length
  let (fraction, rest) := match rest with
    | '.' :: r => (r.takeWhile Char.isDigit, r.dropWhile Char.isDigit)
    | r => ([], r)
  if whole.isEmpty ∧ fraction.isEmpty then none
  else
    let (power, rest) : Int × List Char := match rest with
      | e :: r =>
        if e = 'e' ∨ e = 'E' then
          let (negative, ds) := match r with
            | '-' :: ds => (true, ds)
            | '+' :: ds => (false, ds)
            | ds => (false, ds)
          if ds.head?.any Char.isDigit then
            let n := (digits 10 0 (ds.takeWhile Char.isDigit)).1
            (if negative then -n else n, ds.dropWhile Char.isDigit)
          else (0, rest)
        else (0, rest)
      | [] => (0, [])
    let n := (digits 10 0 (whole ++ fraction)).1
    let scale := power - fraction.length
    let x := if 400 < scale.natAbs ∧ n = 0 then 0
      else Float.ofScientific n (scale < 0) (min scale.natAbs 5000)
    some (x, rest)

/-- The next argument as a number of floating point. -/
def float : Printer Float := do
  match ← argument? with
  | none => return 0
  | some s =>
    match s.toList with
    | '"' :: cs | '\'' :: cs => return Float.ofNat ((cs.head?.map Char.toNat).getD 0)
    | cs =>
      let (negative, unsigned) := match cs.dropWhile isSpace with
        | '-' :: r => (true, r)
        | '+' :: r => (false, r)
        | r => (false, r)
      let lower := unsigned.map Char.toLower
      let named : Option (Float × List Char) :=
        if lower.take 8 = "infinity".toList then some (1.0 / 0.0, unsigned.drop 8)
        else if lower.take 3 = "inf".toList then some (1.0 / 0.0, unsigned.drop 3)
        else if lower.take 3 = "nan".toList then some (0.0 / 0.0, unsigned.drop 3)
        else none
      match named.or (readFloat? unsigned) with
      | some (x, rest) =>
        let isNothing := x == 0 && unsigned.any fun c => '1' ≤ c && c ≤ '9'
        check s (String.ofList rest) (named.isNone && (x.isInf || isNothing))
        return if negative then -x else x
      | none =>
        check s s false
        return 0

/-- A number in a directive: digits, or a star for the next argument. -/
def number (cs : List Char) : Printer (Int × List Char) := do
  match cs with
  | '*' :: cs => return (← integer Int64.minValue.toInt Int64.maxValue.toInt, cs)
  | cs =>
    let ds := cs.takeWhile fun c => c.isDigit || c == '*'
    return ((digits 10 0 ds).1, cs.drop ds.length)

/-- Prints what the directive at the front of a text asks for, and goes on behind it. -/
def directive (start : List Char) : Printer (List Char) := do
  let flags := start.takeWhile "#-+ 0".toList.contains
  let (width, cs) ← number (start.drop flags.length)
  let (precision, cs) ← match cs with
    | '.' :: cs => do
      let (p, cs) ← number cs
      pure (if p < 0 then none else some p.toNat, cs)
    | cs => pure (none, cs)
  let d : Directive := {
    flags := if width < 0 then '-' :: flags else flags
    width := width.natAbs
    precision }
  match cs with
  | [] => throw (some "missing format character")
  | c :: cs =>
    match c with
    | 'b' =>
      let a := ((← argument?).getD "").toList
      let (text, more) := unescape (a.length + 1) a
      put (d.text (String.ofList text))
      if !more then throw none
    | 'c' =>
      let a := (← argument?).map fun s => s.toList.headD '\x00'
      put (d.text (String.singleton (a.getD '\x00')))
    | 's' => put (d.text ((← argument?).getD ""))
    | 'd' | 'i' => put (d.signed (← integer Int64.minValue.toInt Int64.maxValue.toInt))
    | 'o' | 'u' | 'x' | 'X' =>
      let most : Int := UInt64.size - 1
      let n ← integer (-most) most
      put (d.unsigned c (if n < 0 then UInt64.size - n.natAbs else n.toNat))
    | 'a' | 'e' | 'f' | 'g' | 'A' | 'E' | 'F' | 'G' => put (d.float c (← float))
    | _ =>
      let shown := start.take (start.length - cs.length)
      throw (some ("%" ++ String.ofList shown ++ ": invalid directive"))
    return cs

/-- Goes through a format once, within `n` steps. -/
def once : Nat → List Char → Printer Unit
  | 0, _ | _ + 1, [] => return
  | n + 1, '%' :: '%' :: cs => do
    put "%"
    once n cs
  | n + 1, '%' :: cs => do once n (← directive cs)
  | n + 1, '\\' :: cs => do
    let (c, rest) := unescapeOne cs
    put (String.singleton c)
    once n rest
  | n + 1, c :: cs => do
    put (String.singleton c)
    once n cs

/-- Goes through a format, within `n` rounds, until no arguments are left. -/
def all (format : List Char) : Nat → Printer Unit
  | 0 => return
  | n + 1 => do
    let before := (← get).arguments.length
    once (format.length + 1) format
    let left := (← get).arguments.length
    if left ≠ 0 ∧ left ≠ before then all format n

end Printer

/-- The text that is printed for a format and arguments, the complaints, and what stopped it. -/
def printed (format : String) (arguments : List String) :
    String × List String × Option String :=
  let result (p : Printing) := (String.join p.texts.reverse, p.complaints.reverse)
  match Printer.all format.toList (arguments.length + 1) |>.run { arguments } with
  | .ok () p => ((result p).1, (result p).2, none)
  | .error fatal p => ((result p).1, (result p).2, fatal)

end TestFleet.Shell
