import TestFleet.Json.Draft
import TestFleet.Text.Hex

/-!
# Reading JSON

`parse` reads one value off the front of a list of bytes and gives back the bytes behind it. It
always yields a draft; where the bytes write no value the draft says so, and no bytes come back.
-/

namespace TestFleet.Json

/-- The bytes that may stand between the parts of a value. -/
def isSpace (b : UInt8) : Bool := b == 0x20 || b == 0x0A || b == 0x0D || b == 0x09

/-- The bytes from the next one on that is no space. -/
def skipSpace (bytes : List UInt8) : List UInt8 := bytes.dropWhile isSpace

/-! ## Words and numbers -/

/-- Takes the rest of a word off the front, or says what is wrong with it. -/
def parseWord : List UInt8 → List UInt8 → Except Stop (List UInt8)
  | [], bytes => .ok bytes
  | _ :: _, [] => .error (.both .endOfText)
  | w :: ws, b :: bytes => if b = w then parseWord ws bytes else .error (.both .malformed)

/-- Whether a byte is a digit. -/
def isDigit (b : UInt8) : Bool := 0x30 ≤ b && b ≤ 0x39

/-- The value of a digit. -/
def digitValue (d : UInt8) : Nat := d.toNat - 0x30

/-- The number that digits write. -/
def digitsValue (ds : List UInt8) : Nat := ds.foldl (fun n d => 10 * n + digitValue d) 0

/-- Where a digit is missing, a reader that keeps the number tells the end of the text from a wrong
byte, and one that skips it does not. -/
def missingDigit (rest : List UInt8) : Stop :=
  ⟨if rest.isEmpty then .endOfText else .malformed, .malformed⟩

/-- Takes the digits behind a point off the front. -/
def parseFraction : List UInt8 → Except Stop (List UInt8 × List UInt8)
  | 0x2E :: bytes =>
    let ds := bytes.takeWhile isDigit
    let rest := bytes.dropWhile isDigit
    if ds.isEmpty then .error (missingDigit rest) else .ok (ds, rest)
  | bytes => .ok ([], bytes)

/-- Takes an exponent off the front. -/
def parseExponent : List UInt8 → Except Stop (Option Int × List UInt8)
  | b :: bytes =>
    if b = 0x65 ∨ b = 0x45 then
      let (negative, bytes) := match bytes with
        | 0x2B :: bytes => (false, bytes)
        | 0x2D :: bytes => (true, bytes)
        | bytes => (false, bytes)
      let ds := bytes.takeWhile isDigit
      let rest := bytes.dropWhile isDigit
      if ds.isEmpty then .error (missingDigit rest)
      else .ok (some (if negative then -(digitsValue ds : Int) else digitsValue ds), rest)
    else .ok (none, b :: bytes)
  | [] => .ok (none, [])

/-- Takes the digits before a point off the front: a zero alone, or digits that do not begin with
one. -/
def parseWhole (bytes : List UInt8) : Except Stop (List UInt8 × List UInt8) :=
  let ds := bytes.takeWhile isDigit
  let rest := bytes.dropWhile isDigit
  if ds.isEmpty then .error (missingDigit rest)
  else if ds.head? = some 0x30 ∧ 1 < ds.length then .error (.both .malformed)
  else .ok (ds, rest)

/-- Takes a number without its sign off the front. -/
def parseUnsigned (negative : Bool) (bytes : List UInt8) : Except Stop (Numeral × List UInt8) := do
  let (whole, rest) ← parseWhole bytes
  let (fraction, rest) ← parseFraction rest
  let (exponent, rest) ← parseExponent rest
  pure (.ofDigits negative (whole.map digitValue) (fraction.map digitValue) exponent, rest)

/-- Takes a number off the front. -/
def parseNumber : List UInt8 → Except Stop (Numeral × List UInt8)
  | 0x2D :: bytes => parseUnsigned true bytes
  | bytes => parseUnsigned false bytes

/-! ## Strings -/

/-- The byte that a letter behind a backslash stands for. -/
def unescapeLetter? (b : UInt8) : Option UInt8 :=
  if b = 0x22 then some 0x22
  else if b = 0x5C then some 0x5C
  else if b = 0x2F then some 0x2F
  else if b = 0x62 then some 0x08
  else if b = 0x66 then some 0x0C
  else if b = 0x6E then some 0x0A
  else if b = 0x72 then some 0x0D
  else if b = 0x74 then some 0x09
  else none

/-- The number that four digits of base sixteen write. -/
def hexUnit? (a b c d : UInt8) : Option Nat :=
  Text.hexNumber? ([a, b, c, d].map (fun x => Char.ofNat x.toNat))

/-- The bytes of a code point. -/
def codePointBytes (n : Nat) : List UInt8 := String.utf8EncodeChar (Char.ofNat n)

/-- The code point of a leading and a trailing surrogate. -/
def joinSurrogates (lead trail : Nat) : Nat :=
  0x10000 + (lead - 0xD800) * 0x400 + (trail - 0xDC00)

/-- What is wrong where a string breaks off; `isText` tells whether all before it was text. -/
def stringStop (isText : Bool) (f : Fault) : Stop := ⟨if isText then f else .malformed, f⟩

/-- What follows a leading surrogate that belongs to a string which is text so far. -/
inductive AfterLead where
  /-- Its trailing surrogate, and the bytes behind that. -/
  | trail (n : Nat) (rest : List UInt8)
  /-- The end of the text, before it is known whether the surrogate is a lone one. -/
  | endOfText
  /-- Anything else: the string is no text. -/
  | lone

/-- Looks for the trailing surrogate of a pair. -/
def afterLead : List UInt8 → AfterLead
  | [] => .endOfText
  | [0x5C] => .endOfText
  | 0x5C :: 0x75 :: a :: b :: c :: d :: rest =>
    match hexUnit? a b c d with
    | some n => if 0xDC00 ≤ n ∧ n ≤ 0xDFFF then .trail n rest else .lone
    | none => .lone
  | 0x5C :: 0x75 :: _ => .endOfText
  | _ => .lone

/-- Reads a string up to its closing quote. `done` holds the bytes so far in reverse, `isText`
whether the escapes so far write text. At most `fuel` parts are read. -/
def parseStringFrom : Nat → List UInt8 → Bool → List UInt8 →
    Except Stop (Option (List UInt8) × List UInt8)
  | 0, _, isText, _ => .error (stringStop isText .endOfText)
  | _ + 1, _, isText, [] => .error (stringStop isText .endOfText)
  | fuel + 1, done, isText, b :: bytes =>
    if b = 0x22 then .ok (if isText then some done.reverse else none, bytes)
    else if b = 0x5C then
      match bytes with
      | [] => .error (stringStop isText .endOfText)
      | 0x75 :: w :: x :: y :: z :: rest =>
        match hexUnit? w x y z with
        | none => .error (stringStop isText .malformed)
        | some n =>
          if 0xD800 ≤ n ∧ n ≤ 0xDBFF then
            match afterLead rest with
            | .trail m rest' =>
              parseStringFrom fuel ((codePointBytes (joinSurrogates n m)).reverse ++ done) isText
                rest'
            | .endOfText => .error (stringStop isText .endOfText)
            | .lone => parseStringFrom fuel done false rest
          else if 0xDC00 ≤ n ∧ n ≤ 0xDFFF then parseStringFrom fuel done false rest
          else parseStringFrom fuel ((codePointBytes n).reverse ++ done) isText rest
      | 0x75 :: _ => .error (stringStop isText .endOfText)
      | c :: rest =>
        match unescapeLetter? c with
        | some e => parseStringFrom fuel (e :: done) isText rest
        | none => .error (stringStop isText .malformed)
    else if b < 0x20 then .error (stringStop isText .malformed)
    else parseStringFrom fuel (b :: done) isText bytes

/-- Reads a string behind its opening quote; none if it is no text. -/
def parseString (bytes : List UInt8) : Except Stop (Option String × List UInt8) :=
  (parseStringFrom (bytes.length + 1) [] true bytes).map fun (content, rest) =>
    (content.bind Text.ofUtf8?, rest)

/-! ## Values -/

/-- What a place without a value yields: nothing can be read behind it. -/
def brokenAt (bytes : List UInt8) (stop : Stop) : Draft × Option (List UInt8) :=
  (.broken bytes.head? stop, none)

/-- The string at the front. -/
def parseName (bytes : List UInt8) : Draft × Option (List UInt8) :=
  match bytes with
  | [] => brokenAt bytes (.both .endOfText)
  | 0x22 :: rest =>
    match parseString rest with
    | .ok (s, rest) => (.string s, some rest)
    | .error stop => brokenAt bytes stop
  | _ => brokenAt bytes (.both .malformed)

/-- A word at the front that stands for the value `v`. -/
def parseNamed (v : Draft) (word : String) (bytes : List UInt8) : Draft × Option (List UInt8) :=
  match parseWord (asciis word) bytes with
  | .ok rest => (v, some rest)
  | .error stop => brokenAt bytes stop

/-- What is wrong where neither a comma nor a closing bracket follows. -/
def unclosed (bytes : List UInt8) : Stop :=
  .both (if bytes.isEmpty then .endOfText else .malformed)

mutual

/-- Reads a value; at most `fuel` steps are made. -/
def parseValue : Nat → List UInt8 → Draft × Option (List UInt8)
  | 0, _ => brokenAt [] (.both .endOfText)
  | fuel + 1, bytes =>
    match skipSpace bytes with
    | [] => brokenAt [] (.both .endOfText)
    | b :: rest =>
      if b = ascii 'n' then parseNamed .null "null" (b :: rest)
      else if b = ascii 't' then parseNamed (.bool true) "true" (b :: rest)
      else if b = ascii 'f' then parseNamed (.bool false) "false" (b :: rest)
      else if b = ascii '"' then parseName (b :: rest)
      else if b = ascii '-' ∨ isDigit b then
        match parseNumber (b :: rest) with
        | .ok (n, rest) => (.number n, some rest)
        | .error stop => brokenAt (b :: rest) stop
      else if b = ascii '[' then
        match skipSpace rest with
        | 0x5D :: rest => (.array [] none, some rest)
        | [] => (.array [] (some (.both .endOfText)), none)
        | rest =>
          let (items, stop, rest) := parseItems fuel rest
          (.array items stop, rest)
      else if b = ascii '\x7b' then
        match skipSpace rest with
        | 0x7D :: rest => (.object [] none, some rest)
        | [] => (.object [] (some (.both .endOfText)), none)
        | rest =>
          let (fields, stop, rest) := parseFields fuel rest
          (.object fields stop, rest)
      else brokenAt (b :: rest) (.both .malformed)

/-- Reads the items of an array from one of them to the closing bracket. -/
def parseItems : Nat → List UInt8 → List Draft × Option Stop × Option (List UInt8)
  | 0, _ => ([], some (.both .endOfText), none)
  | fuel + 1, bytes =>
    match parseValue fuel bytes with
    | (item, none) => ([item], none, none)
    | (item, some rest) =>
      match skipSpace rest with
      | 0x5D :: rest => ([item], none, some rest)
      | 0x2C :: rest =>
        let (items, stop, rest) := parseItems fuel rest
        (item :: items, stop, rest)
      | rest => ([item], some (unclosed rest), none)

/-- Reads the fields of an object from one of them to the closing brace. A name that no colon
follows is a field whose value is broken. -/
def parseFields : Nat → List UInt8 → List (Draft × Draft) × Option Stop × Option (List UInt8)
  | 0, _ => ([], some (.both .endOfText), none)
  | fuel + 1, bytes =>
    match parseName (skipSpace bytes) with
    | (name, none) => ([(name, name)], none, none)
    | (name, some rest) =>
      match skipSpace rest with
      | 0x3A :: rest =>
        match parseValue fuel rest with
        | (value, none) => ([(name, value)], none, none)
        | (value, some rest) =>
          match skipSpace rest with
          | 0x7D :: rest => ([(name, value)], none, some rest)
          | 0x2C :: rest =>
            let (fields, stop, rest) := parseFields fuel rest
            ((name, value) :: fields, stop, rest)
          | rest => ([(name, value)], some (unclosed rest), none)
      | rest => ([(name, .broken none (unclosed rest))], none, none)

end

/-- Reads the value that bytes begin with, and gives back what follows it if the value ends. -/
def parse (bytes : List UInt8) : Draft × Option (List UInt8) :=
  parseValue (2 * bytes.length + 2) bytes

/-- What is wrong behind a value that should be all of the text. -/
def trailingFault (rest : List UInt8) : Option Fault :=
  if (skipSpace rest).isEmpty then none else some .malformed

end TestFleet.Json
