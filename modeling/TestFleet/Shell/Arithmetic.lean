import TestFleet.Shell.Bytes

/-!
# Calculations

The text of a calculation is read and evaluated at once. Numbers are words of 64 bits; names stand
for the numbers that the values of variables write, and an operand that does not matter is read but
not evaluated. A calculation knows variables by a look-up, and lists what it gave to which.
-/

namespace TestFleet.Shell.Arithmetic

/-- Why a calculation has no result. -/
inductive Fault where
  /-- The text is none. -/
  | malformed (what : String)
  /-- The value of a variable is no number. -/
  | illegal (value : String)
  deriving DecidableEq, Repr

/-- A part of a calculation's text. -/
inductive Token where
  | number (n : Int64)
  | name (s : String)
  | operator (o : String)
  | endOfText
  deriving DecidableEq, Repr

/-- A place in the text of a calculation. -/
structure Cursor where
  rest : List Char
  /-- The token at the place. -/
  token : Token := .endOfText
  /-- The value of a variable. -/
  value : String → String
  /-- The variables that were given numbers, the last one first. -/
  given : List (String × Int64) := []

/-- Reads and evaluates something. -/
abbrev Calculation := EStateM Fault Cursor

/-- The operators, longer ones before their beginnings. -/
def operators : List String :=
  ["<<=", ">>=", "==", "!=", "<=", ">=", "<<", ">>", "&&", "||", "+=", "-=", "*=", "/=", "%=", "&=",
   "^=", "|=", "=", "<", ">", "!", "~", "&", "|", "^", "+", "-", "*", "/", "%", "?", ":", "(", ")"]

/-- A number as a word; one beyond the greatest counts as that. -/
def word (n : Nat) : Int64 := Int64.ofNat (min n Int64.maxValue.toInt.toNat)

/-- Moves to the next token. -/
def advance : Calculation Unit := do
  let cs := (← get).rest.dropWhile fun c => c == ' ' || c == '\t' || c == '\n'
  let moveTo (token : Token) (rest : List Char) : Calculation Unit :=
    modify fun k => { k with token, rest }
  match cs with
  | [] => moveTo .endOfText []
  | c :: _ =>
    if c.isDigit then
      let (n, rest) := literal cs
      moveTo (.number (word n)) rest
    else if isNameStart c then
      moveTo (.name (String.ofList (cs.takeWhile isNamePart))) (cs.dropWhile isNamePart)
    else match operators.find? fun o => o.toList == cs.take o.length with
      | some o => moveTo (.operator o) (cs.drop o.length)
      | none => moveTo (.operator (String.singleton c)) (cs.drop 1)

/-- How tightly an operator of two operands binds, the tightest one first. -/
def rank? : String → Option Nat
  | "*" | "/" | "%" => some 0
  | "+" | "-" => some 1
  | "<<" | ">>" => some 2
  | "<" | "<=" | ">" | ">=" => some 3
  | "==" | "!=" => some 4
  | "&" => some 5
  | "^" => some 6
  | "|" => some 7
  | _ => none

/-- The number that stands for a truth value. -/
def truth (b : Bool) : Int64 := if b then 1 else 0

/-- The result of an operator. -/
def apply (o : String) (a b : Int64) : Calculation Int64 :=
  match o with
  | "*" => return a * b
  | "/" => if b = 0 then throw (.malformed "division by zero") else return a / b
  | "%" => if b = 0 then throw (.malformed "division by zero") else return a % b
  | "+" => return a + b
  | "-" => return a - b
  | "<<" => return a <<< b
  | ">>" => return a >>> b
  | "<" => return truth (a < b)
  | "<=" => return truth (a ≤ b)
  | ">" => return truth (b < a)
  | ">=" => return truth (b ≤ a)
  | "==" => return truth (a = b)
  | "!=" => return truth (a ≠ b)
  | "&" => return a &&& b
  | "^" => return a ^^^ b
  | "|" => return a ||| b
  | _ => throw (.malformed "expecting EOF")

/-- The number that the value of a variable writes. -/
def lookUp (name : String) : Calculation Int64 := do
  let k ← get
  match k.given.lookup name with
  | some n => return n
  | none =>
    let s := k.value name
    match signed? s.toList with
    | some (n, rest) =>
      if rest.all isSpace then return Int64.ofInt n else throw (.illegal s)
    | none => if s.toList.all isSpace then return 0 else throw (.illegal s)

mutual

/-- An assignment, or what may stand in its place. Where `counts` does not hold, nothing is
evaluated. -/
def assignment : Nat → Bool → Calculation Int64
  | 0, _ => throw (.malformed "expecting primary")
  | n + 1, counts => do
    let k ← get
    match k.token with
    | .name s =>
      advance
      match (← get).token with
      | .operator o =>
        let binary := (o.dropEnd 1).toString
        if o = "=" then
          advance
          let v ← assignment n counts
          if counts then modify fun k => { k with given := (s, v) :: k.given }
          return v
        else if o.endsWith "=" ∧ (rank? binary).isSome ∧ (rank? o).isNone then
          advance
          let b ← assignment n counts
          if counts then
            let v ← apply binary (← lookUp s) b
            modify fun k => { k with given := (s, v) :: k.given }
            return v
          else return b
        else
          set { k with given := (← get).given }
          choice n counts
      | _ =>
        set { k with given := (← get).given }
        choice n counts
    | _ => choice n counts

/-- A choice between two results, or one of them. -/
def choice : Nat → Bool → Calculation Int64
  | 0, _ => throw (.malformed "expecting primary")
  | n + 1, counts => do
    let a ← either n counts
    if (← get).token = .operator "?" then
      advance
      let b ← assignment n (counts && a != 0)
      if (← get).token ≠ .operator ":" then throw (.malformed "expecting ':'")
      advance
      let c ← choice n (counts && a == 0)
      return if a ≠ 0 then b else c
    else return a

/-- Whether one of several numbers is not zero. -/
def either : Nat → Bool → Calculation Int64
  | 0, _ => throw (.malformed "expecting primary")
  | n + 1, counts => do
    let a ← all n counts
    if (← get).token = .operator "||" then
      advance
      let b ← either n (counts && a == 0)
      return truth (a != 0 || b != 0)
    else return a

/-- Whether none of several numbers is zero. -/
def all : Nat → Bool → Calculation Int64
  | 0, _ => throw (.malformed "expecting primary")
  | n + 1, counts => do
    let a ← operated n counts
    if (← get).token = .operator "&&" then
      advance
      let b ← all n (counts && a != 0)
      return truth (a != 0 && b != 0)
    else return a

/-- An operand with all operators of two operands behind it. -/
def operated : Nat → Bool → Calculation Int64
  | 0, _ => throw (.malformed "expecting primary")
  | n + 1, counts => do
    let a ← primary n counts
    operatedFrom n counts a 8

/-- The operators behind the operand `a` that bind more tightly than the rank `limit`. -/
def operatedFrom : Nat → Bool → Int64 → Nat → Calculation Int64
  | 0, _, _, _ => throw (.malformed "expecting primary")
  | n + 1, counts, a, limit => do
    match (← get).token with
    | .operator o =>
      match rank? o with
      | some r =>
        if r < limit then
          advance
          let b ← primary n counts
          let b ← operatedFrom n counts b r
          let a ← if counts then apply o a b else pure b
          operatedFrom n counts a limit
        else return a
      | none => return a
    | _ => return a

/-- A number, a variable, or something in parentheses, with the operators before it. -/
def primary : Nat → Bool → Calculation Int64
  | 0, _ => throw (.malformed "expecting primary")
  | n + 1, counts => do
    match (← get).token with
    | .number v =>
      advance
      return v
    | .name s =>
      advance
      if counts then lookUp s else return 0
    | .operator "(" =>
      advance
      let v ← assignment n counts
      if (← get).token ≠ .operator ")" then throw (.malformed "expecting ')'")
      advance
      return v
    | .operator "+" =>
      advance
      primary n counts
    | .operator "-" =>
      advance
      return -(← primary n counts)
    | .operator "!" =>
      advance
      return truth ((← primary n counts) == 0)
    | .operator "~" =>
      advance
      return ~~~(← primary n counts)
    | _ => throw (.malformed "expecting primary")

end

/-- The result of a calculation, and what it gave to variables in order. -/
def evaluate (value : String → String) (s : String) :
    Except Fault (Int64 × List (String × Int64)) :=
  let whole : Calculation Int64 := do
    advance
    let v ← assignment (4 * s.length + 16) true
    if (← get).token ≠ .endOfText then throw (.malformed "expecting EOF")
    return v
  match whole.run { rest := s.toList, value } with
  | .ok v k => .ok (v, k.given.reverse)
  | .error fault _ => .error fault

end TestFleet.Shell.Arithmetic
