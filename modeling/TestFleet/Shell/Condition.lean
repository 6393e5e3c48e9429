import TestFleet.Shell.State

/-!
# Conditions

The expressions that `test` decides: texts and numbers that are compared, and questions about files.
What a word means hangs on the words behind it: an operator without an operand is a text.
-/

namespace TestFleet.Shell.Condition

/-- The operators of one operand. -/
def unary : List String := ["-r", "-w", "-x", "-e", "-f", "-d", "-c", "-b", "-p", "-u", "-g", "-k",
  "-s", "-t", "-z", "-n", "-h", "-O", "-G", "-L", "-S"]

/-- The operators of two operands. -/
def binary : List String := ["=", "!=", "<", ">", "-eq", "-ne", "-ge", "-gt", "-le", "-lt", "-nt",
  "-ot", "-ef"]

/-- Why words are no condition. -/
inductive Fault where
  | illegalNumber (s : String)
  /-- An operator without an operand behind it. -/
  | missingArgument (operator : String)
  /-- A word that cannot stand where it does. -/
  | unexpected (word : String)
  | unclosed
  deriving DecidableEq, Repr

/-- The explanation shown to a user. -/
def Fault.message : Fault → String
  | .illegalNumber s => "Illegal number: " ++ s
  | .missingArgument o => o ++ ": argument expected"
  | .unexpected word => (if word = "" then "" else word ++ ": ") ++ "unexpected operator"
  | .unclosed => "closing paren expected"

/-- The number that a text writes in base ten. -/
def number (s : String) : Except Fault Int :=
  let cs := s.toList.dropWhile isSpace
  let (negative, cs) := match cs with
    | '-' :: cs => (true, cs)
    | '+' :: cs => (false, cs)
    | cs => (false, cs)
  let (n, rest) := digits 10 0 cs
  let v : Int := if negative then -n else n
  if cs.head?.any Char.isDigit && rest.all isSpace && Int64.minValue.toInt ≤ v &&
      v ≤ Int64.maxValue.toInt then .ok v
  else .error (.illegalNumber s)

/-- Compares two operands; `isSame` tells whether two paths lead to one file. -/
def compared (isSame : String → String → Bool) (o a b : String) : Except Fault Bool :=
  let numbers (f : Int → Int → Bool) : Except Fault Bool := return f (← number a) (← number b)
  match o with
  | "=" => .ok (a == b)
  | "!=" => .ok (a != b)
  | "<" => .ok (a < b)
  | ">" => .ok (b < a)
  | "-eq" => numbers (· == ·)
  | "-ne" => numbers (· != ·)
  | "-ge" => numbers (· ≥ ·)
  | "-gt" => numbers (· > ·)
  | "-le" => numbers (· ≤ ·)
  | "-lt" => numbers (· < ·)
  | "-ef" => .ok (isSame a b)
  | _ => .ok false

/-- What is asked about files. -/
structure Questions where
  /-- Whether the answer to a question about a path is yes. -/
  holds : String → String → Bool
  isSame : String → String → Bool

/-- Decides something at a place among the words. -/
abbrev Decision := StateT Nat (Except Fault)

section

variable (q : Questions) (words : Array String)

/-- The word behind the place. -/
def wordAt? (ahead : Nat) : Decision (Option String) := return words[(← get) + ahead]?

/-- The operator at a place, if the word there is one. -/
def operatorAt? (ahead : Nat) : Decision (Option String) := do
  match ← wordAt? words ahead with
  | none => return none
  | some s =>
    let next ← wordAt? words (ahead + 1)
    let afterNext ← wordAt? words (ahead + 2)
    if unary.contains s then
      let isOperand := match next with
        | none => true
        | some n => afterNext.isSome && binary.contains n
      return if isOperand then none else some s
    else if s = "(" then return if next.isNone then none else some s
    else if binary.contains s ∨ ["!", "-a", "-o", ")"].contains s then return some s
    else return none

mutual

/-- Whether one of several conditions holds. -/
def either : Nat → Decision Bool
  | 0 => return false
  | n + 1 => do
    let a ← both n
    if (← operatorAt? words 1) = some "-o" then
      modify (· + 2)
      let b ← either n
      return a || b
    else return a

/-- Whether several conditions hold. -/
def both : Nat → Decision Bool
  | 0 => return false
  | n + 1 => do
    let a ← negated n
    if (← operatorAt? words 1) = some "-a" then
      modify (· + 2)
      let b ← both n
      return a && b
    else return a

/-- Whether a condition holds, or does not where that is asked. -/
def negated : Nat → Decision Bool
  | 0 => return false
  | n + 1 => do
    if (← operatorAt? words 0) = some "!" then
      if (← wordAt? words 1).isSome then modify (· + 1) else return true
      return !(← negated n)
    else primary n

/-- Whether a condition without joining words holds. -/
def primary : Nat → Decision Bool
  | 0 => return false
  | n + 1 => do
    match ← wordAt? words 0 with
    | none => return false
    | some s =>
      match ← operatorAt? words 0 with
      | some "(" =>
        modify (· + 1)
        if (← operatorAt? words 0) = some ")" then return false
        let r ← either n
        modify (· + 1)
        if (← operatorAt? words 0) ≠ some ")" then throw .unclosed
        return r
      | o =>
        if o.any unary.contains then
          modify (· + 1)
          match ← wordAt? words 0 with
          | none => throw (.missingArgument s)
          | some a =>
            if s = "-z" then return a == ""
            else if s = "-n" then return a != ""
            else if s = "-t" then
              let _ ← number a
              return false
            else return q.holds s a
        else
          match ← operatorAt? words 1 with
          | some o =>
            if binary.contains o then
              modify (· + 2)
              match ← wordAt? words 0 with
              | none => throw (.missingArgument o)
              | some b => compared q.isSame o s b
            else return s != ""
          | none => return s != ""

end

/-- Decides from the place on, and whether words are left over. -/
def decided : Decision Bool := do
  let r ← either q words (4 * words.size + 8)
  match ← wordAt? words 0, ← wordAt? words 1 with
  | some s, some _ => throw (.unexpected s)
  | _, _ => return r

end

/-- Whether a condition holds, or what is wrong with it, within a bound on the leading negations.
Of three or four words the operator in the middle, parentheses around and a leading negation decide
what they are. -/
def holdsWithin (q : Questions) : Nat → List String → Except Fault Bool
  | 0, _ | _, [] => .ok false
  | n + 1, ws =>
    let whole (ws : List String) : Except Fault Bool :=
      (decided q ws.toArray).run 0 |>.map (·.1)
    let special (ws : List String) : Except Fault Bool :=
      if ws.head? = some "(" ∧ ws.getLast? = some ")" then whole (ws.drop 1).dropLast
      else if ws.head? = some "!" then (holdsWithin q n (ws.drop 1)).map (!·)
      else whole ws
    match ws with
    | [a, o, b] => if binary.contains o then compared q.isSame o a b else special ws
    | [_, _, _, _] => special ws
    | ws => whole ws

/-- Whether a condition holds, or what is wrong with it. -/
def holds (q : Questions) (ws : List String) : Except Fault Bool :=
  holdsWithin q (ws.length + 1) ws

end TestFleet.Shell.Condition
