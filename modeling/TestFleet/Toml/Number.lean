import TestFleet.Text.Decimal
import TestFleet.Text.Hex

/-!
# Numbers of settings files

Whole numbers are written in one of four bases and have 64 bits. Numbers of floating point have a
fraction, an exponent or a name; of those only the end is read, since no setting is one. Single
underscores may stand between the digits of any number.

Every reader takes what it reads off the front of the text, and gives back the text behind it.
-/

namespace TestFleet.Toml

/-! ## Digits -/

/-- The value of a digit below a base. -/
def digit? (base : Nat) (c : Char) : Option Nat := (Text.hexValue? c).filter (· < base)

/-- The rest of some digits. -/
def moreDigits? (base : Nat) : List Char → Option (List Nat × List Char)
  | [] => some ([], [])
  | ['_'] => none
  | '_' :: c :: cs => do
    let (ds, rest) ← moreDigits? base cs
    some ((← digit? base c) :: ds, rest)
  | c :: cs =>
    match digit? base c with
    | some d => (moreDigits? base cs).map fun (ds, rest) => (d :: ds, rest)
    | none => some ([], c :: cs)

/-- Digits of a base. -/
def digits? (base : Nat) : List Char → Option (List Nat × List Char)
  | [] => none
  | c :: cs => do
    let (ds, rest) ← moreDigits? base cs
    some ((← digit? base c) :: ds, rest)

/-- Digits of base ten; a zero at the front stands alone. -/
def decimal? : List Char → Option (List Nat × List Char)
  | '0' :: cs => some ([0], cs)
  | cs => digits? 10 cs

/-- The number that digits of a base write. -/
def ofDigits (base : Nat) (ds : List Nat) : Nat := ds.foldl (fun n d => base * n + d) 0

/-- Takes a sign off the front: whether it is a minus. -/
def sign : List Char → Bool × List Char
  | '-' :: cs => (true, cs)
  | '+' :: cs => (false, cs)
  | cs => (false, cs)

/-! ## Whole numbers -/

/-- A whole number of 64 bits. Only one of base ten may have a sign. -/
def integer? (cs : List Char) : Option (Int × List Char) := do
  let unsigned (base : Nat) : List Nat × List Char → Int × List Char := fun (ds, cs) =>
    (ofDigits base ds, cs)
  let (n, cs) ← match cs with
    | '0' :: 'x' :: cs => (digits? 16 cs).map (unsigned 16)
    | '0' :: 'o' :: cs => (digits? 8 cs).map (unsigned 8)
    | '0' :: 'b' :: cs => (digits? 2 cs).map (unsigned 2)
    | cs =>
      let (negative, cs) := sign cs
      (decimal? cs).map fun (ds, cs) =>
        (if negative then -(ofDigits 10 ds : Int) else ofDigits 10 ds, cs)
  if Int64.minValue.toInt ≤ n ∧ n ≤ Int64.maxValue.toInt then some (n, cs) else none

/-! ## Numbers of floating point -/

/-- Whether a number that is scaled by a power of ten is nearer to a finite value of 64-bit floating
point than to the power of two behind the greatest one. -/
def isFinite (n : Nat) (exponent : Int) : Bool :=
  let size := ((Text.decimalDigits n).length : Int) + exponent
  n == 0 || size < 300 ||
    (size ≤ 310 &&
      n * Nat.pow 10 exponent.toNat < (1 <<< 1024 - 1 <<< 970) * Nat.pow 10 (-exponent).toNat)

/-- Takes a point and the digits behind it off the front, if there is one. -/
def fraction? : List Char → Option (Option (List Nat) × List Char)
  | '.' :: cs => (digits? 10 cs).map fun (ds, cs) => (some ds, cs)
  | cs => some (none, cs)

/-- Takes an exponent off the front, if there is one. -/
def exponent? : List Char → Option (Option Int × List Char)
  | 'e' :: cs | 'E' :: cs =>
    let (negative, cs) := sign cs
    (digits? 10 cs).map fun (ds, cs) =>
      (some (if negative then -(ofDigits 10 ds : Int) else ofDigits 10 ds), cs)
  | cs => some (none, cs)

/-- The text behind a number of floating point. One too great to be finite is none, unless it
is negative. -/
def afterFloat? (cs : List Char) : Option (List Char) :=
  match sign cs with
  | (_, 'i' :: 'n' :: 'f' :: cs) => some cs
  | (_, 'n' :: 'a' :: 'n' :: cs) => some cs
  | (negative, cs) => do
    let (whole, cs) ← decimal? cs
    let (fraction, cs) ← fraction? cs
    let (exponent, cs) ← exponent? cs
    if fraction.isNone && exponent.isNone then none
    else
      let behind := fraction.getD []
      let n := ofDigits 10 (whole ++ behind)
      if negative || isFinite n (exponent.getD 0 - behind.length) then some cs else none

end TestFleet.Toml
