import TestFleet.Text.Decimal

/-!
# Numbers as read

A number is read into a significand of 64 bits and a power of ten that scales it. Digits that no
longer fit the significand are left out: those of the whole part still count by their number, those
of the fraction do not count. Whether the number can be kept as one of 64-bit floating point is then
decided on the nearest values of the significand and of the power.
-/

namespace TestFleet.Json

/-- A number as read: its significand, the power of ten that scales it, and whether it was written
without a point and an exponent and nothing of it was left out. -/
structure Numeral where
  negative : Bool
  significand : Nat
  exponent : Int
  isWhole : Bool
  deriving DecidableEq, Repr

namespace Numeral

/-- The natural number that a numeral writes, if it is written as one. -/
def natural? (n : Numeral) : Option Nat :=
  if n.isWhole && !n.negative then some n.significand else none

/-- Takes digits into a significand for as long as it fits 64 bits: the significand, and the number
of digits that were left out. -/
def accumulate (s : Nat) : List Nat → Nat × Nat
  | [] => (s, 0)
  | d :: ds =>
    if 10 * s + d < UInt64.size then accumulate (10 * s + d) ds else (s, ds.length + 1)

/-- The numeral of the digits before and behind a point and an exponent. -/
def ofDigits (negative : Bool) (whole fraction : List Nat) (exponent : Option Int) : Numeral :=
  let (s, dropped) := accumulate 0 whole
  let (s, ignored) := accumulate s fraction
  { negative
    significand := s
    exponent := exponent.getD 0 + dropped - (fraction.length - ignored : Nat)
    isWhole := dropped == 0 && fraction.isEmpty && exponent.isNone }

/-- The numeral that writes a natural number. -/
def ofNatural (n : Nat) : Numeral :=
  .ofDigits false ((Text.decimalDigits n).map fun c => c.toNat - '0'.toNat) [] none

/-- The nearest number of at most 53 binary digits before its zeros; of two, the one whose last
such digit is even. -/
def nearest (n : Nat) : Nat :=
  let unit := 1 <<< (Nat.log2 n - 52)
  let q := n / unit
  let r := n % unit
  if unit < 2 * r || unit == 2 * r && q % 2 == 1 then (q + 1) * unit else q * unit

/-- Whether the number lies in the range of 64-bit floating point: the product of the nearest values
is below the point halfway between the greatest finite value and the next power of two. -/
def isFinite (n : Numeral) : Bool :=
  n.significand == 0 || n.exponent ≤ 0 ||
    n.exponent ≤ 308 && nearest n.significand * nearest (Nat.pow 10 n.exponent.toNat) <
      1 <<< 1024 - 1 <<< 970

end Numeral

end TestFleet.Json
