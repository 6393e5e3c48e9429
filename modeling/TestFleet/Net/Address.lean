import TestFleet.Text.Decimal
import TestFleet.Text.Hex

/-!
# Addresses of servers

A server is found under a host's number and a port. A number of four bytes is written in decimal
between dots. One of eight groups is written in hexadecimal between colons and in brackets, its
longest run of two or more zero groups as two colons, the first of several such runs; a number that
embeds one of four bytes shows it. Behind a percent sign may stand the zone that the number is
valid in.

* `SocketAddress.shown`: the one way an address is written;
* `SocketAddress.ofText?`: reads every way of writing one.
-/

namespace TestFleet

/-- The number of a host. -/
inductive Host where
  | v4 (a b c d : UInt8)
  | v6 (groups : Vector UInt16 8) (zone : UInt32)
  deriving DecidableEq, Repr

/-- A host and a port on it. -/
structure SocketAddress where
  host : Host
  port : UInt16
  deriving DecidableEq, Repr

namespace SocketAddress

/-- Any address of this host, and any port that is free. -/
def anywhere : SocketAddress := ⟨.v4 0 0 0 0, 0⟩

/-! ## Writing -/

/-- Four bytes between dots. -/
def shownBytes (bytes : List Nat) : String := ".".intercalate (bytes.map Text.decimal)

/-- Groups between colons. -/
def shownGroups (groups : List Nat) : String :=
  ":".intercalate (groups.map fun g => String.ofList (Nat.toDigits 16 g))

/-- How many groups at the front are zero. -/
def zeros (groups : List Nat) : Nat := (groups.takeWhile (· == 0)).length

/-- The place and the length of the longest run of zero groups, the first one of its length. The
groups begin at place `i`. -/
def longestZeros : Nat → List Nat → Nat × Nat
  | _, [] => (0, 0)
  | i, g :: gs =>
    let here := zeros (g :: gs)
    let later := longestZeros (i + 1) gs
    if later.2 ≤ here then (i, here) else later

/-- Eight groups, without brackets. -/
def shownV6 (groups : List Nat) : String :=
  match groups with
  | [0, 0, 0, 0, 0, 0xffff, x, y] =>
    "::ffff:" ++ shownBytes [x / 256, x % 256, y / 256, y % 256]
  | _ =>
    let (start, length) := longestZeros 0 groups
    if 1 < length then
      shownGroups (groups.take start) ++ "::" ++ shownGroups (groups.drop (start + length))
    else shownGroups groups

/-- An address as it is written. -/
def shown (a : SocketAddress) : String :=
  let port := ":" ++ Text.decimal a.port.toNat
  match a.host with
  | .v4 a b c d => shownBytes [a.toNat, b.toNat, c.toNat, d.toNat] ++ port
  | .v6 groups zone =>
    let zoneText := if zone = 0 then "" else "%" ++ Text.decimal zone.toNat
    "[" ++ shownV6 (groups.toList.map UInt16.toNat) ++ zoneText ++ "]" ++ port

/-! ## Reading -/

/-- The value of a digit of a base up to sixteen. -/
def digit? (base : Nat) (c : Char) : Option Nat :=
  (Text.hexValue? c).filter (· < base)

/-- A number at the front of a text, all of its digits, and what follows it. -/
def number? (base : Nat) (limit : Nat) (cs : List Char) : Option (Nat × List Char) :=
  let digits := cs.takeWhile fun c => (digit? base c).isSome
  let n := digits.foldl (fun n c => base * n + (digit? base c).getD 0) 0
  if digits.isEmpty ∨ limit ≤ n then none else some (n, cs.drop digits.length)

/-- A number of at most so many digits. -/
def shortNumber? (base most limit : Nat) (cs : List Char) : Option (Nat × List Char) :=
  if most < (cs.takeWhile fun c => (digit? base c).isSome).length then none
  else number? base limit cs

/-- A byte in decimal, without leading zeros. -/
def byte? (cs : List Char) : Option (Nat × List Char) :=
  match cs with
  | '0' :: c :: _ => if (digit? 10 c).isSome then none else shortNumber? 10 3 256 cs
  | _ => shortNumber? 10 3 256 cs

/-- Takes a character off the front of a text. -/
def skip? (c : Char) : List Char → Option (List Char)
  | [] => none
  | d :: cs => if d = c then some cs else none

/-- Four bytes between dots. -/
def v4? (cs : List Char) : Option ((Nat × Nat × Nat × Nat) × List Char) := do
  let (a, cs) ← byte? cs
  let (b, cs) ← skip? '.' cs >>= byte?
  let (c, cs) ← skip? '.' cs >>= byte?
  let (d, cs) ← skip? '.' cs >>= byte?
  some ((a, b, c, d), cs)

/-- As many groups between colons as there are, but no more than `most`; whether the last two of
them were written as four bytes; and what follows. The first group has no colon before it. -/
def groups : (most : Nat) → (isFirst : Bool) → List Char → List Nat × Bool × List Char
  | 0, _, cs => ([], false, cs)
  | most + 1, isFirst, cs =>
    match if isFirst then some cs else skip? ':' cs with
    | none => ([], false, cs)
    | some inner =>
      match if 0 < most then v4? inner else none with
      | some ((a, b, c, d), rest) => ([256 * a + b, 256 * c + d], true, rest)
      | none =>
        match shortNumber? 16 4 0x10000 inner with
        | none => ([], false, cs)
        | some (g, rest) =>
          let (gs, bytes, rest) := groups most false rest
          (g :: gs, bytes, rest)

/-- Eight groups, of which two colons may replace some that are zero. -/
def v6? (cs : List Char) : Option (List Nat × List Char) := do
  let (front, bytes, cs) := groups 8 true cs
  if front.length = 8 then some (front, cs)
  else if bytes then none
  else do
    let cs ← skip? ':' cs >>= skip? ':'
    let (back, _, cs) := groups (7 - front.length) true cs
    some (front ++ List.replicate (8 - front.length - back.length) 0 ++ back, cs)

/-- A colon and a port. -/
def port? (cs : List Char) : Option (UInt16 × List Char) := do
  let (n, cs) ← skip? ':' cs >>= number? 10 0x10000
  some (UInt16.ofNat n, cs)

/-- The zone, or none if there is none. -/
def zone (cs : List Char) : Nat × List Char :=
  (skip? '%' cs >>= number? 10 UInt32.size).getD (0, cs)

/-- An address at the front of a text. -/
def address? (cs : List Char) : Option (SocketAddress × List Char) :=
  match cs with
  | '[' :: cs => do
    let (gs, cs) ← v6? cs
    let (z, cs) := zone cs
    let (port, cs) ← skip? ']' cs >>= port?
    some (⟨.v6 (.ofFn fun i => UInt16.ofNat (gs.getD i 0)) (UInt32.ofNat z), port⟩, cs)
  | cs => do
    let ((a, b, c, d), cs) ← v4? cs
    let (port, cs) ← port? cs
    some (⟨.v4 (.ofNat a) (.ofNat b) (.ofNat c) (.ofNat d), port⟩, cs)

/-- Reads an address that a text holds, and nothing else. -/
def ofText? (s : String) : Option SocketAddress :=
  match address? s.toList with
  | some (a, []) => some a
  | _ => none

end SocketAddress

end TestFleet
