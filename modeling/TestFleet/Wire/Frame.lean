import TestFleet.Json.Reader
import TestFleet.Protocol.Fault

/-!
# Frames

A message travels as a frame: the length of its JSON text in four bytes, the greatest first, and
then the text. Frames above a size limit are neither written nor read; of one that is announced,
only the length is taken off the stream.

* `write`: the frame of a value;
* `read`: the value of the frame at the front of a stream, and what is left of the stream.

Four bytes and the lengths below 2³² are the same thing: `announced_header` and `header_announced`.
-/

namespace TestFleet.Frame

/-- The four bytes of a length, the greatest first. -/
def header (n : Nat) : List UInt8 :=
  [UInt8.ofNat (n >>> 24), UInt8.ofNat (n >>> 16), UInt8.ofNat (n >>> 8), UInt8.ofNat n]

/-- The length that four bytes announce. -/
def announced (a b c d : UInt8) : Nat :=
  ((a.toNat * 256 + b.toNat) * 256 + c.toNat) * 256 + d.toNat

@[simp] theorem length_header (n : Nat) : (header n).length = 4 := rfl

theorem announced_header {n : Nat} (h : n < UInt32.size) :
    announced (.ofNat (n >>> 24)) (.ofNat (n >>> 16)) (.ofNat (n >>> 8)) (.ofNat n) = n := by
  simp only [announced, UInt8.toNat_ofNat', Nat.shiftRight_eq_div_pow, UInt32.size] at h ⊢
  omega

theorem header_announced (a b c d : UInt8) : header (announced a b c d) = [a, b, c, d] := by
  have := a.toNat_lt
  have := b.toNat_lt
  have := c.toNat_lt
  have := d.toNat_lt
  simp only [header, announced, List.cons.injEq, and_true, ← UInt8.toNat_inj,
    UInt8.toNat_ofNat', Nat.shiftRight_eq_div_pow]
  omega

/-- The frame of a value, unless it is too long. -/
def write (j : Json) : Except LinkFault (List UInt8) :=
  let body := j.bytes
  if body.length ≤ messageLimit then .ok (header body.length ++ body)
  else .error (.tooLong body.length)

/-- What is wrong with a message whose text cannot be read. -/
def bodyFault : Json.Fault → LinkFault
  | .endOfText => .closed
  | .malformed => .badData

/-- Takes the frame at the front of a stream, and reads its message. -/
def read (r : Json.Reader α) : List UInt8 → Except LinkFault α × List UInt8
  | a :: b :: c :: d :: rest =>
    let n := announced a b c d
    if messageLimit < n then (.error (.announcedTooLong n), rest)
    else if rest.length < n then (.error .closed, [])
    else ((r.ofBytes (rest.take n)).mapError bodyFault, rest.drop n)
  | _ => (.error .closed, [])

end TestFleet.Frame
