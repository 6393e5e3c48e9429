/-!
# Text as bytes

Texts cross the wire as UTF-8. Reading is strict where the format demands text (`ofUtf8?`) and
forgiving where a foreign program wrote the bytes (`ofUtf8Lossy`): there each longest piece that
could begin a character but does not end one is replaced by U+FFFD.
-/

namespace TestFleet.Text

/-- The bytes of a text. -/
def utf8 (s : String) : List UInt8 := s.toUTF8.data.toList

/-- The text that bytes encode, if they encode one. -/
def ofUtf8? (bytes : List UInt8) : Option String := String.fromUTF8? ⟨bytes.toArray⟩

/-- The bytes that may follow a first byte: how many there are, and the least and the greatest
value of the one next to it. -/
def followers? (first : Nat) : Option (Nat × Nat × Nat) :=
  if first < 0x80 then some (0, 0x80, 0xBF)
  else if 0xC2 ≤ first ∧ first ≤ 0xDF then some (1, 0x80, 0xBF)
  else if first = 0xE0 then some (2, 0xA0, 0xBF)
  else if first = 0xED then some (2, 0x80, 0x9F)
  else if 0xE1 ≤ first ∧ first ≤ 0xEF then some (2, 0x80, 0xBF)
  else if first = 0xF0 then some (3, 0x90, 0xBF)
  else if 0xF1 ≤ first ∧ first ≤ 0xF3 then some (3, 0x80, 0xBF)
  else if first = 0xF4 then some (3, 0x80, 0x8F)
  else none

/-- Takes `n` bytes that continue a character, the next of them between `low` and `high`, in front
of which the value `v` was read: the finished code point if all are there, and what is left. -/
def continued (v : Nat) : Nat → Nat → Nat → List UInt8 → Option Nat × List UInt8
  | 0, _, _, rest => (some v, rest)
  | _ + 1, _, _, [] => (none, [])
  | n + 1, low, high, b :: rest =>
    if low ≤ b.toNat ∧ b.toNat ≤ high then
      continued (64 * v + b.toNat % 64) n 0x80 0xBF rest
    else (none, b :: rest)

theorem length_continued_le (v n low high : Nat) (rest : List UInt8) :
    (continued v n low high rest).2.length ≤ rest.length := by
  induction n generalizing v low high rest with
  | zero => simp [continued]
  | succ n ih =>
    cases rest with
    | nil => simp [continued]
    | cons b rest =>
      simp only [continued]
      split
      · exact Nat.le_succ_of_le (ih ..)
      · simp

/-- The characters of bytes, with U+FFFD for each piece that is no character. -/
def lossyChars : List UInt8 → List Char
  | [] => []
  | b :: rest =>
    match followers? b.toNat with
    | none => '\uFFFD' :: lossyChars rest
    | some (n, low, high) =>
      let lead := if n = 0 then b.toNat else b.toNat % (1 <<< (6 - n))
      let step := continued lead n low high rest
      (step.1.map Char.ofNat).getD '\uFFFD' :: lossyChars step.2
termination_by bytes => bytes.length
decreasing_by
  · simp
  · exact Nat.lt_succ_of_le (length_continued_le ..)

/-- The text of bytes, with U+FFFD for each piece that is no character. -/
def ofUtf8Lossy (bytes : List UInt8) : String := String.ofList (lossyChars bytes)

end TestFleet.Text
