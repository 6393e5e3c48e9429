/-!
# Blank characters, and lines

A character is blank when Unicode gives it the property White_Space. Texts are trimmed of blanks,
and cut into lines at line feeds, a carriage return before the feed belonging to it.

* `isBlank_of_isWhitespace`: the four blanks of ASCII are among them.
-/

namespace TestFleet.Text

/-- Closed ranges of the blank code points, ascending and apart. -/
def blankRanges : List (Nat × Nat) :=
  [(0x09, 0x0D), (0x20, 0x20), (0x85, 0x85), (0xA0, 0xA0), (0x1680, 0x1680), (0x2000, 0x200A),
   (0x2028, 0x2029), (0x202F, 0x202F), (0x205F, 0x205F), (0x3000, 0x3000)]

/-- Whether a character is blank. -/
def isBlank (c : Char) : Bool :=
  blankRanges.any (fun r => r.1 ≤ c.toNat && c.toNat ≤ r.2)

theorem isBlank_of_isWhitespace (c : Char) (h : c.isWhitespace = true) : isBlank c = true := by
  simp only [Char.isWhitespace, Bool.or_eq_true, decide_eq_true_eq] at h
  rcases h with ((h | h) | h) | h <;> subst h <;> decide

/-- Drops the characters that `p` accepts from both ends. -/
def stripBoth (p : Char → Bool) (cs : List Char) : List Char :=
  ((cs.dropWhile p).reverse.dropWhile p).reverse

/-- The text without the blanks around it. -/
def trim (s : String) : String := String.ofList (stripBoth isBlank s.toList)

/-- Whether a text holds nothing but blanks. -/
def isBlankText (s : String) : Bool := s.toList.all isBlank

/-- The pieces of `cs` between the occurrences of `c`; one more than there are occurrences. -/
def pieces (c : Char) : List Char → List (List Char)
  | [] => [[]]
  | x :: xs =>
    if x = c then [] :: pieces c xs
    else match pieces c xs with
      | [] => [[x]]
      | p :: ps => (x :: p) :: ps

/-- A line without the carriage return at its end. -/
def dropReturn (line : List Char) : List Char :=
  if line.getLast? = some '\r' then line.dropLast else line

/-- The lines of a text. A line feed ends a line, so none follows the last one. -/
def lines (s : String) : List String :=
  let all := pieces '\n' s.toList
  let closed := all.dropLast.map dropReturn
  let rest := match all.getLast? with
    | none | some [] => []
    | some last => [last]
  (closed ++ rest).map String.ofList

end TestFleet.Text
