import TestFleet.Shell.Bytes

/-!
# Patterns

In a pattern a star stands for any characters, a question mark for one, and brackets for one of a
set; all else, and all that is quoted, stands for itself. Brackets that are not closed are no set.

* `matches_ofText`: a pattern of quoted characters matches itself alone.
-/

namespace TestFleet.Shell

/-- A character of a pattern, and whether it is quoted. -/
abbrev Pattern := List (Char × Bool)

namespace Pattern

/-- The pattern that matches one text. -/
def ofText (s : String) : Pattern := s.toList.map (·, true)

/-- Whether a pattern may match anything but itself. -/
def isWild (p : Pattern) : Bool :=
  p.any fun (c, isQuoted) => !isQuoted && (c == '*' || c == '?' || c == '[')

/-- Whether a character is of a named kind. -/
def kind? : String → Option (Char → Bool)
  | "alnum" => some Char.isAlphanum
  | "alpha" => some Char.isAlpha
  | "blank" => some fun c => c == ' ' || c == '\t'
  | "cntrl" => some fun c => c < ' ' || c == '\x7f'
  | "digit" => some Char.isDigit
  | "graph" => some fun c => '!' ≤ c && c ≤ '~'
  | "lower" => some Char.isLower
  | "print" => some fun c => ' ' ≤ c && c ≤ '~'
  | "punct" => some fun c => '!' ≤ c && c ≤ '~' && !c.isAlphanum
  | "space" => some isSpace
  | "upper" => some Char.isUpper
  | "xdigit" => some fun c => (digit? 16 c).isSome
  | _ => none

/-- Takes the name of a kind off the front, behind its opening bracket. -/
def takeKind? (p : Pattern) : Option ((Char → Bool) × Pattern) :=
  match p with
  | (':', _) :: p =>
    let name := p.takeWhile fun c => c.1 != ':'
    match p.drop name.length with
    | _ :: (']', _) :: rest => (kind? (String.ofList (name.map (·.1)))).map (·, rest)
    | _ => none
  | _ => none

/-- Goes through the rest of a set, of at most `steps` parts: whether one of them has the character,
and the pattern behind the set. -/
def inSet? (c : Char) : Nat → Bool → Pattern → Option (Bool × Pattern)
  | 0, _, _ => none
  | steps + 1, isFirst, p =>
    let go (found : Bool) (p : Pattern) :=
      (inSet? c steps false p).map fun (later, rest) => (found || later, rest)
    match p with
    | [] => none
    | (x, isQuoted) :: p =>
      if x = ']' ∧ !isQuoted ∧ !isFirst then some (false, p)
      else match if x = '[' ∧ !isQuoted then takeKind? p else none with
        | some (hasKind, p) => go (hasKind c) p
        | none =>
          match p with
          | ('-', false) :: (y, q) :: rest =>
            if y = ']' ∧ !q then go (c == x) p else go (x ≤ c && c ≤ y) rest
          | p => go (c == x) p

/-- Whether a character is in the set behind an opening bracket, and the pattern behind the set. -/
def set? (c : Char) (p : Pattern) : Option (Bool × Pattern) :=
  match p with
  | ('!', false) :: rest =>
    (inSet? c (rest.length + 1) true rest).map fun (found, rest) => (!found, rest)
  | p => inSet? c (p.length + 1) true p

/-- Whether a text matches a pattern, within a bound on the steps. -/
def matchesWithin : Nat → Pattern → List Char → Bool
  | 0, _, _ => false
  | n + 1, p, cs =>
    match p, cs with
    | [], cs => cs.isEmpty
    | ('*', false) :: p, [] => matchesWithin n p []
    | ('*', false) :: p, c :: cs =>
      matchesWithin n p (c :: cs) || matchesWithin n (('*', false) :: p) cs
    | _ :: _, [] => false
    | (x, isQuoted) :: p, c :: cs =>
      if x = '?' ∧ !isQuoted then matchesWithin n p cs
      else match if x = '[' ∧ !isQuoted then set? c p else none with
        | some (found, p) => found && matchesWithin n p cs
        | none => x == c && matchesWithin n p cs

/-- Whether a text matches a pattern. -/
def matchesText (p : Pattern) (cs : List Char) : Bool :=
  matchesWithin (p.length + cs.length + 1) p cs

theorem matchesWithin_ofChars (s cs : List Char) (n : Nat) (h : s.length < n) :
    matchesWithin n (s.map (·, true)) cs = (s == cs) := by
  induction s generalizing cs n with
  | nil =>
    obtain ⟨n, rfl⟩ : ∃ m, n = m + 1 := ⟨n - 1, by simp at h; omega⟩
    cases cs <;> simp [matchesWithin]
  | cons c s ih =>
    obtain ⟨n, rfl⟩ : ∃ m, n = m + 1 := ⟨n - 1, by simp at h; omega⟩
    cases cs with
    | nil => simp [matchesWithin]
    | cons d cs =>
      have hs : s.length < n := by simp at h; omega
      simp [matchesWithin, ih cs n hs]

theorem matches_ofText (s : String) (cs : List Char) :
    matchesText (ofText s) cs = (s.toList == cs) := by
  unfold matchesText ofText
  apply matchesWithin_ofChars
  simp only [List.length_map]
  omega

/-- What is left of a text when the shortest or longest part that matches is cut off its front. -/
def trimFront (p : Pattern) (longest : Bool) (cs : List Char) : List Char :=
  let lengths := List.range (cs.length + 1)
  match (if longest then lengths.reverse else lengths).find? fun n =>
    matchesText p (cs.take n) with
  | some n => cs.drop n
  | none => cs

/-- What is left of a text when the shortest or longest part that matches is cut off its end. -/
def trimEnd (p : Pattern) (longest : Bool) (cs : List Char) : List Char :=
  let lengths := List.range (cs.length + 1)
  match (if longest then lengths else lengths.reverse).find? fun n =>
    matchesText p (cs.drop n) with
  | some n => cs.take n
  | none => cs

end Pattern

end TestFleet.Shell
