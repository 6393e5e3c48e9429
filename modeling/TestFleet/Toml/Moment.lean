/-!
# Dates and times of settings files

A date has a year, a month and a day, a time an hour, a minute and a second, which may have a
fraction. A time may follow a date, and then may tell how far it is from the time of day at the
meridian. Every month may have 31 days and every minute 61 seconds.

No setting is a date or a time, so of each only the end is read: every reader skips what it reads at
the front of the text, and gives back the text behind it.
-/

namespace TestFleet.Toml.Moment

/-- Skips a number of so many digits that lies between two bounds. -/
def field? (digits low high : Nat) (cs : List Char) : Option (List Char) :=
  let ds := cs.take digits
  if ds.length = digits ∧ ds.all Char.isDigit then
    let n := ds.foldl (fun n d => 10 * n + (d.toNat - 48)) 0
    if low ≤ n ∧ n ≤ high then some (cs.drop digits) else none
  else none

/-- Skips one character. -/
def mark? (mark : Char) : List Char → Option (List Char)
  | c :: cs => if c = mark then some cs else none
  | [] => none

/-- Skips a date. -/
def date? (cs : List Char) : Option (List Char) :=
  field? 4 0 9999 cs >>= mark? '-' >>= field? 2 1 12 >>= mark? '-' >>= field? 2 1 31

/-- Skips an hour and a minute. -/
def hourAndMinute? (cs : List Char) : Option (List Char) :=
  field? 2 0 23 cs >>= mark? ':' >>= field? 2 0 59

/-- Skips a fraction of a second, if there is one. -/
def skipFraction : List Char → List Char
  | '.' :: c :: cs => if c.isDigit then cs.dropWhile Char.isDigit else '.' :: c :: cs
  | cs => cs

/-- Skips a time. -/
def time? (cs : List Char) : Option (List Char) :=
  (hourAndMinute? cs >>= mark? ':' >>= field? 2 0 60).map skipFraction

/-- Skips a distance from the meridian, if there is one. -/
def offset? : List Char → Option (List Char)
  | 'Z' :: cs | 'z' :: cs => some cs
  | '+' :: cs | '-' :: cs => hourAndMinute? cs
  | cs => some cs

/-- Skips a time behind a date, if there is one. -/
def timeOfDate? : List Char → Option (List Char)
  | c :: cs =>
    if c = 'T' ∨ c = 't' ∨ c = ' ' then
      match time? cs with
      | some cs => offset? cs
      | none => some (c :: cs)
    else some (c :: cs)
  | [] => some []

/-- The text behind a date, a time, or both. -/
def after? (cs : List Char) : Option (List Char) :=
  match date? cs with
  | some cs => timeOfDate? cs
  | none => time? cs

end TestFleet.Toml.Moment
