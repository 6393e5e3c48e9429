import TestFleet.Json.Numeral
import TestFleet.Json.Value

/-!
# JSON as read

Reading bytes yields a draft: the value they write, up to the first place where they write none.
A draft keeps what a reader of a known type needs to report the first fault in the order of the
text, whether the fault lies in the text or in what was expected of it. A reader that only skips a
value is content with more than one that keeps it, so a place where the text breaks off holds both
verdicts.

* `Draft.ofJson`: the draft of a value, which has no such place.
-/

namespace TestFleet.Json

/-- What is wrong with a text: it ends too early, or it goes on wrongly. -/
inductive Fault where
  | endOfText
  | malformed
  deriving DecidableEq, Repr

/-- What is wrong where a text breaks off, for a reader that keeps the value there and for one that
skips it. -/
structure Stop where
  reading : Fault
  skipping : Fault
  deriving DecidableEq, Repr

/-- The same fault for both readers. -/
def Stop.both (f : Fault) : Stop := ⟨f, f⟩

/-- A value as read, up to the place where the text breaks off. -/
inductive Draft where
  | null
  | bool (b : Bool)
  | number (n : Numeral)
  /-- A string; none where its bytes or escapes are no text. -/
  | string (s : Option String)
  | array (items : List Draft) (stop : Option Stop)
  | object (fields : List (Draft × Draft)) (stop : Option Stop)
  /-- No value: the byte found in its place, and what is wrong there. -/
  | broken (found : Option UInt8) (stop : Stop)
  deriving Inhabited

namespace Draft

mutual

/-- The draft of a value that was read completely. -/
def ofJson : Json → Draft
  | .null => .null
  | .bool b => .bool b
  | .natural n => .number (.ofNatural n)
  | .string s => .string (some s)
  | .array items => .array (ofItems items) none
  | .object fields => .object (ofFields fields) none

/-- The drafts of a list of values. -/
def ofItems : List Json → List Draft
  | [] => []
  | item :: items => ofJson item :: ofItems items

/-- The drafts of a list of fields. -/
def ofFields : List (String × Json) → List (Draft × Draft)
  | [] => []
  | (name, value) :: fields => (.string (some name), ofJson value) :: ofFields fields

end

mutual

/-- What a reader that skips a value finds wrong with it. -/
def skipFault : Draft → Option Fault
  | .array items stop => (skipItems items).or (stop.map Stop.skipping)
  | .object fields stop => (skipFields fields).or (stop.map Stop.skipping)
  | .broken _ stop => some stop.skipping
  | _ => none

/-- What such a reader finds wrong with a list of items. -/
def skipItems : List Draft → Option Fault
  | [] => none
  | item :: items => item.skipFault.or (skipItems items)

/-- What such a reader finds wrong with a list of fields. -/
def skipFields : List (Draft × Draft) → Option Fault
  | [] => none
  | (name, value) :: fields => (name.skipFault.or value.skipFault).or (skipFields fields)

end

/-- How many arrays and objects may be open at once in a value that is kept without being
understood. -/
def depthLimit : Nat := 127

mutual

/-- What a reader that keeps a value for later finds wrong with it, `level` arrays and objects
being open around it. -/
def keepFault (level : Nat) : Draft → Option Fault
  | .null | .bool _ => none
  | .number n => if n.isFinite then none else some .malformed
  | .string s => if s.isSome then none else some .malformed
  | .array items stop =>
    if level < depthLimit then (keepItems (level + 1) items).or (stop.map Stop.reading)
    else some .malformed
  | .object fields stop =>
    if level < depthLimit then (keepFields (level + 1) fields).or (stop.map Stop.reading)
    else some .malformed
  | .broken _ stop => some stop.reading

/-- What such a reader finds wrong with a list of items. -/
def keepItems (level : Nat) : List Draft → Option Fault
  | [] => none
  | item :: items => (item.keepFault level).or (keepItems level items)

/-- What such a reader finds wrong with a list of fields. -/
def keepFields (level : Nat) : List (Draft × Draft) → Option Fault
  | [] => none
  | (name, value) :: fields =>
    ((name.keepFault level).or (value.keepFault level)).or (keepFields level fields)

end

end Draft

end TestFleet.Json
