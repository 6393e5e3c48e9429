import TestFleet.Json.Reader
import TestFleet.Time.Duration

/-!
# Looking into drafts

Where no type says what a text holds, its draft is asked for one field after the other. Each answer
is a value, or the name of the field that holds none of the kind that was asked for. A field that is
null counts as missing, and of several fields of one name the last counts.
-/

namespace TestFleet.Json

/-- A value, or the name of the field that does not hold one. -/
abbrev Query := Except String

/-- A value that was looked for in a field. -/
def Query.orBad {α : Type} (field : String) : Option α → Query α
  | some a => .ok a
  | none => .error field

namespace Draft

variable {α : Type}

/-- The value of a field. -/
def field? (d : Draft) (name : String) : Option Draft :=
  match d with
  | object fields _ =>
    match (Fields.given name 0 fields).getLast? with
    | some (_, null) | none => none
    | some (_, v) => some v
  | _ => none

def asText? : Draft → Option String
  | string s => s
  | _ => none

/-- A natural number below a limit. -/
def asBelow? (limit : Nat) : Draft → Option Nat
  | number n => n.natural?.filter (· < limit)
  | _ => none

/-- A natural number of 64 bits. -/
def asNatural? : Draft → Option Nat := asBelow? UInt64.size

def asItems? : Draft → Option (List Draft)
  | array items _ => some items
  | _ => none

/-- The fields of an object whose names are texts. -/
def asPairs? : Draft → Option (List (String × Draft))
  | object fields _ => some (fields.filterMap fun (n, v) => (asText? n).map (·, v))
  | _ => none

def asBool? : Draft → Option Bool
  | bool b => some b
  | _ => none

/-- Seconds and nanoseconds, the latter less than a second. -/
def asDuration? (d : Draft) : Option Duration := do
  match ← d.asItems? with
  | [s, n] => Duration.ofParts? (← s.asNatural?) (← n.asBelow? nanosPerSecond)
  | _ => none

/-- A field that must be there. -/
def need (read : Draft → Option α) (d : Draft) (name : String) : Query α :=
  .orBad name (d.field? name >>= read)

/-- A field that may be missing. -/
def may (read : Draft → Option α) (d : Draft) (name : String) : Query (Option α) :=
  match d.field? name with
  | none => .ok none
  | some v => (Query.orBad name (read v)).map some

def text (d : Draft) (name : String) : Query String := d.need asText? name

def textOr (d : Draft) (name : String) (default : String) : Query String :=
  return (← d.may asText? name).getD default

def natural (d : Draft) (name : String) : Query Nat := d.need asNatural? name

def naturalOr (d : Draft) (name : String) (default : Nat) : Query Nat :=
  return (← d.may asNatural? name).getD default

/-- Whether a field holds true. -/
def flag (d : Draft) (name : String) : Bool := ((d.field? name).bind asBool?).getD false

def items (d : Draft) (name : String) : Query (List Draft) := d.need asItems? name

def itemsOr (d : Draft) (name : String) : Query (List Draft) :=
  return (← d.may asItems? name).getD []

/-- The texts of a list; an item that is none counts as a bad string. -/
def texts (d : Draft) (name : String) : Query (List String) := do
  (← d.items name).mapM fun v => .orBad "string" v.asText?

/-- Milliseconds. -/
def millisOr (d : Draft) (name : String) (default : Nat) : Query Duration :=
  return .ofMillis (UInt64.ofNat (← d.naturalOr name default))

mutual

/-- A value with a patch over it: objects are patched field by field, and all else is replaced. -/
def patched (base : Draft) : Draft → Draft
  | object patch stop =>
    match base with
    | object fields stop => object (patchedFields fields patch) stop
    | _ => object patch stop
  | patch => patch

/-- Fields with a patch over them. New fields come last. -/
def patchedFields (fields : List (Draft × Draft)) : List (Draft × Draft) → List (Draft × Draft)
  | [] => fields
  | (name, value) :: patch =>
    let same (f : Draft × Draft) : Bool := f.1.asText? == name.asText?
    let fields :=
      if fields.any same then
        fields.map fun f => if same f then (f.1, f.2.patched value) else f
      else fields ++ [(name, value)]
    patchedFields fields patch

end

end Draft

end TestFleet.Json
