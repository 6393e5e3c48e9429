import TestFleet.Json.Parser

/-!
# Readers of known types

A reader takes a draft for a value of one type, or reports the first fault in the order of the
text. Objects may list their fields in any order; fields that a type does not know are skipped, a
field given twice is a fault, and one that is missing is a fault unless it has a default. The
fields of an object may also come as the items of an array, in the order of the type.

* `Reader.ofBytes`: reading a whole text.
-/

namespace TestFleet.Json

/-- Reads a value of one type off a draft around which so many arrays and objects are open. -/
abbrev Reader (α : Type) := Nat → Draft → Except Fault α

namespace Reader

variable {α β : Type}

/-- The fault of a draft that is not of the expected kind: the text's own fault where it breaks
off, and otherwise a mismatch. -/
def mismatch : Draft → Except Fault α
  | .broken _ stop => .error stop.reading
  | _ => .error .malformed

/-- Reads a text. -/
def text : Reader String
  | _, .string (some s) => .ok s
  | _, d => mismatch d

/-- Reads a truth value. -/
def bool : Reader Bool
  | _, .bool b => .ok b
  | _, d => mismatch d

/-- Reads a natural number below a limit. -/
def below (limit : Nat) : Reader Nat
  | _, .number n =>
    match n.natural? with
    | some k => if k < limit then .ok k else .error .malformed
    | none => .error .malformed
  | _, d => mismatch d

/-- Reads a number of 32 bits. -/
def uint32 : Reader UInt32 := fun level d => (below UInt32.size level d).map UInt32.ofNat

/-- Reads a number of 64 bits. -/
def uint64 : Reader UInt64 := fun level d => (below UInt64.size level d).map UInt64.ofNat

/-- Reads a value as another one. -/
def map (f : α → β) (r : Reader α) : Reader β := fun level d => (r level d).map f

/-- Reads a value that a further rule may refuse. -/
def restrict (f : α → Option β) (r : Reader α) : Reader β := fun level d => do
  match f (← r level d) with
  | some b => pure b
  | none => throw .malformed

/-- Reads a value, or nothing where the text holds a null. -/
def optional (r : Reader α) : Reader (Option α)
  | _, .null => .ok none
  | level, d => (r level d).map some

/-- The fault, if there is one. -/
def orElse (a : α) : Option Fault → Except Fault α
  | none => .ok a
  | some f => .error f

/-- Reads a list, item by item. -/
def list (r : Reader α) : Reader (List α)
  | level, .array items stop => do
    let as ← items.mapM (r (level + 1))
    orElse as (stop.map Stop.reading)
  | _, d => mismatch d

/-- Reads an object whose names are arbitrary texts. -/
def pairs (r : Reader α) : Reader (List (String × α))
  | level, .object fields stop => do
    let as ← fields.mapM fun (name, value) => do
      let name ← text (level + 1) name
      pure (name, ← r (level + 1) value)
    orElse as (stop.map Stop.reading)
  | _, d => mismatch d

/-- Reads a value that is not understood yet, to be read again later. -/
def kept : Reader Draft := fun level d => orElse d (d.keepFault level)

/-- Reads nothing but a null. -/
def unit (a : α) : Reader α
  | _, .null => .ok a
  | _, d => mismatch d

end Reader

/-! ## Records -/

/-- A fault and the place of the field at which it shows. -/
structure Misfit where
  place : Nat
  fault : Fault

/-- The first of two faults. -/
def Misfit.first (a b : Misfit) : Misfit := if b.place < a.place then b else a

/-- The fields of a record: their names, how a value is gathered from the fields of an object, and
how it is taken off the front of a list of items. -/
structure Fields (α : Type) where
  names : List String
  gather : Nat → List (Draft × Draft) → Except Misfit α
  take : Nat → List Draft × Option Stop → Except Fault (α × List Draft)

namespace Fields

variable {α β : Type}

/-- Whether a draft is the given name. -/
def isNamed (name : String) : Draft → Bool
  | .string (some s) => s == name
  | _ => false

/-- The values given for a name, each with its place, the first of which stands at `place`. -/
def given (name : String) (place : Nat) : List (Draft × Draft) → List (Nat × Draft)
  | [] => []
  | (n, value) :: fields =>
    if isNamed name n then (place, value) :: given name (place + 1) fields
    else given name (place + 1) fields

/-- Reads the one value given for a name; `absent` is what a missing one counts as. -/
def gatherOne (name : String) (r : Reader α) (absent : Option α) (level : Nat)
    (fields : List (Draft × Draft)) : Except Misfit α :=
  match given name 0 fields with
  | [] => match absent with
    | some a => .ok a
    | none => .error ⟨fields.length + 1, .malformed⟩
  | [(place, value)] => (r (level + 1) value).mapError (Misfit.mk place)
  | (place, value) :: (again, _) :: _ =>
    match r (level + 1) value with
    | .ok _ => .error ⟨again, .malformed⟩
    | .error f => .error ⟨place, f⟩

/-- Reads the item at the front; `absent` is what a missing one counts as. -/
def takeOne (r : Reader α) (absent : Option α) (level : Nat) :
    List Draft × Option Stop → Except Fault (α × List Draft)
  | (item :: items, _) => (r (level + 1) item).map (fun a => (a, items))
  | ([], some stop) => .error stop.reading
  | ([], none) => match absent with
    | some a => .ok (a, [])
    | none => .error .malformed

/-- A field that must be there. -/
def required (name : String) (r : Reader α) : Fields α :=
  ⟨[name], gatherOne name r none, takeOne r none⟩

/-- A field with a default. -/
def defaulted (name : String) (r : Reader α) (a : α) : Fields α :=
  ⟨[name], gatherOne name r (some a), takeOne r (some a)⟩

/-- A field that may be missing or null. In a list of items it must be there. -/
def optional (name : String) (r : Reader α) : Fields (Option α) :=
  ⟨[name], gatherOne name r.optional (some none), takeOne r.optional none⟩

/-- No fields. -/
def always (a : α) : Fields α := ⟨[], fun _ _ => .ok a, fun _ s => .ok (a, s.1)⟩

/-- Two faults together show as the first of them. -/
def both : Except Misfit (α → β) → Except Misfit α → Except Misfit β
  | .ok f, .ok a => .ok (f a)
  | .ok _, .error m => .error m
  | .error m, .ok _ => .error m
  | .error m, .error n => .error (m.first n)

/-- More fields. -/
def seq (fs : Fields (α → β)) (as : Fields α) : Fields β where
  names := fs.names ++ as.names
  gather level fields := both (fs.gather level fields) (as.gather level fields)
  take level s := do
    let (f, rest) ← fs.take level s
    let (a, rest) ← as.take level (rest, s.2)
    Except.ok (f a, rest)

/-- Applies a function to what the fields yield. -/
def map (f : α → β) (as : Fields α) : Fields β := seq (always f) as

instance : Functor Fields := { map := map }

instance : Seq Fields := { seq := fun fs as => seq fs (as ()) }

/-- What is wrong with a field that the record does not have, or whose name is no text. A record
may refuse or skip fields that it does not have. -/
def strayFault (names : List String) (refuse : Bool) (level : Nat) (field : Draft × Draft) :
    Option Fault :=
  match Reader.text level field.1 with
  | .error f => some f
  | .ok name =>
    if names.contains name then none
    else if refuse then some .malformed
    else field.2.skipFault

/-- The first stray field that is wrong, from the field at `place` on. -/
def firstStray (names : List String) (refuse : Bool) (level : Nat) (place : Nat) :
    List (Draft × Draft) → Option Misfit
  | [] => none
  | field :: fields =>
    match strayFault names refuse level field with
    | some f => some ⟨place, f⟩
    | none => firstStray names refuse level (place + 1) fields

/-- Gathers a record from the fields of an object. -/
def ofFields (fs : Fields α) (refuse : Bool) (level : Nat) (fields : List (Draft × Draft))
    (stop : Option Stop) : Except Misfit α :=
  let stray := firstStray fs.names refuse level 0 fields
  let unclosed := stop.map fun s => Misfit.mk fields.length s.reading
  match fs.gather level fields, stray.or unclosed with
  | .ok a, none => .ok a
  | .ok _, some m => .error m
  | .error m, none => .error m
  | .error m, some n => .error (m.first n)

/-- Takes a record off a list of items that holds nothing else. -/
def ofItems (fs : Fields α) (level : Nat) (items : List Draft) (stop : Option Stop) :
    Except Fault α := do
  let (a, rest) ← fs.take level (items, stop)
  if rest.isEmpty then Reader.orElse a (stop.map Stop.reading) else throw .malformed

/-- Reads a record. -/
def reader (fs : Fields α) (refuse : Bool) : Reader α
  | level, .object fields stop =>
    (fs.ofFields refuse level fields stop).mapError Misfit.fault
  | level, .array items stop => fs.ofItems level items stop
  | _, d => Reader.mismatch d

end Fields

/-- Reads a record, skipping the fields that it does not have. -/
def Reader.record (fs : Fields α) : Reader α := fs.reader false

/-- Reads a record, refusing fields that it does not have. -/
def Reader.strictRecord (fs : Fields α) : Reader α := fs.reader true

/-! ## Alternatives -/

/-- What an alternative carries besides its name. -/
inductive Content (α : Type) where
  | nothing (a : α)
  | one (r : Reader α)
  | record (fs : Fields α)

namespace Reader

variable {α : Type}

/-- Reads what an alternative carries. -/
def content : Content α → Reader α
  | .nothing a => unit a
  | .one r => r
  | .record fs => Reader.record fs

/-- The alternative of a name. -/
def alternative (cases : List (String × Content α)) (name : String) : Except Fault (Content α) :=
  match cases.lookup name with
  | some c => .ok c
  | none => .error .malformed

/-- Reads one of several alternatives: its name alone if it carries nothing, and otherwise an object
with the name as its only field. -/
def oneOf (cases : List (String × Content α)) : Reader α
  | _, .string (some name) => do
    match ← alternative cases name with
    | .nothing a => pure a
    | _ => throw .malformed
  | level, .object ((name, value) :: fields) stop => do
    let c ← alternative cases (← text (level + 1) name)
    let a ← content c (level + 1) value
    if fields.isEmpty then orElse a (stop.map Stop.reading) else throw .malformed
  | _, .object [] (some stop) => .error stop.reading
  | _, .broken (some b) stop => .error (if b = ascii '"' then stop.reading else .malformed)
  | _, d => mismatch d

/-- Reads a name that stands for a value. -/
def named (cases : List (String × α)) : Reader α :=
  oneOf (cases.map fun (name, a) => (name, Content.nothing a))

/-! ### A name and its content side by side -/

/-- What reading an object with a name beside its content has found so far. -/
structure Beside (α : Type) where
  name : Option (Content α)
  kept : Option Draft
  value : Option α

/-- Reads one field of such an object. Content that comes before the name is kept until the name is
known. -/
def besideField (cases : List (String × Content α)) (tag carried : String) (level : Nat)
    (found : Beside α) (field : Draft × Draft) : Except Fault (Beside α) := do
  let name ← text (level + 1) field.1
  if name = tag then
    if found.name.isSome then throw .malformed
    let c ← named cases (level + 1) field.2
    match found.kept with
    | none => pure { found with name := some c }
    | some d => pure { found with name := some c, value := some (← content c 0 d) }
  else if name = carried then
    if found.kept.isSome || found.value.isSome then throw .malformed
    match found.name with
    | none => pure { found with kept := some (← kept (level + 1) field.2) }
    | some c => pure { found with value := some (← content c (level + 1) field.2) }
  else
    orElse found field.2.skipFault

/-- Reads one of several alternatives from an object that holds its name in one field and what it
carries in another, or from an array of the two. In an object the name may also be written as the
alternative of that name which carries nothing, in an array it is a text. -/
def beside (cases : List (String × Content α)) (tag carried : String) : Reader α
  | level, .object fields stop => do
    let found ← fields.foldlM (besideField cases tag carried level) ⟨none, none, none⟩
    match stop, found.value, found.name with
    | some s, _, _ => throw s.reading
    | none, some a, _ => pure a
    | none, none, some (.nothing a) => pure a
    | none, none, _ => throw .malformed
  | _, .array [] stop => .error ((stop.map Stop.reading).getD .malformed)
  | level, .array (name :: items) stop => do
    let c ← alternative cases (← text (level + 1) name)
    match items with
    | [] => throw ((stop.map Stop.reading).getD .malformed)
    | [item] => orElse (← content c (level + 1) item) (stop.map Stop.reading)
    | item :: _ =>
      let _ ← content c (level + 1) item
      throw .malformed
  | _, d => mismatch d

/-! ### A name among the fields -/

/-- Reads what an alternative carries from the fields or items beside its name. -/
def contentAmong (c : Content α) (others : Draft) : Except Fault α :=
  match c, others with
  | .nothing a, .array items _ => if items.isEmpty then .ok a else .error .malformed
  | .nothing a, _ => .ok a
  | .one r, d => r 0 d
  | .record fs, d => Reader.record fs 0 d

/-- What reading an object with a name among its fields has found so far. -/
structure Among (α : Type) where
  name : Option (Content α)
  others : List (Draft × Draft)

/-- Reads one field of such an object. -/
def amongField (cases : List (String × Content α)) (tag : String) (level : Nat)
    (found : Among α) (field : Draft × Draft) : Except Fault (Among α) := do
  let name ← text (level + 1) field.1
  if name = tag then
    if found.name.isSome then throw .malformed
    pure { found with name := some (← alternative cases (← text (level + 1) field.2)) }
  else
    let _ ← kept (level + 1) field.2
    pure { found with others := found.others ++ [field] }

/-- Reads one of several alternatives from an object that holds its name in one field and the
fields of its record beside it, or from an array that begins with the name. What stands beside the
name is kept until all of it was read. -/
def among (cases : List (String × Content α)) (tag : String) : Reader α
  | level, .object fields stop => do
    let found ← fields.foldlM (amongField cases tag level) ⟨none, []⟩
    match stop, found.name with
    | some s, _ => throw s.reading
    | none, none => throw .malformed
    | none, some c => contentAmong c (.object found.others none)
  | _, .array [] stop => .error ((stop.map Stop.reading).getD .malformed)
  | level, .array (name :: items) stop => do
    let c ← alternative cases (← text (level + 1) name)
    let _ ← items.mapM (kept (level + 1))
    match stop with
    | some s => throw s.reading
    | none => contentAmong c (.array items none)
  | _, d => mismatch d

/-- Reads a whole text. -/
def ofBytes (r : Reader α) (bytes : List UInt8) : Except Fault α := do
  let (draft, rest) := parse bytes
  let a ← r 0 draft
  orElse a (rest.bind trailingFault)

/-- Reads a whole text. -/
def ofText (r : Reader α) (s : String) : Except Fault α := r.ofBytes (Text.utf8 s)

end Reader

end TestFleet.Json
