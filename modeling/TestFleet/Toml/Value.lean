/-!
# Values of settings files

A settings file holds a table of named values. Tables come about in several ways, and the way
decides what may still be added to one: a table between braces is complete once it is closed, a
table with a header of its own gets its fields below that header, and a table that is only mentioned
in a path may get more from further paths of the same kind. No field is given twice.

Of the numbers only the whole ones are kept, since no setting is a number of floating point, a date
or a time.
-/

namespace TestFleet.Toml

/-- How a table came about. -/
inductive Origin where
  /-- It stands between braces. -/
  | braces
  /-- It has a header of its own. -/
  | header
  /-- The header of a table within it mentions it. -/
  | mentioned
  /-- The name of a field mentions it. -/
  | dotted
  deriving DecidableEq, Repr

inductive Value where
  | string (s : String)
  | integer (n : Int)
  | boolean (b : Bool)
  /-- A number of floating point, a date or a time. -/
  | other
  | array (items : List Value)
  /-- Tables under one header, which may be repeated. -/
  | tables (items : List (List (String × Value)))
  | table (origin : Origin) (fields : List (String × Value))

/-- The fields of a table. -/
abbrev Table := List (String × Value)

namespace Table

/-- Changes the value of a field, if it may be changed; a missing field is added last. -/
def change (t : Table) (key : String) (f : Option Value → Option Value) : Option Table :=
  match t with
  | [] => (f none).map fun v => [(key, v)]
  | (k, v) :: t =>
    if k = key then (f (some v)).map fun v => (k, v) :: t
    else (change t key f).map ((k, v) :: ·)

/-- Changes the last of some tables. -/
def changeLast (f : Table → Option Table) : List Table → Option (List Table)
  | [] => none
  | [t] => (f t).map ([·])
  | t :: ts => (changeLast f ts).map (t :: ·)

/-- Changes the table that a header's path leads to. -/
def descend (f : Table → Option Table) : List String → Table → Option Table
  | [], t => f t
  | key :: path, t => t.change key fun
    | none => (descend f path []).map (.table .mentioned)
    | some (.table origin fields) =>
      if origin = .braces then none else (descend f path fields).map (.table origin)
    | some (.tables items) => (changeLast (descend f path) items).map .tables
    | some _ => none

/-- Adds a field, given the path from the table it is written in. All but the last name lead through
tables that were only mentioned, and the last of these was mentioned by a field. -/
def put (value : Value) : List String → Table → Option Table
  | [], _ => none
  | [key], t => t.change key fun
    | none => some value
    | some _ => none
  | key :: path, t => t.change key fun
    | none => (put value path []).map (.table .dotted)
    | some (.table origin fields) =>
      if origin = .dotted ∨ origin = .mentioned ∧ 1 < path.length then
        (put value path fields).map (.table origin)
      else none
    | some (.tables items) =>
      if 1 < path.length then (changeLast (put value path) items).map .tables else none
    | some _ => none

/-- Adds a field to a table between braces. The names before the last lead through any tables. -/
def putBetweenBraces (value : Value) : List String → Table → Option Table
  | [], _ => none
  | [key], t => t.change key fun
    | none => some value
    | some _ => none
  | key :: path, t => t.change key fun
    | none => (putBetweenBraces value path []).map (.table .braces)
    | some (.table origin fields) => (putBetweenBraces value path fields).map (.table origin)
    | some _ => none

/-- Opens a table under a header. -/
def openTable (key : String) (t : Table) : Option Table :=
  t.change key fun
    | none => some (.table .header [])
    | some (.table .mentioned fields) => some (.table .header fields)
    | some _ => none

/-- Opens one more table under a header that may be repeated. -/
def openElement (key : String) (t : Table) : Option Table :=
  t.change key fun
    | none => some (.tables [[]])
    | some (.tables items) => some (.tables (items ++ [[]]))
    | some _ => none

end Table

/-! ## Files -/

/-- A line of a file that says something. -/
inductive Statement where
  /-- A header. -/
  | table (path : List String) (key : String)
  /-- A header that may be repeated. -/
  | element (path : List String) (key : String)
  | field (path : List String) (value : Value)

/-- The table of a file, and the path of the header that was last. -/
structure Document where
  root : Table := []
  place : List String := []

namespace Document

/-- Adds what a statement says. -/
def add (d : Document) : Statement → Option Document
  | .table path key =>
    (d.root.descend (Table.openTable key) path).map fun root => ⟨root, path ++ [key]⟩
  | .element path key =>
    (d.root.descend (Table.openElement key) path).map fun root => ⟨root, path ++ [key]⟩
  | .field path value =>
    (d.root.descend (Table.put value path) d.place).map fun root => { d with root := root }

/-- The table of a file, unless two of its statements contradict each other. -/
def ofStatements? (ss : List Statement) : Option Table :=
  (ss.foldlM add {}).map Document.root

end Document

end TestFleet.Toml
