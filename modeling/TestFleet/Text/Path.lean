import TestFleet.Text.Blank

/-!
# File paths

A path is kept as it was written, and compared by its components: repeated separators, a separator
at the end and single dots inside do not tell two paths apart, while a leading single dot, double
dots and the root do.
-/

namespace TestFleet

/-- A path of the file system, as written. -/
structure FilePath where
  text : String
  deriving DecidableEq, Repr, Inhabited

namespace FilePath

/-- Whether a path starts at the root. -/
def isAbsolute (p : FilePath) : Bool := p.text.toList.head? == some '/'

/-- The names along a path, without those that do not move. A single dot counts only where it
begins a path that does not start at the root. -/
def names (p : FilePath) : List String :=
  match (Text.pieces '/' p.text.toList).map String.ofList with
  | [] => []
  | first :: rest =>
    (if first = "" then [] else [first]) ++ rest.filter (fun s => s != "" && s != ".")

/-- Paths are the same place when both or neither start at the root and their names agree. -/
instance : BEq FilePath := ⟨fun p q => p.isAbsolute == q.isAbsolute && p.names == q.names⟩

/-- The path of an entry below a directory. -/
def join (p : FilePath) (name : String) : FilePath :=
  if name.toList.head? = some '/' then ⟨name⟩
  else if p.text = "" ∨ p.text.toList.getLast? = some '/' then ⟨p.text ++ name⟩
  else ⟨p.text ++ "/" ++ name⟩

end FilePath

end TestFleet
