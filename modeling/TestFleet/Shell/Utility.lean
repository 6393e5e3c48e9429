import TestFleet.Shell.Utility.Expressions
import TestFleet.Shell.Utility.Files
import TestFleet.Shell.Utility.Lines
import TestFleet.Shell.Utility.Names
import TestFleet.Shell.Utility.Sed

/-!
# Programs

The programs of a small system, by their names. Those that start other programs are not among them.
-/

namespace TestFleet.Shell.Utility

/-- The programs with their names. -/
def all : List (String × Program) := [
  ("[", bracket), ("basename", basename), ("cat", cat), ("chmod", chmod), ("cp", cp), ("cut", cut),
  ("date", date), ("dirname", dirname), ("echo", echo), ("expr", expr),
  ("false", fun _ => return 1), ("grep", grep), ("head", head), ("hostname", hostname),
  ("id", userId), ("kill", kill), ("ls", ls),
  ("mkdir", mkdir), ("mktemp", mktemp), ("mv", mv), ("nproc", nproc), ("printenv", printenv),
  ("printf", printf), ("pwd", pwd), ("readlink", realpath), ("realpath", realpath), ("rev", rev),
  ("rm", rm), ("rmdir", rmdir), ("sed", sed), ("seq", seq), ("sleep", sleep), ("sort", sort),
  ("tac", tac), ("tail", tail), ("tee", tee), ("test", test), ("touch", touch), ("tr", tr),
  ("true", fun _ => return 0), ("tty", tty), ("uname", uname), ("uniq", uniq), ("wc", wc),
  ("which", which), ("whoami", whoami), ("yes", yes)]

/-- The names of the programs. -/
def names : List String := all.map (·.1)

/-- The program of a name. -/
def ofName? (name : String) : Option Program := all.lookup name

end TestFleet.Shell.Utility
