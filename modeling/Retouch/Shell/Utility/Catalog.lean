/-
  The utilities by name.
-/
import Retouch.Shell.Utility.Characters
import Retouch.Shell.Utility.Listing
import Retouch.Shell.Utility.Numbers
import Retouch.Shell.Utility.Searching
import Retouch.Shell.Utility.Sed
import Retouch.Shell.Utility.Words

namespace Retouch.Shell.Utility

/-- The utilities with their names. -/
def catalog : List (String × Utility Unit) :=
  [("[", test true), ("basename", basename), ("cat", cat), ("chmod", chmod), ("comm", comm), ("cp", cp),
    ("cut", cut), ("dirname", dirname), ("echo", echo), ("egrep", egrep), ("expand", expand),
    ("expr", expr), ("factor", factor), ("false", fail), ("fgrep", fgrep), ("fold", fold),
    ("grep", grep), ("head", head), ("install", install), ("join", join), ("ln", ln), ("ls", ls),
    ("mkdir", mkdir), ("mktemp", mktemp), ("mv", mv), ("nl", nl), ("od", od), ("paste", paste),
    ("printenv", printenv), ("printf", printf), ("pwd", pwd), ("readlink", readlink),
    ("realpath", realpath), ("rev", rev), ("rm", rm), ("rmdir", rmdir), ("sed", sed), ("seq", seq),
    ("sleep", sleep), ("sort", sort), ("split", split), ("stat", stat), ("tac", tac), ("tail", tail),
    ("tee", tee), ("test", test false), ("touch", touch), ("tr", tr), ("true", succeed),
    ("truncate", truncate), ("tsort", tsort), ("unexpand", unexpand), ("uniq", uniq),
    ("unlink", unlink), ("wc", wc), ("yes", yes)]

/-- The utility with a name. -/
def named? (name : Octets) : Option (Utility Unit) :=
  (catalog.find? (·.1.toList == name)).map (·.2)

end Retouch.Shell.Utility
