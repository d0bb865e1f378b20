/-
  The catalog of passes: four canonical ones, which always run and in this order, and six
  supplementary ones that run after them on request.
-/
import Retouch.Pass.BlankLines
import Retouch.Pass.Comments
import Retouch.Pass.Containers
import Retouch.Pass.CountingLoop
import Retouch.Pass.DeadBranch
import Retouch.Pass.Increment
import Retouch.Pass.SquareCall
import Retouch.Pass.Sums
import Retouch.Pass.ZeroAddition
import Retouch.Pass.ZeroInit

namespace Retouch.Pass

/-- The passes that always run, in order. -/
def canonical : List Pass := [constantFolding, deadCodeElimination, peephole, inlineExpansion]

/-- The passes that run on request. -/
def supplementary : List Pass :=
  [stripComments, unorderedContainers, incrementIdioms, whileToFor, dropZeroInit,
    collapseBlankLines]

/-- The pass of that name. -/
def named? (name : String) : Option Pass := (canonical ++ supplementary).find? (·.name == name)

/-- The passes of these names, or the first name that is unknown. -/
def ofNames (names : List String) : Except String (List Pass) :=
  names.mapM fun name => match named? name with
    | some p => .ok p
    | none => .error name

end Retouch.Pass
