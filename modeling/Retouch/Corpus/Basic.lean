/-
  A corpus: programs with their known improvements.
-/
import Retouch.Text.Basic

namespace Retouch

/-- A program and its known improvement. -/
structure Entry where
  code : Text
  optimized : Text
deriving Repr, DecidableEq

/-- Whether there is an improvement to answer with. -/
def Entry.hasOptimized (e : Entry) : Bool := !e.optimized.isEmpty

/-- A list of entries. -/
abbrev Corpus := List Entry

end Retouch
