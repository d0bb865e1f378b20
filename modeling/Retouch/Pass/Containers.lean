/-
  Hash tables for ordered containers: the whole words `std::map` and `std::set` become
  `std::unordered_map` and `std::unordered_set`.
-/
import Retouch.Pass.Basic

namespace Retouch.Pass

/-- A text standing as a whole word. -/
def wholeWord (s : String) : Pattern := [.edge, .lit s, .edge]

/-- The text with `r` in place of each whole word `s`. -/
def replaceWord (s r : String) (t : Text) : Text :=
  Matcher.replaceAll (wholeWord s).read? (fun _ => r.toList) t

/-- Renames the ordered containers to the unordered ones. -/
def unorderContainers (t : Text) : Text :=
  replaceWord "std::set" "std::unordered_set" (replaceWord "std::map" "std::unordered_map" t)

/-- Hash tables for ordered containers. -/
def unorderedContainers : Pass := ⟨"unordered-containers", unorderContainers⟩

end Retouch.Pass
