/-
  Patterns for names.

  A star stands for any text, a question mark for any character and brackets for one of some
  characters; what is quoted stands for itself.  Patterns choose among cases, cut parameters and
  expand to the names of files.
-/
import Retouch.Text.Octets

namespace Retouch.Shell

/-- A piece of a pattern.  A set holds ranges of characters, or all others if it is negated. -/
inductive GlobPiece where
  | one (c : Char)
  | any
  | many
  | set (negated : Bool) (ranges : List (Char × Char))
deriving Repr, DecidableEq

/-- A pattern. -/
abbrev Glob := List GlobPiece

/-- A character, and whether it is quoted. -/
abbrev Marked := Char × Bool

namespace Glob

/-- Whether a set holds a character. -/
def inRanges (ranges : List (Char × Char)) (c : Char) : Bool :=
  ranges.any fun r => r.1 ≤ c && c ≤ r.2

/-- The ranges of a class of characters. -/
def classRanges (name : Octets) : List (Char × Char) :=
  match String.ofList name with
  | "alpha" => [('a', 'z'), ('A', 'Z')]
  | "digit" => [('0', '9')]
  | "alnum" => [('a', 'z'), ('A', 'Z'), ('0', '9')]
  | "upper" => [('A', 'Z')]
  | "lower" => [('a', 'z')]
  | "space" => [('\t', '\r'), (' ', ' ')]
  | "blank" => [('\t', '\t'), (' ', ' ')]
  | "punct" => [('!', '/'), (':', '@'), ('[', '\x60'), ('\x7b', '~')]
  | "xdigit" => [('a', 'f'), ('A', 'F'), ('0', '9')]
  | "cntrl" => [('\x00', '\x1f'), ('\x7f', '\x7f')]
  | "graph" => [('!', '~')]
  | "print" => [(' ', '~')]
  | _ => []

/-- The ranges of a set up to the bracket that closes it, and the number of characters they take;
    `fuel` bounds that number. -/
def readSet? : (fuel : Nat) → (first : Bool) → List Char → Option (List (Char × Char) × Nat)
  | 0, _, _ => none
  | _, _, [] => none
  | fuel + 1, first, c :: t =>
    if c = ']' ∧ !first then some ([], 1)
    else
      match c, t with
      | '[', ':' :: r =>
        let name := r.takeWhile Char.isAlpha
        match r.drop name.length with
        | ':' :: ']' :: r =>
          (readSet? fuel false r).map fun (rs, n) => (classRanges name ++ rs, n + name.length + 4)
        | _ => (readSet? fuel false t).map fun (rs, n) => ((c, c) :: rs, n + 1)
      | _, '-' :: d :: r =>
        if d = ']' then (readSet? fuel false t).map fun (rs, n) => ((c, c) :: rs, n + 1)
        else (readSet? fuel false r).map fun (rs, n) => ((c, d) :: rs, n + 3)
      | _, _ => (readSet? fuel false t).map fun (rs, n) => ((c, c) :: rs, n + 1)

/-- Reads a pattern; `fuel` bounds its length. -/
def readMarked : (fuel : Nat) → List Marked → Glob
  | 0, _ => []
  | _, [] => []
  | fuel + 1, (c, quoted) :: t =>
    if quoted then .one c :: readMarked fuel t
    else if c = '*' then .many :: readMarked fuel t
    else if c = '?' then .any :: readMarked fuel t
    else if c = '\\' then
      match t with
      | (d, _) :: r => .one d :: readMarked fuel r
      | [] => [.one c]
    else if c = '[' then
      let body := t.map (·.1)
      let negated := body.head? == some '!' || body.head? == some '^'
      let lead := if negated then 1 else 0
      match readSet? (body.length + 1) true (body.drop lead) with
      | some (ranges, n) => .set negated ranges :: readMarked fuel (t.drop (n + lead))
      | none => .one c :: readMarked fuel t
    else .one c :: readMarked fuel t

/-- The pattern that some characters make up. -/
def ofMarked (t : List Marked) : Glob := readMarked (t.length + 1) t

/-- A text and all that is left of it when characters are taken from its start. -/
def suffixes : Octets → List Octets
  | [] => [[]]
  | c :: t => (c :: t) :: suffixes t

/-- Whether a pattern describes a whole text. -/
def accepts : Glob → Octets → Bool
  | [], t => t.isEmpty
  | .many :: g, t => (suffixes t).any (accepts g)
  | .one c :: g, d :: t => c == d && accepts g t
  | .any :: g, _ :: t => accepts g t
  | .set negated ranges :: g, d :: t => (inRanges ranges d != negated) && accepts g t
  | _ :: _, [] => false

/-- Whether a pattern is more than a text. -/
def isProper (g : Glob) : Bool := g.any fun | .one _ => false | _ => true

/-- What is left of a text after the shortest or longest start that a pattern describes. -/
def cutStart (longest : Bool) (g : Glob) (t : Octets) : Octets :=
  let lengths := List.range (t.length + 1)
  match (if longest then lengths.reverse else lengths).find? fun n => accepts g (t.take n) with
  | some n => t.drop n
  | none => t

/-- What is left of a text before the shortest or longest end that a pattern describes. -/
def cutEnd (longest : Bool) (g : Glob) (t : Octets) : Octets :=
  let lengths := List.range (t.length + 1)
  match (if longest then lengths else lengths.reverse).find? fun n => accepts g (t.drop n) with
  | some n => t.take n
  | none => t

end Glob

end Retouch.Shell
