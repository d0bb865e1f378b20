/-
  Matching of regular expressions.

  An expression becomes a program of small instructions.  Of the matches in a text the first counts,
  of those the longest; where groups could be filled in several ways, earlier branches and longer
  repetitions go first.  The end of the match is found by following all ways through the program at
  once, its groups by going back to that end.
-/
import Retouch.Shell.Regex

namespace Retouch.Shell

/-- An instruction. -/
inductive Instruction where
  | char (c : Char)
  | any
  | among (negated : Bool) (ranges : List (Char × Char))
  | edge (e : Edge)
  /-- Two ways to go on, the better one first. -/
  | split (first second : Nat)
  | jump (target : Nat)
  /-- The start or the end of a group. -/
  | save (slot : Nat)
  | back (group : Nat)
  | accept
deriving Repr, Inhabited

/-- How a text is searched. -/
structure Manner where
  foldCase : Bool := false
  /-- Lines start and end at newlines inside the text. -/
  byLine : Bool := false
  /-- The start of the text is no start of a line. -/
  inside : Bool := false

/-- A program that finds matches. -/
structure Matcher where
  code : Array Instruction
  groups : Nat
  looksBack : Bool
  manner : Manner
  /-- The characters that a match can start with, if it cannot be empty. -/
  starts : Option (Array Bool)

/-- A match: where it starts and ends, and where its groups do; a slot that is not set is none. -/
structure Match where
  start : Nat
  stop : Nat
  slots : Array (Option Nat)

namespace Regex

/-! ## Programs -/

/-- Programs do not get longer than this. -/
def codeLimit : Nat := 60000

/-- Adds the instructions of an expression. -/
def emit : Regex → Array Instruction → Array Instruction
  | empty, code => code
  | char c, code => code.push (.char c)
  | any, code => code.push .any
  | among negated ranges, code => code.push (.among negated ranges)
  | edge e, code => code.push (.edge e)
  | back n, code => code.push (.back n)
  | both a b, code => emit b (emit a code)
  | either a b, code =>
    let at_ := code.size
    let code := emit a (code.push .accept)
    let middle := code.size
    let code := emit b (code.push .accept)
    (code.setIfInBounds at_ (.split (at_ + 1) (middle + 1))).setIfInBounds middle (.jump code.size)
  | group n r, code => (emit r (code.push (.save (2 * n)))).push (.save (2 * n + 1))
  | times least most r, code =>
    let copy (code : Array Instruction) : Array Instruction :=
      if codeLimit < code.size then code else emit r code
    let code := (List.range least).foldl (fun code _ => copy code) code
    match most with
    | none =>
      let at_ := code.size
      let code := (copy (code.push .accept)).push (.jump at_)
      code.setIfInBounds at_ (.split (at_ + 1) code.size)
    | some most =>
      let (code, splits) := (List.range (most - least)).foldl
        (fun (code, splits) _ => (copy (code.push .accept), code.size :: splits)) (code, [])
      splits.foldl (fun code at_ => code.setIfInBounds at_ (.split (at_ + 1) code.size)) code

end Regex

namespace Manner

/-- Whether two characters agree. -/
def same (m : Manner) (a b : Char) : Bool := a == b || (m.foldCase && a.toLower == b.toLower)

/-- Whether a set holds a character. -/
def inSet (m : Manner) (ranges : List (Char × Char)) (c : Char) : Bool :=
  Glob.inRanges ranges c ||
    (m.foldCase && (Glob.inRanges ranges c.toLower || Glob.inRanges ranges c.toUpper))

/-- Whether a character belongs to a word. -/
def isWord (c : Option Char) : Bool := c.any (Glob.inRanges Regex.wordRanges)

/-- Whether a condition holds at a place. -/
def holds (m : Manner) (text : Array Char) (at_ : Nat) (e : Edge) : Bool :=
  let before : Option Char := if at_ = 0 then none else text[at_ - 1]?
  let after := text[at_]?
  match e with
  | .lineStart => (at_ == 0 && !m.inside) || (m.byLine && before == some '\n')
  | .lineEnd => after.isNone || (m.byLine && after == some '\n')
  | .textStart => at_ == 0 && !m.inside
  | .textEnd => after.isNone
  | .wordStart => !isWord before && isWord after
  | .wordEnd => isWord before && !isWord after
  | .wordEdge => isWord before != isWord after
  | .notWordEdge => isWord before == isWord after
  | .noWordBefore => !isWord before
  | .noWordAfter => !isWord after

/-- Whether an instruction takes a character. -/
def takes (m : Manner) (i : Instruction) (c : Char) : Bool :=
  match i with
  | .char d => m.same d c
  | .any => true
  | .among negated ranges => m.inSet ranges c != negated
  | _ => false

end Manner

namespace Matcher

/-! ## All ways at once -/

/-- Ways through the program at one place of the text. -/
structure Ways where
  seen : Array Bool
  /-- Instructions that take a character. -/
  taking : List Nat := []
  accepted : Bool := false

/-- Follows the instructions that take no character; `fuel` bounds their number. -/
def follow (m : Matcher) (text : Array Char) (at_ : Nat) : (fuel : Nat) → List Nat → Ways → Ways
  | 0, _, w => w
  | _, [], w => w
  | fuel + 1, pc :: pcs, w =>
    if w.seen.getD pc true then follow m text at_ fuel pcs w
    else
      let w := { w with seen := w.seen.setIfInBounds pc true }
      match m.code.getD pc .accept with
      | .split a b => follow m text at_ fuel (a :: b :: pcs) w
      | .jump a => follow m text at_ fuel (a :: pcs) w
      | .save _ => follow m text at_ fuel ((pc + 1) :: pcs) w
      | .edge e =>
        if m.manner.holds text at_ e then follow m text at_ fuel ((pc + 1) :: pcs) w
        else follow m text at_ fuel pcs w
      | .accept => follow m text at_ fuel pcs { w with accepted := true }
      | _ => follow m text at_ fuel pcs { w with taking := pc :: w.taking }

/-- The ways at a place from some instructions on. -/
def waysAt (m : Matcher) (text : Array Char) (at_ : Nat) (pcs : List Nat) : Ways :=
  m.follow text at_ (2 * m.code.size + pcs.length + 2) pcs
    { seen := Array.replicate m.code.size false }

/-- The end of the longest match that goes on with some instructions; `best` is the longest so far,
    and `fuel` bounds the characters. -/
def longest (m : Matcher) (text : Array Char) :
    (fuel : Nat) → (at_ : Nat) → List Nat → (best : Option Nat) → Option Nat
  | 0, _, _, best => best
  | fuel + 1, at_, pcs, best =>
    let w := m.waysAt text at_ pcs
    let best := if w.accepted then some at_ else best
    match text[at_]? with
    | none => best
    | some c =>
      let next := w.taking.filterMap fun pc =>
        if m.manner.takes (m.code.getD pc .accept) c then some (pc + 1) else none
      if next.isEmpty then best else longest m text fuel (at_ + 1) next best

/-! ## One way after another -/

/-- A way that is still to be tried: an instruction, a place and the groups so far. -/
abbrev Way := Nat × Nat × Array (Option Nat)

/-- The text of a group. -/
def groupText (text : Array Char) (slots : Array (Option Nat)) (n : Nat) : Option (List Char) :=
  match slots.getD (2 * n) none, slots.getD (2 * n + 1) none with
  | some a, some b => some (text.extract a b).toList
  | _, _ => none

/-- Whether a text stands at a place. -/
def standsAt (m : Manner) (text : Array Char) : (at_ : Nat) → List Char → Bool
  | _, [] => true
  | at_, c :: t => (text[at_]?).any (m.same c) && standsAt m text (at_ + 1) t

/-- The first way that ends at `stop`; ways that have been tried are not tried again.  `fuel` bounds
    the steps. -/
def trace (m : Matcher) (text : Array Char) (start stop : Nat) :
    (fuel : Nat) → List Way → Array Bool → Option (Array (Option Nat))
  | 0, _, _ => none
  | _, [], _ => none
  | fuel + 1, (pc, at_, slots) :: ways, tried =>
    let key := pc * (stop - start + 1) + (at_ - start)
    if tried.getD key false || stop < at_ then trace m text start stop fuel ways tried
    else
      let tried := tried.setIfInBounds key true
      let i := m.code.getD pc .accept
      match i with
      | .split a b => trace m text start stop fuel ((a, at_, slots) :: (b, at_, slots) :: ways) tried
      | .jump a => trace m text start stop fuel ((a, at_, slots) :: ways) tried
      | .save n =>
        trace m text start stop fuel ((pc + 1, at_, slots.setIfInBounds n (some at_)) :: ways) tried
      | .edge e =>
        let ways := if m.manner.holds text at_ e then (pc + 1, at_, slots) :: ways else ways
        trace m text start stop fuel ways tried
      | .accept => if at_ = stop then some slots else trace m text start stop fuel ways tried
      | _ =>
        let ways :=
          if (text[at_]?).any (m.manner.takes i) then (pc + 1, at_ + 1, slots) :: ways else ways
        trace m text start stop fuel ways tried

/-- The longest match found by trying all ways, with the texts of groups looked for again; `fuel`
    bounds the steps. -/
def explore (m : Matcher) (text : Array Char) :
    (fuel : Nat) → List Way → Option (Nat × Array (Option Nat)) → Option (Nat × Array (Option Nat))
  | 0, _, best => best
  | _, [], best => best
  | fuel + 1, (pc, at_, slots) :: ways, best =>
    let i := m.code.getD pc .accept
    match i with
    | .split a b => explore m text fuel ((a, at_, slots) :: (b, at_, slots) :: ways) best
    | .jump a => explore m text fuel ((a, at_, slots) :: ways) best
    | .save n =>
      explore m text fuel ((pc + 1, at_, slots.setIfInBounds n (some at_)) :: ways) best
    | .edge e =>
      let ways := if m.manner.holds text at_ e then (pc + 1, at_, slots) :: ways else ways
      explore m text fuel ways best
    | .back n =>
      let ways := match groupText text slots n with
        | some t =>
          if standsAt m.manner text at_ t then (pc + 1, at_ + t.length, slots) :: ways else ways
        | none => ways
      explore m text fuel ways best
    | .accept =>
      let better : Bool := match best with | some (stop, _) => stop < at_ | none => true
      explore m text fuel ways (if better then some (at_, slots) else best)
    | _ =>
      let ways :=
        if (text[at_]?).any (m.manner.takes i) then (pc + 1, at_ + 1, slots) :: ways else ways
      explore m text fuel ways best

/-- How many steps are made where groups are looked for again. -/
def exploreLimit : Nat := 200000

/-! ## Searching -/

/-- The match that starts at a place; groups are found only if they are asked for. -/
def matchAt (m : Matcher) (wantGroups : Bool) (text : Array Char) (start : Nat) : Option Match :=
  let none_ := Array.replicate (2 * m.groups + 2) (none : Option Nat)
  if m.looksBack then
    (m.explore text exploreLimit [(0, start, none_)] none).map fun (stop, slots) => ⟨start, stop, slots⟩
  else
    match m.longest text (text.size + 2) start [0] none with
    | none => none
    | some stop =>
      if wantGroups && 0 < m.groups then
        let steps := 3 * (m.code.size + 1) * (stop - start + 2)
        let slots := m.trace text start stop steps [(0, start, none_)]
          (Array.replicate (m.code.size * (stop - start + 1)) false)
        some ⟨start, stop, slots.getD none_⟩
      else some ⟨start, stop, none_⟩

/-- The first match from a place on; `fuel` bounds the places. -/
def searchFrom (m : Matcher) (wantGroups : Bool) (text : Array Char) :
    (fuel : Nat) → (at_ : Nat) → Option Match
  | 0, _ => none
  | fuel + 1, at_ =>
    let possible := match m.starts, text[at_]? with
      | some set, some c => set.getD c.toNat true
      | some _, none => false
      | none, _ => true
    match (if possible then m.matchAt wantGroups text at_ else none) with
    | some found => some found
    | none => if at_ < text.size then searchFrom m wantGroups text fuel (at_ + 1) else none

/-- The first match from a place on, with its groups. -/
def search (m : Matcher) (text : Array Char) (at_ : Nat) : Option Match :=
  m.searchFrom true text (text.size + 2) at_

/-- Whether there is a match. -/
def finds (m : Matcher) (text : Array Char) : Bool :=
  (m.searchFrom false text (text.size + 2) 0).isSome

/-- The matches from left to right; an empty one does not follow another match directly.  `fuel`
    bounds their number. -/
def searchAll (m : Matcher) (text : Array Char) :
    (fuel : Nat) → (at_ : Nat) → (last : Option Nat) → List Match
  | 0, _, _ => []
  | fuel + 1, at_, last =>
    match m.search text at_ with
    | none => []
    | some found =>
      if found.stop = found.start then
        let others :=
          if found.start < text.size then searchAll m text fuel (found.start + 1) none else []
        if last = some found.start then others else found :: others
      else found :: searchAll m text fuel found.stop (some found.stop)

/-- All matches in a text. -/
def all (m : Matcher) (text : Array Char) : List Match := m.searchAll text (text.size + 2) 0 none

end Matcher

/-- The program for an expression. -/
def Regex.matcher (r : Regex) (manner : Manner) : Matcher :=
  let code := (Regex.emit r #[]).push .accept
  let m : Matcher := { code, groups := r.groups, looksBack := r.looksBack, manner, starts := none }
  let any (i : Instruction) : Bool := match i with | .back _ => true | _ => false
  let w := m.follow #[] 0 (2 * code.size + 4) [0] { seen := Array.replicate code.size false }
  let edges := code.any fun i => match i with | .edge _ => true | _ => false
  if w.accepted || edges || w.taking.any fun pc => any (code.getD pc .accept) then m
  else
    let takes (c : Char) : Bool := w.taking.any fun pc => manner.takes (code.getD pc .accept) c
    { m with starts := some ((Array.range 256).map fun n => takes (Char.ofNat n)) }

namespace Match

/-- The text of a match. -/
def text (f : Match) (t : Array Char) : Octets := (t.extract f.start f.stop).toList

/-- The text of a group; the whole match is group zero. -/
def group (f : Match) (t : Array Char) (n : Nat) : Octets :=
  if n = 0 then f.text t else (Matcher.groupText t f.slots n).getD []

end Match

end Retouch.Shell
