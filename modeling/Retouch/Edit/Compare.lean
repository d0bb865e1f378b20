/-
  A shortest script between two texts, in space linear in the number of lines.

  The lines that both texts start and end with are kept.  What is left is cut at a point in the
  middle of a shortest path (`Search.middle?`), and the two halves are compared in turn; when one
  side is empty, all lines of the other are dropped or added.
-/
import Retouch.Edit.Script
import Retouch.Edit.Search

namespace Retouch

/-- The number of lines that two lists start with alike. -/
def commonFront : (a b : List Text) → Nat
  | x :: a, y :: b => if x = y then commonFront a b + 1 else 0
  | _, _ => 0

/-- The number of lines that two lists end with alike. -/
def commonBack (a b : List Text) : Nat := commonFront a.reverse b.reverse

/-- Two lists of lines without what they start and end with alike. -/
structure Differing where
  front : List Text
  left : List Text
  right : List Text
  back : List Text
deriving Repr, DecidableEq

namespace Differing

/-- Cuts off the common front of two lists, and then the common back of what is left. -/
def of (a b : List Text) : Differing :=
  let n := commonFront a b
  let m := commonBack (a.drop n) (b.drop n)
  { front := a.take n
    left := (a.drop n).take ((a.drop n).length - m)
    right := (b.drop n).take ((b.drop n).length - m)
    back := (a.drop n).drop ((a.drop n).length - m) }

theorem length_left_le (a b : List Text) : (of a b).left.length ≤ a.length := by
  simp only [of, List.length_take, List.length_drop]; omega

theorem length_right_le (a b : List Text) : (of a b).right.length ≤ b.length := by
  simp only [of, List.length_take, List.length_drop]; omega

end Differing

namespace Script

/-- The script that drops all lines of `a` and adds all of `b`. -/
def replacing (a b : List Text) : Script := a.map .drop ++ b.map .add

/-- A shortest script from `a` to `b`, and the frontiers after the search for it. -/
def conquer (a b : List Text) (w : Frontiers) : Script × Frontiers :=
  let c := Differing.of a b
  let changes :=
    if c.left.isEmpty || c.right.isEmpty then (replacing c.left c.right, w)
    else match Search.middle? c.left.toArray c.right.toArray w with
      | (none, w) => (replacing c.left c.right, w)
      | (some (x, y), w) =>
        if _h : x ≤ c.left.length ∧ y ≤ c.right.length ∧ 0 < x + y ∧
            x + y < c.left.length + c.right.length then
          let first := conquer (c.left.take x) (c.right.take y) w
          let second := conquer (c.left.drop x) (c.right.drop y) first.2
          (first.1 ++ second.1, second.2)
        else (replacing c.left c.right, w)
  (c.front.map .keep ++ changes.1 ++ c.back.map .keep, changes.2)
termination_by a.length + b.length
decreasing_by
  all_goals
    have := Differing.length_left_le a b
    have := Differing.length_right_le a b
    have hc : c = Differing.of a b := rfl
    rw [hc] at _h
    simp only [List.length_take, List.length_drop]
    omega

/-- A shortest script from one text to another, drops first. -/
def between (before after : Text) : Script :=
  let a := before.lines
  let b := after.lines
  (conquer a b (Search.frontiers a.length b.length)).1.dropsFirst

end Script

end Retouch
