/-
  The search for a point in the middle of a shortest path between two lists of lines.

  A path goes from `(0, 0)` to `(n, m)` through the grid of the lines `a` and `b`: a step right drops
  a line of `a`, a step down adds a line of `b`, and where the two lines agree a diagonal step keeps
  it.  On diagonal `k` lie the points with `x - y = k`.  One search runs forward from `(0, 0)`, one
  backward from `(n, m)`; each remembers per diagonal how far it has come (`Frontier`).  After the
  same number of changes on both sides the two meet (`middle?`).

  The frontiers are passed in and handed back, so that one pair serves a whole comparison.
-/
import Retouch.Text.Basic

namespace Retouch

/-- The furthest point reached on each diagonal `-radius ≤ k ≤ radius`. -/
structure Frontier where
  radius : Nat
  reach : Array Nat
deriving Repr, DecidableEq

namespace Frontier

/-- A frontier that has reached nothing. -/
def new (radius : Nat) : Frontier := ⟨radius, Array.replicate (2 * radius + 1) 0⟩

/-- The place of diagonal `k` among the stored ones. -/
def slot (f : Frontier) (k : Int) : Nat := (k + f.radius).toNat

/-- How far the search has come on diagonal `k`. -/
def get (f : Frontier) (k : Int) : Nat := f.reach.getD (f.slot k) 0

/-- Records how far the search has come on diagonal `k`. -/
def set (f : Frontier) (k : Int) (x : Nat) : Frontier :=
  { f with reach := f.reach.setIfInBounds (f.slot k) x }

/-- The furthest point on diagonal `k` after one more change, from the better neighbour; `d` is the
    number of changes so far. -/
def next (f : Frontier) (d k : Int) : Nat :=
  if k = -d ∨ (k ≠ d ∧ f.get (k - 1) < f.get (k + 1)) then f.get (k + 1) else f.get (k - 1) + 1

end Frontier

/-- The two frontiers of a search. -/
structure Frontiers where
  forward : Frontier
  backward : Frontier
deriving Repr, DecidableEq

namespace Search

/-- The number of changes within which the two searches meet, on lists of `n` and `m` lines. -/
def bound (n m : Nat) : Nat := (n + m + 1) / 2 + 1

/-- Frontiers wide enough for lists of `n` and `m` lines. -/
def frontiers (n m : Nat) : Frontiers := ⟨.new (bound n m), .new (bound n m)⟩

/-- The number of equal lines of `a` from `x` on and of `b` from `y` on. -/
def runFrom (a b : Array Text) (x y : Nat) : Nat :=
  if h : x < a.size ∧ y < b.size then
    if a[x] = b[y] then runFrom a b (x + 1) (y + 1) + 1 else 0
  else 0
termination_by a.size - x

/-- The number of equal lines of `a` before `x` and of `b` before `y`. -/
def runBefore (a b : Array Text) : (x y : Nat) → Nat
  | x + 1, y + 1 => if a[x]? = b[y]? then runBefore a b x y + 1 else 0
  | _, _ => 0

/-- The diagonals that `d` changes can reach, from the rightmost. -/
def diagonals (d : Nat) : List Int := (List.range (d + 1)).map fun (i : Nat) => (d : Int) - 2 * (i : Int)

/-- The difference of the two lengths: the diagonal of the end point. -/
def shift (a b : Array Text) : Int := (a.size : Int) - b.size

/-- One round of the forward search over the diagonals `ks`, after `d` changes.  It ends at the
    first diagonal on which it meets the backward search, if the lengths differ by an odd number. -/
def sweepForward (a b : Array Text) (d : Nat) (back : Frontier) :
    (ks : List Int) → Frontier → Option (Nat × Nat) × Frontier
  | [], f => (none, f)
  | k :: ks, f =>
    let x := f.next d k
    let y := ((x : Int) - k).toNat
    let far := x + runFrom a b x y
    let f := f.set k far
    if shift a b % 2 = 1 ∧ (k - shift a b).natAbs < d ∧ a.size ≤ far + back.get (shift a b - k) then
      (some (x, y), f)
    else sweepForward a b d back ks f

/-- One round of the backward search over the diagonals `ks`, after `d` changes.  It ends at the
    first diagonal on which it meets the forward search, if the lengths differ by an even number. -/
def sweepBackward (a b : Array Text) (d : Nat) (front : Frontier) :
    (ks : List Int) → Frontier → Option (Nat × Nat) × Frontier
  | [], f => (none, f)
  | k :: ks, f =>
    let x := f.next d k
    let y := ((x : Int) - k).toNat
    let run := runBefore a b (a.size - x) (b.size - y)
    let f := f.set k (x + run)
    if shift a b % 2 = 0 ∧ (k - shift a b).natAbs ≤ d ∧
        a.size ≤ x + run + front.get (shift a b - k) then
      (some (a.size - (x + run), b.size - (y + run)), f)
    else sweepBackward a b d front ks f

/-- Rounds of both searches, one for each number of changes in the list. -/
def rounds (a b : Array Text) : (ds : List Nat) → Frontiers → Option (Nat × Nat) × Frontiers
  | [], w => (none, w)
  | d :: ds, w =>
    match sweepForward a b d w.backward (diagonals d) w.forward with
    | (some p, f) => (some p, ⟨f, w.backward⟩)
    | (none, f) =>
      match sweepBackward a b d f (diagonals d) w.backward with
      | (some p, g) => (some p, ⟨f, g⟩)
      | (none, g) => rounds a b ds ⟨f, g⟩

/-- A point in the middle of a shortest path, for two non-empty lists that differ in their first and
    in their last lines. -/
def middle? (a b : Array Text) (w : Frontiers) : Option (Nat × Nat) × Frontiers :=
  rounds a b (List.range (bound a.size b.size)) ⟨w.forward.set 1 0, w.backward.set 1 0⟩

end Search

end Retouch
