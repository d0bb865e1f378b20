/-
  The comparison with all of its indices checked.

  The search and the comparison are written once more so that each step has a result only if it makes
  sense: a cell of a frontier can be read and written if there is one, a difference exists if it is not
  negative, and a slice of a list if it lies in it.  A comparison (`Checked.conquer`) goes on for as
  long as the search finds points, and has no result where that nests too deep; it replaces all lines
  only where one side is empty.

  * `Checked.sweep_eq`: a round makes sense if its runs, its tests and its answer do;
  * `Checked.middle_eq`: all steps of the search make sense, on frontiers that are wide enough.  The
    searches leave the grid, but the one that runs backward is in it when it answers;
  * `Checked.conquer_eq`: all steps of the comparison make sense, and it comes to an end;
  * `Checked.conquer_safe`: both together, with what the search answers.
-/
import Retouch.Proofs.Shortest

namespace Retouch

/-! ## Checked steps -/

/-- The difference, if it is not negative. -/
def Checked.minus (n : Nat) (k : Int) : Option Nat := ((n : Int) - k).toNat?

/-- The lines from `i` up to `j`, if they lie in the list. -/
def Checked.slice (l : List Text) (i j : Nat) : Option (List Text) :=
  if i ≤ j ∧ j ≤ l.length then some ((l.take j).drop i) else none

namespace Frontier

/-- How far the search has come on diagonal `k`, if there is a cell for it. -/
def get? (f : Frontier) (k : Int) : Option Nat := (k + f.radius).toNat?.bind (f.reach[·]?)

/-- Records how far the search has come on diagonal `k`, if there is a cell for it. -/
def set? (f : Frontier) (k : Int) (x : Nat) : Option Frontier := (f.get? k).map fun _ => f.set k x

/-- The furthest point on diagonal `k` after one more change.  A neighbour is looked at only if `d`
    changes reach it. -/
def next? (f : Frontier) (d k : Int) : Option Nat :=
  if k = -d then f.get? (k + 1)
  else if k = d then (f.get? (k - 1)).map (· + 1)
  else do
    let left ← f.get? (k - 1)
    let right ← f.get? (k + 1)
    return if left < right then right else left + 1

end Frontier

namespace Checked

open Search (shift bound diagonals runFrom runBefore Ready mem_diagonals grid grid_shift total_grid)

/-! ## Checked search -/

/-- The number of equal lines of `a` from `x` on and of `b` from `y` on. -/
def runForward (a b : Array Text) (x y : Nat) : Option Nat :=
  if x < a.size ∧ y < b.size then do
    let _ ← minus a.size x
    let _ ← minus b.size y
    return runFrom a b x y
  else some 0

/-- The number of equal lines of `a` and `b` before the last `x` and `y`. -/
def runBackward (a b : Array Text) (x y : Nat) : Option Nat :=
  if x < a.size ∧ y < b.size then do
    return runBefore a b (← minus a.size x) (← minus b.size y)
  else some 0

/-- Whether the forward search meets the backward one. -/
def meetsBackward (a b : Array Text) (d : Nat) (back : Frontier) (k : Int) (x : Nat) : Option Bool :=
  if shift a b % 2 = 1 ∧ (k - shift a b).natAbs < d then do
    return decide (a.size ≤ x + (← back.get? (shift a b - k)))
  else some false

/-- Whether the backward search meets the forward one. -/
def meetsForward (a b : Array Text) (d : Nat) (front : Frontier) (k : Int) (x : Nat) : Option Bool :=
  if shift a b % 2 = 0 ∧ (k - shift a b).natAbs ≤ d then do
    return decide (a.size ≤ x + (← front.get? (shift a b - k)))
  else some false

/-- The point that the backward search answers with. -/
def pointBackward (a b : Array Text) (x y r : Nat) : Option (Nat × Nat) := do
  return (← minus a.size (x + r : Nat), ← minus b.size (y + r : Nat))

/-- One round of a search over the diagonals `ks`. -/
def sweep (run : Nat → Nat → Option Nat) (meets : Int → Nat → Option Bool)
    (point : Nat → Nat → Nat → Option (Nat × Nat)) (d : Nat) :
    (ks : List Int) → Frontier → Option (Option (Nat × Nat) × Frontier)
  | [], f => some (none, f)
  | k :: ks, f => do
    let x ← f.next? d k
    let y ← minus x k
    let r ← run x y
    let f ← f.set? k (x + r)
    if ← meets k (x + r) then
      return (some (← point x y r), f)
    else sweep run meets point d ks f

/-- Rounds of both searches. -/
def rounds (a b : Array Text) : (ds : List Nat) → Frontiers → Option (Option (Nat × Nat) × Frontiers)
  | [], w => some (none, w)
  | d :: ds, w => do
    match ← sweep (runForward a b) (meetsBackward a b d w.backward) (fun x y _ => some (x, y)) d
        (diagonals d) w.forward with
    | (some p, f) => return (some p, ⟨f, w.backward⟩)
    | (none, f) =>
      match ← sweep (runBackward a b) (meetsForward a b d f) (pointBackward a b) d (diagonals d)
          w.backward with
      | (some p, g) => return (some p, ⟨f, g⟩)
      | (none, g) => rounds a b ds ⟨f, g⟩

/-- A point in the middle of a shortest path. -/
def middle (a b : Array Text) (w : Frontiers) : Option (Option (Nat × Nat) × Frontiers) := do
  let front ← w.forward.set? 1 0
  let back ← w.backward.set? 1 0
  rounds a b (List.range (bound a.size b.size)) ⟨front, back⟩

/-! ## Checked comparison -/

/-- Two lists of lines without what they start and end with alike. -/
def differing (a b : List Text) : Option Differing := do
  let n := commonFront a b
  let front ← slice a 0 n
  let a ← slice a n a.length
  let b ← slice b n b.length
  let m := commonBack a b
  let left ← slice a 0 (← minus a.length m)
  let right ← slice b 0 (← minus b.length m)
  let back ← slice a (← minus a.length m) a.length
  return ⟨front, left, right, back⟩

/-- A script from `a` to `b`, and the frontiers after the search for it, if comparisons are nested
    less than `depth` deep.  Where both sides have lines, the search has to find a point. -/
def conquer : (depth : Nat) → (a b : List Text) → Frontiers → Option (Script × Frontiers)
  | 0, _, _, _ => none
  | depth + 1, a, b, w => do
    let c ← differing a b
    if c.left.isEmpty || c.right.isEmpty then
      return (c.within (Script.replacing c.left c.right), w)
    let (point, w) ← middle c.left.toArray c.right.toArray w
    let (x, y) ← point
    let (first, w) ← conquer depth (← slice c.left 0 x) (← slice c.right 0 y) w
    let (second, w) ← conquer depth (← slice c.left x c.left.length)
      (← slice c.right y c.right.length) w
    return (c.within (first ++ second), w)

/-! ## Single steps -/

theorem minus_eq {n : Nat} {k : Int} {m : Nat} (h : (n : Int) - m = k) : minus n k = some m := by
  rw [minus, Int.mem_toNat?]
  omega

theorem minus_of_le {n m : Nat} (h : m ≤ n) : minus n m = some (n - m) := minus_eq (by omega)

theorem slice_eq {l : List Text} {i j : Nat} (hi : i ≤ j) (hj : j ≤ l.length) :
    slice l i j = some ((l.take j).drop i) := if_pos ⟨hi, hj⟩

theorem slice_zero {l : List Text} {j : Nat} (hj : j ≤ l.length) :
    slice l 0 j = some (l.take j) := slice_eq (Nat.zero_le j) hj

theorem slice_length {l : List Text} {i : Nat} (hi : i ≤ l.length) :
    slice l i l.length = some (l.drop i) := by
  rw [slice_eq hi le_rfl, List.take_length]

section
variable {f : Frontier} {r : Nat} {k : Int}

theorem get?_eq (h : f.Wide r) (hk : k.natAbs ≤ r) : f.get? k = some (f.get k) := by
  have hsize := h.size
  have hle := h.le
  have hslot : (k + f.radius).toNat? = some (f.slot k) := by
    rw [Int.mem_toNat?, Frontier.slot]
    omega
  have hlt : f.slot k < f.reach.size := by
    simp only [Frontier.slot]
    omega
  rw [Frontier.get?, hslot, Option.bind_some, Frontier.get, Array.getD_eq_getD_getElem?,
    Array.getElem?_eq_getElem hlt, Option.getD_some]

theorem set?_eq (h : f.Wide r) (hk : k.natAbs ≤ r) (x : Nat) : f.set? k x = some (f.set k x) := by
  rw [Frontier.set?, get?_eq h hk, Option.map_some]

theorem next?_eq {d : Nat} (h : f.Wide r) (hd : d < r) (hk : k ∈ diagonals d) :
    f.next? d k = some (f.next d k) := by
  rw [mem_diagonals] at hk
  have hleft : f.get? (k - 1) = some (f.get (k - 1)) := get?_eq h (by omega)
  have hright : f.get? (k + 1) = some (f.get (k + 1)) := get?_eq h (by omega)
  rw [Frontier.next?, Frontier.next, hleft, hright]
  by_cases hlow : k = -d
  · rw [if_pos hlow, if_pos (Or.inl hlow)]
  · rw [if_neg hlow]
    by_cases hhigh : k = d
    · rw [if_pos hhigh, if_neg (by tauto)]
      rfl
    · rw [if_neg hhigh]
      simp only [hlow, hhigh, ne_eq, not_false_eq_true, true_and, false_or]
      rfl

end

/-! ## A round -/

section
variable {run? : Nat → Nat → Option Nat} {meets? : Int → Nat → Option Bool}
  {point? : Nat → Nat → Nat → Option (Nat × Nat)} {run : Nat → Nat → Nat}
  {meets : Int → Nat → Bool} {point : Nat → Nat → Nat → Nat × Nat} {g : Grid} {d r : Nat}
  {f : Frontier}

/-- **A round makes sense** if its runs and tests do from where a search can start, and its answer
    does where it meets the other search. -/
theorem sweep_eq (hrun : ∀ x y, (∀ s < run x y, g.agree (x + s) (y + s) = true) ∧
      ¬ g.agree (x + run x y) (y + run x y) = true)
    (hrun? : ∀ x y, run? x y = some (run x y))
    (hmeets? : ∀ k ∈ diagonals d, ∀ x, meets? k x = some (meets k x))
    (hpoint? : ∀ k ∈ diagonals d, ∀ x y : Nat, (x : Int) - y = k → g.Furthest d k (x + run x y) →
      meets k (x + run x y) = true → point? x y (run x y) = some (point x y (run x y)))
    {ks : List Int} (hks : ∀ k ∈ ks, k ∈ diagonals d) (hw : f.Wide r) (hd : d < r)
    (hf : Ready g f d) :
    sweep run? meets? point? d ks f = some (Search.sweep run meets point d ks f) := by
  induction ks generalizing f with
  | nil => rfl
  | cons k ks ih =>
    have hk := hks k (by simp)
    have habs : k.natAbs ≤ r := by
      have := (mem_diagonals.1 hk).1
      omega
    obtain ⟨hxy, -, hfar⟩ := Search.furthest_next hrun hf hk rfl rfl
    have hminus := minus_eq (n := f.next d k) (k := k) (m := ((f.next d k : Int) - k).toNat)
      (by omega)
    have hrest := ih (fun k hk => hks k (by simp [hk])) (hw.set k (f.next d k + run (f.next d k)
      ((f.next d k : Int) - k).toNat)) (hf.set hw hd hk _)
    simp only [sweep, Search.sweep, next?_eq hw hd hk, hminus, hrun?, set?_eq hw habs,
      hmeets? k hk, Option.bind_eq_bind, Option.bind_some]
    split
    · next hm =>
      rw [hpoint? k hk _ _ hxy hfar hm]
      rfl
    · exact hrest

end

/-! ## The search -/

section
variable {a b : Array Text} {d r : Nat} {front back : Frontier}

theorem runForward_eq (a b : Array Text) (x y : Nat) : runForward a b x y = some (runFrom a b x y) := by
  rw [runForward]
  split
  · next h =>
    rw [minus_of_le h.1.le, minus_of_le h.2.le]
    rfl
  · next h => rw [runFrom, dif_neg h]

theorem runBackward_eq (a b : Array Text) (x y : Nat) :
    runBackward a b x y = some (runBefore a b (a.size - x) (b.size - y)) := by
  rw [runBackward]
  split
  · next h =>
    rw [minus_of_le h.1.le, minus_of_le h.2.le]
    rfl
  · next h =>
    -- one of the two has no lines left
    rcases Nat.lt_or_ge x a.size with hx | hx
    · rw [show b.size - y = 0 by omega, runBefore]
      simp
    · rw [show a.size - x = 0 by omega, runBefore]
      simp

theorem meetsBackward_eq (hb : back.Wide r) (hd : d < r) (k : Int) (x : Nat) :
    meetsBackward a b d back k x = some (Search.meetsBackward a b d back k x) := by
  rw [meetsBackward, Search.meetsBackward]
  split
  · next h =>
    rw [get?_eq hb (by omega)]
    simp [h]
  · next h =>
    rw [decide_eq_false fun hm => h ⟨hm.1, hm.2.1⟩]

theorem meetsForward_eq (hf : front.Wide r) (hd : d < r) (k : Int) (x : Nat) :
    meetsForward a b d front k x = some (Search.meetsForward a b d front k x) := by
  rw [meetsForward, Search.meetsForward]
  split
  · next h =>
    rw [get?_eq hf (by omega)]
    simp [h]
  · next h =>
    rw [decide_eq_false fun hm => h ⟨hm.1, hm.2.1⟩]

theorem sweepForward_eq (hf : front.Wide r) (hb : back.Wide r) (hd : d < r)
    (hready : Ready (grid a b) front d) :
    sweep (runForward a b) (meetsBackward a b d back) (fun x y _ => some (x, y)) d (diagonals d)
        front = some (Search.sweepForward a b d back (diagonals d) front) := by
  rw [Search.sweepForward_eq]
  exact sweep_eq (Search.agree_runFrom a b) (runForward_eq a b)
    (fun k _ x => meetsBackward_eq hb hd k x) (fun _ _ _ _ _ _ _ => rfl) (fun _ h => h) hf hd hready

/-- The backward search answers with a point of the grid: where the searches first pass each other,
    both are still in it. -/
theorem sweepBackward_eq (hf : front.Wide r) (hb : back.Wide r) (hd : d < r)
    (hready : Ready (grid a b).turn back d) (hfront : Ready (grid a b) front (d + 1))
    (ht : 2 * d ≤ (grid a b).total + 1) :
    sweep (runBackward a b) (meetsForward a b d front) (pointBackward a b) d (diagonals d) back =
      some (Search.sweepBackward a b d front (diagonals d) back) := by
  rw [Search.sweepBackward_eq]
  refine sweep_eq (Search.turn_agree_runBefore a b) (runBackward_eq a b)
    (fun k _ x => meetsForward_eq hf hd k x) ?_ (fun _ h => h) hb hd hready
  intro k hk x y hxy hfar hm
  have hmeet := Search.meet_of_meetsForward hfront ht hk hfar hm
  have heven : shift a b % 2 = 0 := (of_decide_eq_true hm).1
  have htot := total_grid a b
  generalize runBefore a b (a.size - x) (b.size - y) = t at hmeet ⊢
  have hinside := hmeet.turn.inside (y := y + t) (by rw [Grid.turn_total]; omega)
    (by rw [grid_shift]; omega)
  simp only [Grid.turn_width, Grid.turn_height, Grid.of_width, Grid.of_height,
    Array.length_toList] at hinside
  rw [pointBackward, minus_of_le hinside.1, minus_of_le hinside.2]
  rfl

end

section
variable {a b : Array Text} {r : Nat} {w : Frontiers}

/-- **All steps of the rounds from `d` on make sense.** -/
theorem rounds_eq (n : Nat) {d : Nat} (hw : w.Wide r) (hr : d + n ≤ r)
    (hf : Ready (grid a b) w.forward d) (hb : Ready (grid a b).turn w.backward d)
    (ht : 2 * d ≤ (grid a b).total + 1) :
    rounds a b (List.range' d n) w = some (Search.rounds a b (List.range' d n) w) := by
  induction n generalizing d w with
  | zero => rfl
  | succ n ih =>
    have hwf : (Search.sweepForward a b d w.backward (diagonals d) w.forward).2.Wide r :=
      Search.wide_sweepForward hw.forward _
    rw [List.range'_succ, rounds, Search.rounds, sweepForward_eq hw.forward hw.backward (by omega) hf]
    rcases hs : Search.sweepForward a b d w.backward (diagonals d) w.forward with ⟨p, f⟩
    rw [hs] at hwf
    cases p with
    | some p => rfl
    | none =>
      obtain ⟨hf', hne⟩ := Search.sweepForward_none hw.forward (by omega) hf hb (congrArg Prod.fst hs)
      rw [hs] at hf'
      have hwb : (Search.sweepBackward a b d f (diagonals d) w.backward).2.Wide r :=
        Search.wide_sweepBackward hw.backward _
      simp only [Option.bind_eq_bind, Option.bind_some]
      rw [sweepBackward_eq hwf hw.backward (by omega) hb hf' ht]
      rcases hs' : Search.sweepBackward a b d f (diagonals d) w.backward with ⟨p, g⟩
      rw [hs'] at hwb
      cases p with
      | some p => rfl
      | none =>
        obtain ⟨hb', hne'⟩ := Search.sweepBackward_none hw.backward (by omega) hb hf'
          (congrArg Prod.fst hs')
        rw [hs'] at hb'
        exact ih ⟨hwf, hwb⟩ (by omega) hf' hb' (by omega)

/-- **All steps of the search make sense.** -/
theorem middle_eq (hw : w.Wide r) (hr : bound a.size b.size ≤ r) :
    middle a b w = some (Search.middle? a b w) := by
  have hone : (1 : Int).natAbs ≤ r := by
    simp only [bound] at hr
    omega
  rw [middle, Search.middle?, set?_eq hw.forward hone, set?_eq hw.backward hone,
    List.range_eq_range']
  simp only [Option.bind_eq_bind, Option.bind_some]
  exact rounds_eq _ ⟨hw.forward.set 1 0, hw.backward.set 1 0⟩ (by omega)
    (hw.forward.get_set_self hone 0) (hw.backward.get_set_self hone 0) (by omega)

end

/-! ## The comparison -/

theorem differing_eq (a b : List Text) : differing a b = some (Differing.of a b) := by
  obtain ⟨ha, hb⟩ := commonFront_le a b
  obtain ⟨ha', hb'⟩ := commonBack_le (a.drop (commonFront a b)) (b.drop (commonFront a b))
  rw [differing, Differing.of]
  simp only [slice_zero ha, slice_length ha, slice_length hb, minus_of_le ha', minus_of_le hb',
    slice_zero (Nat.sub_le _ _), slice_length (Nat.sub_le _ _), Option.bind_eq_bind, Option.bind_some]
  rfl

/-- **All steps of a comparison make sense, and it comes to an end**: comparisons are nested at most
    as deep as there are lines. -/
theorem conquer_eq {a b : List Text} {w : Frontiers} {r : Nat} (hw : w.Wide r)
    (hr : bound a.length b.length ≤ r) {depth : Nat} (hdepth : a.length + b.length < depth) :
    conquer depth a b w = some (Script.conquer a b w) := by
  refine Script.conquer_induction (P := fun a b w => ∀ depth, a.length + b.length < depth →
    conquer depth a b w = some (Script.conquer a b w)) ?_ ?_ hw hr depth hdepth
  · intro a b w c hc he depth hdepth
    obtain ⟨d, rfl⟩ : ∃ d, depth = d + 1 := ⟨depth - 1, by omega⟩
    have hempty : (c.left.isEmpty || c.right.isEmpty) = true := by simpa using he
    rw [conquer, differing_eq, hc, Script.conquer_of_empty hc he]
    simp only [Option.bind_eq_bind, Option.bind_some, if_pos hempty]
    rfl
  · intro a b w c x y w' hc hw hr hs hfirst hsecond depth hdepth
    obtain ⟨d, rfl⟩ : ∃ d, depth = d + 1 := ⟨depth - 1, by omega⟩
    have hempty : ¬ (c.left.isEmpty || c.right.isEmpty) = true := by simpa using ⟨hs.left, hs.right⟩
    have hmiddle : middle c.left.toArray c.right.toArray w = some (some (x, y), w') := by
      rw [middle_eq hw (by simpa using hr), hs.found]
    -- the point is no corner, so both parts have fewer lines
    obtain ⟨hx, hy, hpos, hlt⟩ := id hs.cuts
    have hleft : c.left.length ≤ a.length := hc ▸ Differing.length_left_le a b
    have hright : c.right.length ≤ b.length := hc ▸ Differing.length_right_le a b
    have hfirst := hfirst d (by simp only [List.length_take]; omega)
    have hsecond := hsecond d (by simp only [List.length_drop]; omega)
    rw [Script.conquer_of_cuts hc hs.left hs.right hs.found hs.cuts rfl rfl, conquer, differing_eq, hc]
    simp only [Option.bind_eq_bind, Option.bind_some, if_neg hempty, hmiddle, slice_zero hx,
      slice_zero hy, slice_length hx, slice_length hy, hfirst, hsecond]
    rfl

/-- The distance of two lists that differ in their first and in their last lines. -/
theorem two_le_total {a b : List Text} (ha : a ≠ []) (hb : b ≠ []) (hfirst : a.head? ≠ b.head?)
    (hlast : a.getLast? ≠ b.getLast?) : 2 ≤ (Grid.of a b).total := by
  refine Grid.two_le_total (List.length_pos_of_ne_nil ha) (List.length_pos_of_ne_nil hb) ?_ ?_
  · rw [Grid.of_agree, ← List.head?_eq_getElem?, ← List.head?_eq_getElem?]
    exact fun h => hfirst h.2.2
  · rw [Grid.of_agree, Grid.of_width, Grid.of_height, ← List.getLast?_eq_getElem?,
      ← List.getLast?_eq_getElem?]
    exact fun h => hlast h.2.2

/-- **The search is safe and makes progress.**  On frontiers that are wide enough all of its steps make
    sense, and for two lists that differ in their first and in their last lines it answers with a point
    that cuts them and is no corner.  So a comparison of any two lists comes to an end, nested no deeper
    than they have lines, all of its steps make sense as well, and it replaces lists as a whole only
    where one side is empty. -/
theorem conquer_safe {a b : List Text} {w : Frontiers} (hw : w.Wide (bound a.length b.length)) :
    middle a.toArray b.toArray w = some (Search.middle? a.toArray b.toArray w) ∧
    (a ≠ [] → b ≠ [] → a.head? ≠ b.head? → a.getLast? ≠ b.getLast? →
      ∃ x y, (Search.middle? a.toArray b.toArray w).1 = some (x, y) ∧
        x ≤ a.length ∧ y ≤ b.length ∧ 0 < x + y ∧ x + y < a.length + b.length) ∧
    ∀ depth, a.length + b.length < depth →
      conquer depth a b w = some (Script.conquer a b w) := by
  refine ⟨middle_eq hw (by simp), ?_, fun depth => conquer_eq hw le_rfl⟩
  intro ha hb hfirst hlast
  obtain ⟨x, y, w', hm, -, hcuts, -⟩ :=
    Search.middle?_inside hw le_rfl (two_le_total ha hb hfirst hlast)
  exact ⟨x, y, by rw [hm], hcuts⟩

/-- A line in common, and frontiers with leftovers everywhere. -/
theorem conquer_safe_leftovers :
    ∃ a b w, a = [['x'], ['k']] ∧ b = [['k'], ['z']] ∧
      w = ⟨⟨3, #[7, 0, 9, 2, 5, 1, 8]⟩, ⟨4, #[3, 1, 4, 1, 5, 9, 2, 6, 5]⟩⟩ ∧
      w.Wide (bound 2 2) ∧ middle a.toArray b.toArray w = some (Search.middle? a.toArray b.toArray w) ∧
      (∃ x y, (Search.middle? a.toArray b.toArray w).1 = some (x, y) ∧ x ≤ 2 ∧ y ≤ 2 ∧ 0 < x + y ∧
        x + y < 4) ∧
      conquer 5 a b w = some (Script.conquer a b w) := by
  have hwide : Frontiers.Wide
      ⟨⟨3, #[7, 0, 9, 2, 5, 1, 8]⟩, ⟨4, #[3, 1, 4, 1, 5, 9, 2, 6, 5]⟩⟩ (bound 2 2) :=
    ⟨⟨rfl, by decide⟩, ⟨rfl, by decide⟩⟩
  obtain ⟨hmiddle, hpoint, hconquer⟩ :=
    conquer_safe (a := [['x'], ['k']]) (b := [['k'], ['z']]) hwide
  exact ⟨_, _, _, rfl, rfl, rfl, hwide, hmiddle,
    hpoint (by decide) (by decide) (by decide) (by decide), hconquer 5 (by decide)⟩

end Checked

end Retouch
