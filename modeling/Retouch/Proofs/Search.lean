/-
  The search for a point in the middle of a shortest path.

  The lines of two lists span a grid, a square of which agrees if its two lines are equal
  (`Grid.of`).  The forward search is a search through this grid, the backward search one through
  the grid turned around.

  * `Ready`: after `d` rounds a frontier holds the furthest columns within cost `d - 1`, and
    nothing is known of its other cells;
  * `start_next`: the next round starts, on each of its diagonals, at the right column;
  * `sweep`: one round of either search; `reached_sweep` and `sweep_eq_some` say what a round leaves
    behind that meets nothing, and what it answers if it meets the other search;
  * `rounds_eq_some` and `middle?_eq_some`: on frontiers that are wide enough, whatever they hold,
    the search answers with a point on a shortest path that half of the changes lead to.
-/
import Mathlib.Data.List.Nodup
import Retouch.Edit.Search
import Retouch.Proofs.Furthest

namespace Retouch

/-! ## The grid of two lists of lines -/

/-- The grid of two lists of lines. -/
def Grid.of (a b : List Text) : Grid where
  width := a.length
  height := b.length
  agree i j := decide (i < a.length ∧ j < b.length ∧ a[i]? = b[j]?)
  inside i j h := by
    rw [decide_eq_true_eq] at h
    exact ⟨h.1, h.2.1⟩

namespace Grid

@[simp]
theorem of_width (a b : List Text) : (of a b).width = a.length := rfl

@[simp]
theorem of_height (a b : List Text) : (of a b).height = b.length := rfl

theorem of_agree {a b : List Text} {i j : Nat} :
    (of a b).agree i j = true ↔ i < a.length ∧ j < b.length ∧ a[i]? = b[j]? := by
  simp [of]

end Grid

/-! ## Frontiers -/

namespace Frontier

/-- A frontier with all cells for the diagonals up to `r` on either side. -/
structure Wide (f : Frontier) (r : Nat) : Prop where
  size : f.reach.size = 2 * f.radius + 1
  le : r ≤ f.radius

theorem wide_new (r : Nat) : (new r).Wide r := ⟨by simp [new], le_rfl⟩

variable {f : Frontier} {r : Nat}

theorem Wide.set (h : f.Wide r) (k : Int) (x : Nat) : (f.set k x).Wide r :=
  ⟨by rw [Frontier.set, Array.size_setIfInBounds, h.size], h.le⟩

theorem Wide.get_set_self (h : f.Wide r) {k : Int} (hk : k.natAbs ≤ r) (x : Nat) :
    (f.set k x).get k = x := by
  have hs : f.slot k < f.reach.size := by
    have := h.size
    have := h.le
    simp only [slot]
    omega
  change (f.reach.setIfInBounds (f.slot k) x).getD (f.slot k) 0 = x
  rw [Array.getD_eq_getD_getElem?, Array.getElem?_setIfInBounds_self_of_lt hs, Option.getD_some]

theorem Wide.get_set_ne (h : f.Wide r) {k k' : Int} (hk : k.natAbs ≤ r) (hk' : k'.natAbs ≤ r)
    (hne : k' ≠ k) (x : Nat) : (f.set k x).get k' = f.get k' := by
  have hs : f.slot k ≠ f.slot k' := by
    have := h.le
    simp only [slot]
    omega
  change (f.reach.setIfInBounds (f.slot k) x).getD (f.slot k') 0 = f.reach.getD (f.slot k') 0
  rw [Array.getD_eq_getD_getElem?, Array.getElem?_setIfInBounds_ne hs,
    ← Array.getD_eq_getD_getElem?]

end Frontier

/-- A pair of wide frontiers. -/
structure Frontiers.Wide (w : Frontiers) (r : Nat) : Prop where
  forward : w.forward.Wide r
  backward : w.backward.Wide r

namespace Search

theorem mem_diagonals {d : Nat} {k : Int} : k ∈ diagonals d ↔ k.natAbs ≤ d ∧ (k + d) % 2 = 0 := by
  simp only [diagonals, List.mem_map, List.mem_range]
  constructor
  · rintro ⟨i, hi, rfl⟩
    omega
  · rintro ⟨hk, hp⟩
    exact ⟨((d - k) / 2).toNat, by omega, by omega⟩

theorem nodup_diagonals (d : Nat) : (diagonals d).Nodup :=
  List.Nodup.map (fun i j h => by omega) List.nodup_range

/-- A frontier before round `d`: it holds the furthest columns within one change less; before the
    first round, the cell from which the first diagonal is reached is zero. -/
def Ready (g : Grid) (f : Frontier) : (d : Nat) → Prop
  | 0 => f.get 1 = 0
  | d + 1 => ∀ k ∈ diagonals d, g.Furthest d k (f.get k)

section
variable {g : Grid} {f : Frontier} {d r : Nat}

/-- Diagonals of the other parity are not touched. -/
theorem Ready.set (h : Ready g f d) (hw : f.Wide r) (hd : d < r) {k : Int} (hk : k ∈ diagonals d)
    (x : Nat) : Ready g (f.set k x) d := by
  rw [mem_diagonals] at hk
  cases d with
  | zero =>
    rw [Ready, hw.get_set_ne (by omega) (by omega) (by omega)]
    exact h
  | succ d =>
    intro k' hk'
    have hm := mem_diagonals.1 hk'
    rw [hw.get_set_ne (by omega) (by omega) (by omega)]
    exact h k' hk'

/-- **The next round starts at the right columns.** -/
theorem start_next (h : Ready g f d) {k : Int} (hk : k ∈ diagonals d) :
    ∃ y : Nat, (f.next d k : Int) - y = k ∧ g.Start d (f.next d k) y := by
  rw [mem_diagonals] at hk
  cases d with
  | zero =>
    have hk0 : k = 0 := by omega
    have hx : f.next (0 : Nat) k = 0 := by
      rw [Frontier.next, if_pos (Or.inl (by omega)), hk0]
      exact h
    rw [hx, hk0]
    exact ⟨0, rfl, Grid.start_zero⟩
  | succ d =>
    rw [Frontier.next]
    split
    · next hc =>
      -- down from the right neighbour
      have hr : g.Furthest d (k + 1) (f.get (k + 1)) := h _ (mem_diagonals.2 (by omega))
      have hl : (∃ x', g.Furthest d (k + 1 - 2) x' ∧ x' < f.get (k + 1)) ∨ k + 1 ≤ -(d : Int) := by
        rcases hc with hc | ⟨hc, hlt⟩
        · exact Or.inr (by omega)
        · by_cases he : k + 1 ≤ -(d : Int)
          · exact Or.inr he
          · refine Or.inl ⟨f.get (k - 1), ?_, hlt⟩
            rw [show k + 1 - 2 = k - 1 by omega]
            exact h _ (mem_diagonals.2 (by omega))
      obtain ⟨y, hy, hs⟩ := Grid.start_down hr hl
      exact ⟨y, by omega, hs⟩
    · next hc =>
      -- right from the left neighbour
      rw [not_or, not_and_or, not_not, not_lt] at hc
      have hl : g.Furthest d (k - 1) (f.get (k - 1)) := h _ (mem_diagonals.2 (by omega))
      have hr : (∃ x', g.Furthest d (k - 1 + 2) x' ∧ x' ≤ f.get (k - 1) + 1) ∨
          (d : Int) ≤ k - 1 := by
        by_cases he : (d : Int) ≤ k - 1
        · exact Or.inr he
        · refine Or.inl ⟨f.get (k + 1), ?_, by omega⟩
          rw [show k - 1 + 2 = k + 1 by omega]
          exact h _ (mem_diagonals.2 (by omega))
      obtain ⟨y, hy, hs⟩ := Grid.start_right hl hr
      exact ⟨y, by omega, hs⟩

end

/-! ## Runs of equal lines -/

section
variable (a b : Array Text)

/-- The grid of the lines. -/
abbrev grid : Grid := Grid.of a.toList b.toList

/-- A run forward goes on while the squares agree. -/
theorem agree_runFrom (x y : Nat) :
    (∀ s < runFrom a b x y, (grid a b).agree (x + s) (y + s) = true) ∧
      ¬ (grid a b).agree (x + runFrom a b x y) (y + runFrom a b x y) = true := by
  fun_induction runFrom a b x y with
  | case1 x y h he ih =>
    have h0 : (grid a b).agree x y = true := by
      rw [Grid.of_agree]
      simpa [h.1, h.2] using he
    refine ⟨fun s hs => ?_, ?_⟩
    · cases s with
      | zero => exact h0
      | succ s =>
        have := ih.1 s (by omega)
        rwa [show x + 1 + s = x + (s + 1) by omega, show y + 1 + s = y + (s + 1) by omega] at this
    · have := ih.2
      rwa [show ∀ r, x + 1 + r = x + (r + 1) by omega, show ∀ r, y + 1 + r = y + (r + 1) by omega]
        at this
  | case2 x y h he =>
    refine ⟨fun s hs => absurd hs (by omega), fun ha => he ?_⟩
    rw [Grid.of_agree] at ha
    simpa [h.1, h.2] using ha.2.2
  | case3 x y h =>
    refine ⟨fun s hs => absurd hs (by omega), fun ha => h ?_⟩
    rw [Grid.of_agree] at ha
    simpa using ⟨ha.1, ha.2.1⟩

/-- A run backward too; it starts at the square before `(p, q)`. -/
theorem agree_runBefore {p q : Nat} (hp : p ≤ a.size) (hq : q ≤ b.size) :
    (∀ s < runBefore a b p q, s < p ∧ s < q ∧ (grid a b).agree (p - 1 - s) (q - 1 - s) = true) ∧
      (runBefore a b p q < p → runBefore a b p q < q →
        ¬ (grid a b).agree (p - 1 - runBefore a b p q) (q - 1 - runBefore a b p q) = true) := by
  fun_induction runBefore a b p q with
  | case1 x y he ih =>
    obtain ⟨hs, hn⟩ := ih (by omega) (by omega)
    have h0 : (grid a b).agree x y = true := by
      rw [Grid.of_agree]
      simpa [Nat.lt_of_succ_le hp, Nat.lt_of_succ_le hq] using he
    refine ⟨fun s hlt => ?_, fun h₁ h₂ => ?_⟩
    · cases s with
      | zero => exact ⟨by omega, by omega, h0⟩
      | succ s =>
        obtain ⟨hx, hy, ha⟩ := hs s (by omega)
        rw [show x + 1 - 1 - (s + 1) = x - 1 - s by omega,
          show y + 1 - 1 - (s + 1) = y - 1 - s by omega]
        exact ⟨by omega, by omega, ha⟩
    · have := hn (by omega) (by omega)
      rwa [show ∀ r, x - 1 - r = x + 1 - 1 - (r + 1) by omega,
        show ∀ r, y - 1 - r = y + 1 - 1 - (r + 1) by omega] at this
  | case2 x y he =>
    refine ⟨fun s hs => absurd hs (by omega), fun _ _ ha => he ?_⟩
    rw [Grid.of_agree] at ha
    simpa using ha.2.2
  | case3 x y h =>
    refine ⟨fun s hs => absurd hs (by omega), fun h₁ h₂ => ?_⟩
    obtain ⟨x, rfl⟩ := Nat.exists_eq_succ_of_ne_zero (by omega : x ≠ 0)
    obtain ⟨y, rfl⟩ := Nat.exists_eq_succ_of_ne_zero (by omega : y ≠ 0)
    exact absurd rfl (h x y rfl)

/-- Seen from the opposite corner a run backward goes on while the squares agree. -/
theorem turn_agree_runBefore (x y : Nat) :
    (∀ s < runBefore a b (a.size - x) (b.size - y),
        (grid a b).turn.agree (x + s) (y + s) = true) ∧
      ¬ (grid a b).turn.agree (x + runBefore a b (a.size - x) (b.size - y))
        (y + runBefore a b (a.size - x) (b.size - y)) = true := by
  obtain ⟨hs, hn⟩ := agree_runBefore a b (Nat.sub_le a.size x) (Nat.sub_le b.size y)
  generalize runBefore a b (a.size - x) (b.size - y) = r at hs hn
  have turned : ∀ s, s < a.size - x → s < b.size - y → (grid a b).turn.agree (x + s) (y + s) =
      (grid a b).agree (a.size - x - 1 - s) (b.size - y - 1 - s) := by
    intro s hx hy
    rw [Grid.turn_agree _ (by simp; omega) (by simp; omega)]
    simp only [Grid.of_width, Grid.of_height, Array.length_toList]
    rw [show a.size - 1 - (x + s) = a.size - x - 1 - s by omega,
      show b.size - 1 - (y + s) = b.size - y - 1 - s by omega]
  refine ⟨fun s hlt => ?_, fun ha => ?_⟩
  · obtain ⟨hx, hy, ha⟩ := hs s hlt
    rw [turned s hx hy]
    exact ha
  · have hin := (grid a b).turn.inside _ _ ha
    simp only [Grid.turn_width, Grid.turn_height, Grid.of_width, Grid.of_height,
      Array.length_toList] at hin
    rw [turned r (by omega) (by omega)] at ha
    exact hn (by omega) (by omega) ha

end

/-! ## One round -/

/-- One round of a search over the diagonals `ks`: on each, a start, a run, and a test whether it
    meets the other search, which ends the round. -/
def sweep (run : Nat → Nat → Nat) (meets : Int → Nat → Bool) (point : Nat → Nat → Nat → Nat × Nat)
    (d : Nat) : (ks : List Int) → Frontier → Option (Nat × Nat) × Frontier
  | [], f => (none, f)
  | k :: ks, f =>
    let x := f.next d k
    let y := ((x : Int) - k).toNat
    let r := run x y
    if meets k (x + r) then (some (point x y r), f.set k (x + r))
    else sweep run meets point d ks (f.set k (x + r))

/-- Whether the forward search, at column `x` of diagonal `k`, meets the backward one. -/
def meetsBackward (a b : Array Text) (d : Nat) (back : Frontier) (k : Int) (x : Nat) : Bool :=
  decide (shift a b % 2 = 1 ∧ (k - shift a b).natAbs < d ∧ a.size ≤ x + back.get (shift a b - k))

/-- Whether the backward search, at column `x` of diagonal `k`, meets the forward one. -/
def meetsForward (a b : Array Text) (d : Nat) (front : Frontier) (k : Int) (x : Nat) : Bool :=
  decide (shift a b % 2 = 0 ∧ (k - shift a b).natAbs ≤ d ∧ a.size ≤ x + front.get (shift a b - k))

theorem sweepForward_eq (a b : Array Text) (d : Nat) (back : Frontier) (ks : List Int)
    (f : Frontier) : sweepForward a b d back ks f =
      sweep (runFrom a b) (meetsBackward a b d back) (fun x y _ => (x, y)) d ks f := by
  induction ks generalizing f with
  | nil => rfl
  | cons k ks ih => simp only [sweepForward, sweep, meetsBackward, decide_eq_true_eq, ih]

theorem sweepBackward_eq (a b : Array Text) (d : Nat) (front : Frontier) (ks : List Int)
    (f : Frontier) : sweepBackward a b d front ks f =
      sweep (fun x y => runBefore a b (a.size - x) (b.size - y)) (meetsForward a b d front)
        (fun x y r => (a.size - (x + r), b.size - (y + r))) d ks f := by
  induction ks generalizing f with
  | nil => rfl
  | cons k ks ih => simp only [sweepBackward, sweep, meetsForward, decide_eq_true_eq, ih]

section
variable {g : Grid} {run : Nat → Nat → Nat} {meets : Int → Nat → Bool}
  {point : Nat → Nat → Nat → Nat × Nat} {d r : Nat} {f : Frontier} {ks : List Int}

theorem wide_sweep (hw : f.Wide r) : (sweep run meets point d ks f).2.Wide r := by
  induction ks generalizing f with
  | nil => exact hw
  | cons k ks ih =>
    simp only [sweep]
    split
    · exact hw.set _ _
    · exact ih (hw.set _ _)

/-- A round leaves all other diagonals alone. -/
theorem get_sweep (hw : f.Wide r) (hks : ∀ k ∈ ks, k.natAbs ≤ r) {k' : Int} (hk' : k'.natAbs ≤ r)
    (hn : k' ∉ ks) : (sweep run meets point d ks f).2.get k' = f.get k' := by
  induction ks generalizing f with
  | nil => rfl
  | cons k ks ih =>
    rw [List.mem_cons, not_or] at hn
    have hk := hks k (by simp)
    simp only [sweep]
    split
    · exact hw.get_set_ne hk hk' hn.1 _
    · rw [ih (hw.set _ _) (fun k hk => hks k (by simp [hk])) hn.2]
      exact hw.get_set_ne hk hk' hn.1 _

variable (hrun : ∀ x y, (∀ s < run x y, g.agree (x + s) (y + s) = true) ∧
  ¬ g.agree (x + run x y) (y + run x y) = true)
include hrun

/-- A start and a run lead to the furthest column. -/
theorem furthest_next (hf : Ready g f d) {k : Int} (hk : k ∈ diagonals d) {x y : Nat}
    (hx : f.next d k = x) (hy : ((x : Int) - k).toNat = y) :
    (x : Int) - y = k ∧ g.Start d x y ∧ g.Furthest d k (x + run x y) := by
  obtain ⟨y', hk', hs⟩ := start_next hf hk
  rw [hx] at hk' hs
  obtain rfl : y' = y := by omega
  refine ⟨hk', hs, ?_⟩
  have := hs.furthest (hrun x y').1 (hrun x y').2
  rwa [hk'] at this

/-- **A round that meets nothing** leaves the furthest column on each of its diagonals. -/
theorem reached_sweep (hks : ∀ k ∈ ks, k ∈ diagonals d) (hnd : ks.Nodup) (hw : f.Wide r)
    (hd : d < r) (hf : Ready g f d) (h : (sweep run meets point d ks f).1 = none) :
    ∀ k ∈ ks, g.Furthest d k ((sweep run meets point d ks f).2.get k) ∧
      meets k ((sweep run meets point d ks f).2.get k) = false := by
  induction ks generalizing f with
  | nil => intro k hk; simp at hk
  | cons k ks ih =>
    have hk := hks k (by simp)
    have hks' : ∀ k ∈ ks, k ∈ diagonals d := fun k hk => hks k (by simp [hk])
    obtain ⟨hkn, hnd⟩ := List.nodup_cons.1 hnd
    obtain ⟨-, -, hfar⟩ := furthest_next hrun hf hk rfl rfl
    simp only [sweep] at h ⊢
    split at h
    · simp at h
    · next hm =>
      rw [if_neg hm]
      intro k' hk'
      rcases List.mem_cons.1 hk' with rfl | hk'
      · have habs : ∀ k ∈ diagonals d, k.natAbs ≤ r := fun k hk => by
          have := (mem_diagonals.1 hk).1
          omega
        rw [get_sweep (hw.set _ _) (fun k hk => habs k (hks' k hk)) (habs _ hk) hkn,
          hw.get_set_self (habs _ hk)]
        exact ⟨hfar, by simpa using hm⟩
      · exact ih hks' hnd (hw.set _ _) (hf.set hw hd hk _) h k' hk'

/-- **A round that meets the other search** answers with a point of the run that does. -/
theorem sweep_eq_some (hks : ∀ k ∈ ks, k ∈ diagonals d) (hw : f.Wide r) (hd : d < r)
    (hf : Ready g f d) {p : Nat × Nat} (h : (sweep run meets point d ks f).1 = some p) :
    ∃ k ∈ ks, ∃ x y : Nat, (x : Int) - y = k ∧ g.Start d x y ∧ g.Furthest d k (x + run x y) ∧
      meets k (x + run x y) = true ∧ p = point x y (run x y) := by
  induction ks generalizing f with
  | nil => simp [sweep] at h
  | cons k ks ih =>
    have hk := hks k (by simp)
    obtain ⟨hxy, hs, hfar⟩ := furthest_next hrun hf hk rfl rfl
    simp only [sweep] at h
    split at h
    · next hm =>
      exact ⟨k, by simp, _, _, hxy, hs, hfar, hm, (Option.some.inj h).symm⟩
    · obtain ⟨k', hk', hrest⟩ := ih (fun k hk => hks k (by simp [hk])) (hw.set _ _)
        (hf.set hw hd hk _) h
      exact ⟨k', by simp [hk'], hrest⟩

end

/-! ## The rounds of both searches -/

section
variable {a b : Array Text} {d r : Nat} {front back : Frontier}

theorem wide_sweepForward (hw : front.Wide r) (ks : List Int) :
    (sweepForward a b d back ks front).2.Wide r := by
  rw [sweepForward_eq]
  exact wide_sweep hw

theorem wide_sweepBackward (hw : back.Wide r) (ks : List Int) :
    (sweepBackward a b d front ks back).2.Wide r := by
  rw [sweepBackward_eq]
  exact wide_sweep hw

theorem grid_shift : (grid a b).shift = shift a b := by simp [Grid.shift, shift]

/-- The whole way has the parity of the shift and is not longer than all lines together. -/
theorem total_grid (a b : Array Text) :
    ((grid a b).total : Int) % 2 = shift a b % 2 ∧ (grid a b).total ≤ a.size + b.size := by
  have hp := (grid a b).cost_parity (grid a b).width (grid a b).height
  have hl := (grid a b).cost_le_add (grid a b).width (grid a b).height
  simp only [Grid.of_width, Grid.of_height, Array.length_toList] at hp hl
  simp only [Grid.total, Grid.of_width, Grid.of_height, Array.length_toList, shift]
  omega

/-- If the forward search meets the backward one in round `d`, the whole way costs `2 * d - 1` and
    the answer is a point of cost `d` on it. -/
theorem sweepForward_some (hw : front.Wide r) (hd : d < r) (hf : Ready (grid a b) front d)
    (hb : Ready (grid a b).turn back d) (ht : 2 * d ≤ (grid a b).total + 1) {p : Nat × Nat}
    (h : (sweepForward a b d back (diagonals d) front).1 = some p) :
    (grid a b).total + 1 = 2 * d ∧ (grid a b).OnShortest p.1 p.2 ∧ (grid a b).cost p.1 p.2 = d := by
  rw [sweepForward_eq] at h
  obtain ⟨k, hk, x, y, hxy, hs, hfar, hm, rfl⟩ :=
    sweep_eq_some (agree_runFrom a b) (fun _ h => h) hw hd hf h
  simp only [meetsBackward, decide_eq_true_eq] at hm
  obtain ⟨hodd, habs, hpass⟩ := hm
  obtain ⟨d, rfl⟩ : ∃ e, d = e + 1 := ⟨d - 1, by omega⟩
  rw [mem_diagonals] at hk
  have hback := hb (shift a b - k) (mem_diagonals.2 (by omega))
  have htot := total_grid a b
  have hmeet : (grid a b).Meet (d + 1) d k (x + runFrom a b x y) (back.get (shift a b - k)) := by
    refine ⟨hfar, by rwa [grid_shift], ?_, ?_, by simpa using hpass⟩
    all_goals
      simp only [Grid.of_width, Grid.of_height, Array.length_toList]
      simp only [shift] at habs
      omega
  have hle := hmeet.total_le
  exact ⟨by omega, hmeet.onShortest_start (by omega) hxy hs.cost_le (agree_runFrom a b x y).1⟩

/-- If it meets nothing, it is ready for the next round, and the whole way does not cost
    `2 * d - 1`. -/
theorem sweepForward_none (hw : front.Wide r) (hd : d < r) (hf : Ready (grid a b) front d)
    (hb : Ready (grid a b).turn back d)
    (h : (sweepForward a b d back (diagonals d) front).1 = none) :
    Ready (grid a b) (sweepForward a b d back (diagonals d) front).2 (d + 1) ∧
      (grid a b).total + 1 ≠ 2 * d := by
  rw [sweepForward_eq] at h ⊢
  have hreach := reached_sweep (agree_runFrom a b) (fun _ h => h) (nodup_diagonals d) hw hd hf h
  refine ⟨fun k hk => (hreach k hk).1, fun htot => ?_⟩
  obtain ⟨d, rfl⟩ : ∃ e, d = e + 1 := ⟨d - 1, by omega⟩
  obtain ⟨k, hkd, hkp, hke, hmeet⟩ :=
    Grid.exists_meet (g := grid a b) (d := d + 1) (e := d) (by omega)
  obtain ⟨hfar, hnot⟩ := hreach k (mem_diagonals.2 ⟨hkd, hkp⟩)
  have hpar := (total_grid a b).1
  rw [grid_shift] at hke hmeet
  have hback := hb (shift a b - k) (mem_diagonals.2 (by omega))
  have hpass := (hmeet _ _ hfar hback).pass
  simp only [Grid.of_width, Array.length_toList] at hpass
  simp only [meetsBackward, decide_eq_false_iff_not] at hnot
  exact hnot ⟨by omega, by omega, hpass⟩

/-- Where the test of the backward search finds the forward one, the two pass each other. -/
theorem meet_of_meetsForward (hf : Ready (grid a b) front (d + 1))
    (ht : 2 * d ≤ (grid a b).total + 1) {k : Int} (hk : k ∈ diagonals d) {x : Nat}
    (hfar : (grid a b).turn.Furthest d k x) (hm : meetsForward a b d front k x = true) :
    (grid a b).Meet d d (shift a b - k) (front.get (shift a b - k)) x := by
  have htot := total_grid a b
  simp only [meetsForward, decide_eq_true_eq] at hm
  obtain ⟨heven, habs, hpass⟩ := hm
  rw [mem_diagonals] at hk
  refine ⟨hf (shift a b - k) (mem_diagonals.2 (by omega)), ?_, ?_, ?_, ?_⟩
  · rwa [grid_shift, show shift a b - (shift a b - k) = k by omega]
  all_goals
    simp only [Grid.of_width, Grid.of_height, Array.length_toList]
    simp only [shift] at habs hpass ⊢
    omega

/-- If the backward search meets the forward one in round `d`, the whole way costs `2 * d` and the
    answer is a point of cost `d` on it. -/
theorem sweepBackward_some (hw : back.Wide r) (hd : d < r) (hb : Ready (grid a b).turn back d)
    (hf : Ready (grid a b) front (d + 1)) (ht : 2 * d ≤ (grid a b).total + 1) {p : Nat × Nat}
    (h : (sweepBackward a b d front (diagonals d) back).1 = some p) :
    (grid a b).total = 2 * d ∧ (grid a b).OnShortest p.1 p.2 ∧ (grid a b).cost p.1 p.2 = d := by
  rw [sweepBackward_eq] at h
  obtain ⟨k, hk, x, y, hxy, hs, hfar, hm, rfl⟩ :=
    sweep_eq_some (turn_agree_runBefore a b) (fun _ h => h) hw hd hb h
  have hmeet := meet_of_meetsForward hf ht hk hfar hm
  have heven : shift a b % 2 = 0 := (of_decide_eq_true hm).1
  have htot := total_grid a b
  have hle := hmeet.total_le
  have htd : (grid a b).total = 2 * d := by omega
  generalize runBefore a b (a.size - x) (b.size - y) = t at hmeet ⊢
  have hxt : ((x + t : Nat) : Int) - (y + t : Nat) = (grid a b).shift - (shift a b - k) := by
    rw [grid_shift]
    omega
  have hend := hmeet.onShortest_end (by omega) hxt
  simp only [Grid.of_width, Grid.of_height, Array.length_toList] at hend
  exact ⟨htd, hend⟩

/-- If it meets nothing, it is ready for the next round, and the whole way does not cost `2 * d`. -/
theorem sweepBackward_none (hw : back.Wide r) (hd : d < r) (hb : Ready (grid a b).turn back d)
    (hf : Ready (grid a b) front (d + 1))
    (h : (sweepBackward a b d front (diagonals d) back).1 = none) :
    Ready (grid a b).turn (sweepBackward a b d front (diagonals d) back).2 (d + 1) ∧
      (grid a b).total ≠ 2 * d := by
  rw [sweepBackward_eq] at h ⊢
  have hreach :=
    reached_sweep (turn_agree_runBefore a b) (fun _ h => h) (nodup_diagonals d) hw hd hb h
  refine ⟨fun k hk => (hreach k hk).1, fun htot => ?_⟩
  obtain ⟨k, hkd, hkp, hke, hmeet⟩ := Grid.exists_meet (g := grid a b) (d := d) (e := d) (by omega)
  have hpar := (total_grid a b).1
  rw [grid_shift] at hke hmeet
  obtain ⟨hfar, hnot⟩ := hreach (shift a b - k) (mem_diagonals.2 (by omega))
  have hpass := (hmeet _ _ (hf k (mem_diagonals.2 ⟨hkd, hkp⟩)) hfar).pass
  simp only [Grid.of_width, Array.length_toList] at hpass
  simp only [meetsForward, decide_eq_false_iff_not] at hnot
  refine hnot ⟨by omega, by omega, ?_⟩
  rw [show shift a b - (shift a b - k) = k by omega]
  omega

end

section
variable {a b : Array Text} {w : Frontiers} {r : Nat}

theorem wide_rounds (hw : w.Wide r) (ds : List Nat) : (rounds a b ds w).2.Wide r := by
  induction ds generalizing w with
  | nil => exact hw
  | cons d ds ih =>
    have hf : (sweepForward a b d w.backward (diagonals d) w.forward).2.Wide r :=
      wide_sweepForward hw.forward _
    rw [rounds]
    split
    · next p f h =>
      rw [h] at hf
      exact ⟨hf, hw.backward⟩
    · next f h =>
      rw [h] at hf
      have hb : (sweepBackward a b d f (diagonals d) w.backward).2.Wide r :=
        wide_sweepBackward hw.backward _
      split
      · next p g h =>
        rw [h] at hb
        exact ⟨hf, hb⟩
      · next g h =>
        rw [h] at hb
        exact ih ⟨hf, hb⟩

/-- **The rounds from `d` on find a point in the middle of a shortest path**, if the searches are
    ready for round `d` and have not missed it before. -/
theorem rounds_eq_some (n : Nat) {d : Nat} (hw : w.Wide r) (hr : d + n ≤ r)
    (hn : bound a.size b.size ≤ d + n) (hf : Ready (grid a b) w.forward d)
    (hb : Ready (grid a b).turn w.backward d) (ht : 2 * d ≤ (grid a b).total + 1) :
    ∃ x y, (rounds a b (List.range' d n) w).1 = some (x, y) ∧ (grid a b).OnShortest x y ∧
      (grid a b).cost x y = ((grid a b).total + 1) / 2 := by
  have htot := total_grid a b
  induction n generalizing d w with
  | zero =>
    -- the bound on the rounds is never reached
    simp only [bound] at hn
    omega
  | succ n ih =>
    rw [List.range'_succ, rounds]
    split
    · next p f h =>
      obtain ⟨hd, hp, hc⟩ := sweepForward_some hw.forward (by omega) hf hb ht (congrArg Prod.fst h)
      exact ⟨p.1, p.2, rfl, hp, by omega⟩
    · next f h =>
      obtain ⟨hf', hne⟩ := sweepForward_none hw.forward (by omega) hf hb (congrArg Prod.fst h)
      have hwf : (sweepForward a b d w.backward (diagonals d) w.forward).2.Wide r :=
        wide_sweepForward hw.forward _
      rw [h] at hf' hwf
      split
      · next p g h =>
        obtain ⟨hd, hp, hc⟩ := sweepBackward_some hw.backward (by omega) hb hf' ht
          (congrArg Prod.fst h)
        exact ⟨p.1, p.2, rfl, hp, by omega⟩
      · next g h =>
        obtain ⟨hb', hne'⟩ := sweepBackward_none hw.backward (by omega) hb hf' (congrArg Prod.fst h)
        have hwb : (sweepBackward a b d f (diagonals d) w.backward).2.Wide r :=
          wide_sweepBackward hw.backward _
        rw [h] at hb' hwb
        exact ih (w := ⟨f, g⟩) ⟨hwf, hwb⟩ (by omega) (by omega) hf' hb' (by omega)

theorem wide_middle? (hw : w.Wide r) : (middle? a b w).2.Wide r :=
  wide_rounds ⟨hw.forward.set 1 0, hw.backward.set 1 0⟩ _

/-- **The search answers with a point in the middle of a shortest path**, whatever the frontiers
    held before. -/
theorem middle?_eq_some (hw : w.Wide r) (hr : bound a.size b.size ≤ r) :
    ∃ x y, (middle? a b w).1 = some (x, y) ∧ (grid a b).OnShortest x y ∧
      (grid a b).cost x y = ((grid a b).total + 1) / 2 := by
  have h1 : (1 : Int).natAbs ≤ r := by
    simp only [bound] at hr
    omega
  rw [middle?, List.range_eq_range']
  refine rounds_eq_some (bound a.size b.size) ⟨hw.forward.set 1 0, hw.backward.set 1 0⟩ (by omega)
    (by omega) ?_ ?_ (by omega)
  · exact hw.forward.get_set_self h1 0
  · exact hw.backward.get_set_self h1 0

/-- If the whole way costs at least two, the point is none of its ends. -/
theorem middle?_inside {a b : List Text} (hw : w.Wide r) (hr : bound a.length b.length ≤ r)
    (htwo : 2 ≤ (Grid.of a b).total) :
    ∃ x y w', middle? a.toArray b.toArray w = (some (x, y), w') ∧ w'.Wide r ∧
      (x ≤ a.length ∧ y ≤ b.length ∧ 0 < x + y ∧ x + y < a.length + b.length) ∧
      (Grid.of a b).OnShortest x y := by
  obtain ⟨x, y, hm, hon, hcost⟩ :=
    middle?_eq_some (a := a.toArray) (b := b.toArray) hw (by simpa using hr)
  obtain ⟨hx, hy, ht⟩ := id hon
  refine ⟨x, y, _, Prod.ext hm rfl, wide_middle? hw, ⟨hx, hy, ?_, ?_⟩, hon⟩
  · have := (Grid.of a b).cost_le_add x y
    simp only [grid] at hcost
    omega
  · have := (Grid.of a b).turn.cost_le_add (a.length - x) (b.length - y)
    simp only [grid, Grid.of_width, Grid.of_height] at hcost ht hx hy
    omega

end

end Search

end Retouch
