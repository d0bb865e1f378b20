/-
  Shortest paths through a grid.

  A path starts at `(0, 0)` and goes right, down, or diagonally across a square whose two sides
  agree.  Only straight steps cost something.  The quarter plane around the grid belongs to it: a
  path may leave the grid, but no square agrees out there.

  * `cost i j` is the least cost of a path to `(i, j)`.  It changes by one along a straight step
    (`cost_right`, `cost_down`) and never drops along a diagonal (`cost_le_diagonal`);
  * `turn` is the grid seen from the opposite corner; a path in it is a path backwards;
  * `total_le_add`: the way through any point of the grid is at least as long as the shortest;
  * `exists_onShortest`: for each cost up to the total, a shortest path has a point of that cost.
-/
import Mathlib.Data.Nat.Init
import Mathlib.Order.Nat

namespace Retouch

/-- A grid of squares, some of which can be crossed diagonally. -/
@[ext]
structure Grid where
  width : Nat
  height : Nat
  agree : Nat → Nat → Bool
  inside : ∀ i j, agree i j → i < width ∧ j < height

namespace Grid

/-- The least cost of a path to `(i, j)`.  Where a square agrees, crossing it is never worse than
    going around. -/
def cost (g : Grid) : (i j : Nat) → Nat
  | 0, j => j
  | i + 1, 0 => i + 1
  | i + 1, j + 1 =>
    if g.agree i j then g.cost i j else min (g.cost i (j + 1)) (g.cost (i + 1) j) + 1
termination_by i j => i + j

/-- The cost of the whole way. -/
def total (g : Grid) : Nat := g.cost g.width g.height

/-- The grid seen from the opposite corner. -/
def turn (g : Grid) : Grid where
  width := g.width
  height := g.height
  agree i j := decide (i < g.width ∧ j < g.height) && g.agree (g.width - 1 - i) (g.height - 1 - j)
  inside i j h := by
    rw [Bool.and_eq_true, decide_eq_true_eq] at h
    exact h.1

variable (g : Grid)

/-! ## Steps -/

@[simp]
theorem cost_zero_left (j : Nat) : g.cost 0 j = j := by rw [cost]

@[simp]
theorem cost_zero_right (i : Nat) : g.cost i 0 = i := by cases i <;> rw [cost]

theorem cost_of_agree {i j : Nat} (h : g.agree i j = true) :
    g.cost (i + 1) (j + 1) = g.cost i j := by
  rw [cost, if_pos h]

theorem cost_of_not_agree {i j : Nat} (h : ¬ g.agree i j = true) :
    g.cost (i + 1) (j + 1) = min (g.cost i (j + 1)) (g.cost (i + 1) j) + 1 := by
  rw [cost, if_neg h]

/-- Neighbouring points have costs that differ by at most one. -/
theorem cost_steps (i j : Nat) :
    (g.cost (i + 1) j ≤ g.cost i j + 1 ∧ g.cost i j ≤ g.cost (i + 1) j + 1) ∧
      (g.cost i (j + 1) ≤ g.cost i j + 1 ∧ g.cost i j ≤ g.cost i (j + 1) + 1) := by
  induction hn : i + j using Nat.strong_induction_on generalizing i j with
  | _ n ih =>
    constructor
    · cases j with
      | zero => simp only [cost_zero_right]; omega
      | succ j =>
        have hij := ih (i + j) (by omega) i j rfl
        by_cases h : g.agree i j = true
        · rw [g.cost_of_agree h]; omega
        · rw [g.cost_of_not_agree h]; omega
    · cases i with
      | zero => simp only [cost_zero_left]; omega
      | succ i =>
        have hij := ih (i + j) (by omega) i j rfl
        by_cases h : g.agree i j = true
        · rw [g.cost_of_agree h]; omega
        · rw [g.cost_of_not_agree h]; omega

theorem cost_right (i j : Nat) : g.cost (i + 1) j ≤ g.cost i j + 1 := (g.cost_steps i j).1.1

theorem cost_down (i j : Nat) : g.cost i (j + 1) ≤ g.cost i j + 1 := (g.cost_steps i j).2.1

/-- A straight step changes the parity of the cost, a diagonal one does not. -/
theorem cost_parity (i j : Nat) : g.cost i j % 2 = (i + j) % 2 := by
  fun_induction g.cost i j with
  | case1 j => rw [Nat.zero_add]
  | case2 i => rfl
  | case3 i j _ ih => omega
  | case4 i j _ ih₁ ih₂ => omega

/-- The cost is at least the distance from the main diagonal. -/
theorem le_cost_add (i j : Nat) : i ≤ g.cost i j + j ∧ j ≤ g.cost i j + i := by
  fun_induction g.cost i j with
  | case1 j => omega
  | case2 i => omega
  | case3 i j _ ih => omega
  | case4 i j _ ih₁ ih₂ => omega

theorem cost_le_add (i j : Nat) : g.cost i j ≤ i + j := by
  induction i with
  | zero => simp
  | succ i ih => have := g.cost_right i j; omega

/-- **The cost never drops along a diagonal.** -/
theorem cost_le_diagonal (i j t : Nat) : g.cost i j ≤ g.cost (i + t) (j + t) := by
  induction t with
  | zero => exact le_rfl
  | succ t ih =>
    refine ih.trans ?_
    have := g.cost_steps (i + t) (j + t)
    by_cases h : g.agree (i + t) (j + t) = true
    · exact (g.cost_of_agree h).ge
    · have := g.cost_of_not_agree h
      rw [← Nat.add_assoc, ← Nat.add_assoc]
      omega

/-- A run of squares that agree costs nothing. -/
theorem cost_run {i j t : Nat} (h : ∀ s < t, g.agree (i + s) (j + s) = true) :
    g.cost (i + t) (j + t) = g.cost i j := by
  induction t with
  | zero => rfl
  | succ t ih =>
    rw [← Nat.add_assoc, ← Nat.add_assoc, g.cost_of_agree (h t (Nat.lt_succ_self t))]
    exact ih fun s hs => h s (Nat.lt_succ_of_lt hs)

/-- The cost of a point depends only on the squares before it. -/
theorem cost_congr {g g' : Grid} {n m : Nat}
    (h : ∀ i j, i < n → j < m → g.agree i j = g'.agree i j) {i j : Nat} (hi : i ≤ n) (hj : j ≤ m) :
    g.cost i j = g'.cost i j := by
  fun_induction g.cost i j with
  | case1 j => rw [cost_zero_left]
  | case2 i => rw [cost_zero_right]
  | case3 i j ha ih =>
    rw [h i j hi hj] at ha
    rw [g'.cost_of_agree ha, ih (by omega) (by omega)]
  | case4 i j ha ih₁ ih₂ =>
    rw [h i j hi hj] at ha
    rw [g'.cost_of_not_agree ha, ih₁ (by omega) hj, ih₂ hi (by omega)]

/-! ## Off the grid -/

theorem not_agree_of_width_le {i : Nat} (h : g.width ≤ i) (j : Nat) : ¬ g.agree i j = true :=
  fun ha => absurd (g.inside i j ha).1 (by omega)

theorem not_agree_of_height_le {j : Nat} (h : g.height ≤ j) (i : Nat) : ¬ g.agree i j = true :=
  fun ha => absurd (g.inside i j ha).2 (by omega)

/-- To the right of the grid every step right costs one. -/
theorem cost_right_outside {i : Nat} (h : g.width ≤ i) (j : Nat) :
    g.cost (i + 1) j = g.cost i j + 1 := by
  induction j with
  | zero => simp
  | succ j ih =>
    have := g.cost_steps i j
    rw [g.cost_of_not_agree (g.not_agree_of_width_le h j), ih]
    omega

/-- Below the grid every step down costs one. -/
theorem cost_down_outside {j : Nat} (h : g.height ≤ j) (i : Nat) :
    g.cost i (j + 1) = g.cost i j + 1 := by
  induction i with
  | zero => simp
  | succ i ih =>
    have := g.cost_steps i j
    rw [g.cost_of_not_agree (g.not_agree_of_height_le h i), ih]
    omega

/-! ## The way back -/

@[simp]
theorem turn_width : g.turn.width = g.width := rfl

@[simp]
theorem turn_height : g.turn.height = g.height := rfl

theorem turn_agree {i j : Nat} (hi : i < g.width) (hj : j < g.height) :
    g.turn.agree i j = g.agree (g.width - 1 - i) (g.height - 1 - j) := by
  simp [turn, hi, hj]

@[simp]
theorem turn_turn : g.turn.turn = g := by
  refine Grid.ext rfl rfl ?_
  funext i j
  by_cases h : i < g.width ∧ j < g.height
  · rw [turn_agree g.turn h.1 h.2, turn_width, turn_height, turn_agree _ (by omega) (by omega),
      show g.width - 1 - (g.width - 1 - i) = i by omega,
      show g.height - 1 - (g.height - 1 - j) = j by omega]
  · rw [Bool.eq_iff_iff]
    exact ⟨fun ha => absurd (g.turn.turn.inside i j ha) h, fun ha => absurd (g.inside i j ha) h⟩

/-- One square before `(i + 1, j + 1)`, seen from the opposite corner. -/
theorem turn_agree_before {i j : Nat} (hi : i < g.width) (hj : j < g.height) :
    g.turn.agree (g.width - (i + 1)) (g.height - (j + 1)) = g.agree i j := by
  rw [turn_agree _ (by omega) (by omega), show g.width - 1 - (g.width - (i + 1)) = i by omega,
    show g.height - 1 - (g.height - (j + 1)) = j by omega]

/-- **No way through a point of the grid is shorter than the shortest.** -/
theorem total_le_add {i j : Nat} (hi : i ≤ g.width) (hj : j ≤ g.height) :
    g.total ≤ g.cost i j + g.turn.cost (g.width - i) (g.height - j) := by
  induction hn : g.width - i + (g.height - j) using Nat.strong_induction_on generalizing i j with
  | _ n ih =>
    rcases Nat.lt_or_eq_of_le hi with hi | rfl
    · have hw : g.width - i = g.width - (i + 1) + 1 := by omega
      rcases Nat.lt_or_eq_of_le hj with hj | rfl
      · have hh : g.height - j = g.height - (j + 1) + 1 := by omega
        by_cases h : g.agree i j = true
        · have := ih _ (by omega) (i := i + 1) (j := j + 1) (by omega) (by omega) rfl
          rw [hw, hh, g.turn.cost_of_agree (by rw [g.turn_agree_before hi hj, h])]
          rwa [g.cost_of_agree h] at this
        · have h₁ := ih _ (by omega) (i := i + 1) (j := j) (by omega) (by omega) rfl
          have h₂ := ih _ (by omega) (i := i) (j := j + 1) (by omega) (by omega) rfl
          have h₃ := g.cost_right i j
          have h₄ := g.cost_down i j
          rw [hw, hh, g.turn.cost_of_not_agree (by rwa [g.turn_agree_before hi hj]), ← hw, ← hh]
          omega
      · have h₁ := ih _ (by omega) (i := i + 1) (j := g.height) (by omega) le_rfl rfl
        have h₂ := g.cost_right i g.height
        simp only [Nat.sub_self, cost_zero_right] at h₁ ⊢
        omega
    · rcases Nat.lt_or_eq_of_le hj with hj | rfl
      · have h₁ := ih _ (by omega) (i := g.width) (j := j + 1) le_rfl (by omega) rfl
        have h₂ := g.cost_down g.width j
        simp only [Nat.sub_self, cost_zero_left] at h₁ ⊢
        omega
      · exact Nat.le_add_right _ _

/-- The way back costs as much as the way there. -/
@[simp]
theorem turn_total : g.turn.total = g.total := by
  have h (g : Grid) : g.total ≤ g.turn.total := by
    simpa [total] using g.total_le_add (Nat.zero_le _) (Nat.zero_le _)
  refine le_antisymm ?_ (h g)
  simpa using h g.turn

/-- Whether a point lies on a shortest way through the grid. -/
structure OnShortest (i j : Nat) : Prop where
  right : i ≤ g.width
  down : j ≤ g.height
  through : g.cost i j + g.turn.cost (g.width - i) (g.height - j) = g.total

variable {g}

theorem onShortest_of_le {i j : Nat} (hi : i ≤ g.width) (hj : j ≤ g.height)
    (h : g.cost i j + g.turn.cost (g.width - i) (g.height - j) ≤ g.total) : g.OnShortest i j :=
  ⟨hi, hj, le_antisymm h (g.total_le_add hi hj)⟩

/-- A shortest way that costs more than `d` up to `(i, j)` has a point of cost `d` before it. -/
theorem OnShortest.exists_before {i j d : Nat} (h : g.OnShortest i j) (hd : d ≤ g.cost i j) :
    ∃ i' j', g.OnShortest i' j' ∧ g.cost i' j' = d := by
  induction hn : i + j using Nat.strong_induction_on generalizing i j with
  | _ n ih =>
    obtain ⟨hi, hj, ht⟩ := h
    rcases Nat.lt_or_eq_of_le hd with hlt | rfl
    swap
    · exact ⟨i, j, ⟨hi, hj, ht⟩, rfl⟩
    -- one step back, to a point whose cost is still at least `d`
    have back_left : ∀ i', i = i' + 1 → g.cost i' j + 1 = g.cost i j →
        ∃ i' j', g.OnShortest i' j' ∧ g.cost i' j' = d := by
      rintro i' rfl hc
      have := g.turn.cost_right (g.width - (i' + 1)) (g.height - j)
      rw [show g.width - (i' + 1) + 1 = g.width - i' by omega] at this
      exact ih (i' + j) (by omega) (onShortest_of_le (by omega) hj (by omega)) (by omega) rfl
    have back_up : ∀ j', j = j' + 1 → g.cost i j' + 1 = g.cost i j →
        ∃ i' j', g.OnShortest i' j' ∧ g.cost i' j' = d := by
      rintro j' rfl hc
      have := g.turn.cost_down (g.width - i) (g.height - (j' + 1))
      rw [show g.height - (j' + 1) + 1 = g.height - j' by omega] at this
      exact ih (i + j') (by omega) (onShortest_of_le hi (by omega) (by omega)) (by omega) rfl
    match i, j with
    | 0, 0 => simp at hlt
    | 0, j + 1 => exact back_up j rfl (by simp)
    | i + 1, 0 => exact back_left i rfl (by simp)
    | i + 1, j + 1 =>
      by_cases ha : g.agree i j = true
      · rw [g.cost_of_agree ha] at hd ht
        have hturn := g.turn.cost_of_agree ((g.turn_agree_before (i := i) (j := j) hi hj).trans ha)
        rw [show g.width - (i + 1) + 1 = g.width - i by omega,
          show g.height - (j + 1) + 1 = g.height - j by omega] at hturn
        exact ih (i + j) (by omega) (onShortest_of_le (by omega) (by omega) (by omega)) hd rfl
      · have hc := g.cost_of_not_agree ha
        rcases Nat.le_total (g.cost i (j + 1)) (g.cost (i + 1) j) with hm | hm
        · exact back_left i rfl (by omega)
        · exact back_up j rfl (by omega)

/-- **A shortest way has a point of every cost up to its total.** -/
theorem exists_onShortest {d : Nat} (h : d ≤ g.total) :
    ∃ i j, g.OnShortest i j ∧ g.cost i j = d := by
  refine OnShortest.exists_before (i := g.width) (j := g.height) ⟨le_rfl, le_rfl, ?_⟩ h
  simp [total]

/-- A way without cost stays on the main diagonal and crosses the first square. -/
theorem agree_of_cost_eq_zero {i j : Nat} (h : g.cost i j = 0) (hi : 0 < i) :
    g.agree 0 0 = true := by
  fun_induction g.cost i j with
  | case1 j => omega
  | case2 i => omega
  | case3 i j ha ih =>
    have hd := g.le_cost_add i j
    rcases Nat.eq_zero_or_pos i with rfl | hi
    · obtain rfl : j = 0 := by omega
      exact ha
    · exact ih h hi
  | case4 i j _ _ _ => omega

/-- If the first squares disagree and so do the last, the way costs at least two. -/
theorem two_le_total (hw : 0 < g.width) (hh : 0 < g.height) (hf : ¬ g.agree 0 0 = true)
    (hl : ¬ g.agree (g.width - 1) (g.height - 1) = true) : 2 ≤ g.total := by
  have hc := g.cost_of_not_agree hl
  rw [Nat.sub_add_cancel hw, Nat.sub_add_cancel hh] at hc
  -- the last step is straight and costs one; without another, the rest would be free
  have h₁ : g.cost (g.width - 1) g.height ≠ 0 := fun h₀ => by
    have := g.le_cost_add (g.width - 1) g.height
    exact hf (agree_of_cost_eq_zero h₀ (by omega))
  have h₂ : g.cost g.width (g.height - 1) ≠ 0 := fun h₀ => hf (agree_of_cost_eq_zero h₀ hw)
  rw [total, hc]
  omega

end Grid

end Retouch
