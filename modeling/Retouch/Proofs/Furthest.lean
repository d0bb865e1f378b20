/-
  Furthest points of a search through a grid.

  On diagonal `k` lie the points `(x, y)` with `x - y = k`.  A search within a cost comes, on each
  diagonal, to a furthest column (`Furthest`).

  * `start_right`, `start_down` and `Start.furthest`: the furthest column within cost `d + 1` is
    found from those within cost `d` on the two neighbouring diagonals, by one step and a run of
    squares that agree;
  * `Meet.total_le` and `exists_meet`: a search forward within cost `d` and one backward within
    cost `e` pass each other on some diagonal of the grid if and only if the whole way costs no
    more than `d + e`;
  * `Meet.inside`: where they first pass each other, they are still in the grid;
  * `Meet.onShortest_start` and `Meet.onShortest_end`: the start of the last run forward and the end
    of the last run backward are points on a shortest way.
-/
import Retouch.Proofs.Grid

namespace Retouch

namespace Grid

variable (g : Grid)

/-- Column `x` is the furthest on diagonal `k` that cost `d` reaches. -/
def Furthest (d : Nat) (k : Int) (x : Nat) : Prop :=
  ∃ y : Nat, (x : Int) - y = k ∧ g.cost x y ≤ d ∧ d < g.cost (x + 1) (y + 1)

/-- The point `(x, y)` is within cost `d`, and from there on both neighbouring diagonals cost at
    least `d`. -/
structure Start (d : Nat) (x y : Nat) : Prop where
  cost_le : g.cost x y ≤ d
  right : ∀ t, d ≤ g.cost (x + t + 1) (y + t)
  down : ∀ t, d ≤ g.cost (x + t) (y + t + 1)

variable {g} {d e : Nat} {k : Int} {x y x' : Nat}

/-- A point of the diagonal that is not behind the furthest column is within the cost. -/
theorem Furthest.cost_le_of_le (h : g.Furthest d k x) {i j : Nat} (hk : (i : Int) - j = k)
    (hi : i ≤ x) : g.cost i j ≤ d := by
  obtain ⟨y, hy, hc, -⟩ := h
  have := g.cost_le_diagonal i j (x - i)
  rw [show i + (x - i) = x by omega, show j + (x - i) = y by omega] at this
  exact this.trans hc

/-- A point of the diagonal that is within the cost is not behind the furthest column. -/
theorem Furthest.le_of_cost_le (h : g.Furthest d k x) {i j : Nat} (hk : (i : Int) - j = k)
    (hc : g.cost i j ≤ d) : i ≤ x := by
  obtain ⟨y, hy, -, hlt⟩ := h
  by_contra hx
  have := g.cost_le_diagonal (x + 1) (y + 1) (i - (x + 1))
  rw [show x + 1 + (i - (x + 1)) = i by omega, show y + 1 + (i - (x + 1)) = j by omega] at this
  omega

/-- A start, and then as far as the squares agree. -/
theorem Start.furthest (h : g.Start d x y) {r : Nat}
    (hr : ∀ s < r, g.agree (x + s) (y + s) = true) (hn : ¬ g.agree (x + r) (y + r) = true) :
    g.Furthest d ((x : Int) - y) (x + r) := by
  refine ⟨y + r, by omega, ?_, ?_⟩
  · rw [g.cost_run hr]
    exact h.cost_le
  · have h₁ := h.right r
    have h₂ := h.down r
    rw [g.cost_of_not_agree hn]
    omega

/-- The corner is where a search starts. -/
theorem start_zero : g.Start 0 0 0 := ⟨by simp, fun _ => Nat.zero_le _, fun _ => Nat.zero_le _⟩

/-- One more step right from a furthest point on the diagonal to the left.  To the right, a furthest
    point must not be ahead; there is none if the diagonal is out of reach. -/
theorem start_right (h : g.Furthest d k x)
    (hr : (∃ x', g.Furthest d (k + 2) x' ∧ x' ≤ x + 1) ∨ (d : Int) ≤ k) :
    ∃ y : Nat, (x : Int) - y = k ∧ g.Start (d + 1) (x + 1) y := by
  obtain ⟨y, hy, hc, hlt⟩ := id h
  refine ⟨y, hy, ?_, fun t => ?_, fun t => ?_⟩
  · have := g.cost_right x y
    omega
  · rcases hr with ⟨x', hx', hle⟩ | hk
    · by_contra hlt'
      have := hx'.le_of_cost_le (i := x + 1 + t + 1) (j := y + t) (by omega) (by omega)
      omega
    · have := g.le_cost_add (x + 1 + t + 1) (y + t)
      omega
  · have := g.cost_le_diagonal (x + 1) (y + 1) t
    rw [show y + 1 + t = y + t + 1 by omega] at this
    omega

/-- One more step down, from the diagonal to the right. -/
theorem start_down (h : g.Furthest d k x)
    (hl : (∃ x', g.Furthest d (k - 2) x' ∧ x' < x) ∨ k ≤ -(d : Int)) :
    ∃ y : Nat, (x : Int) - y = k - 1 ∧ g.Start (d + 1) x y := by
  obtain ⟨y, hy, hc, hlt⟩ := id h
  refine ⟨y + 1, by omega, ?_, fun t => ?_, fun t => ?_⟩
  · have := g.cost_down x y
    omega
  · have := g.cost_le_diagonal (x + 1) (y + 1) t
    rw [show x + 1 + t = x + t + 1 by omega] at this
    omega
  · rcases hl with ⟨x', hx', hle⟩ | hk
    · by_contra hlt'
      have := hx'.le_of_cost_le (i := x + t) (j := y + 1 + t + 1) (by omega) (by omega)
      omega
    · have := g.le_cost_add (x + t) (y + 1 + t + 1)
      omega

/-! ## Where two searches meet -/

variable (g)

/-- The diagonal of the opposite corner. -/
def shift : Int := (g.width : Int) - g.height

/-- A search forward within cost `d` and one backward within cost `e` pass each other on the
    diagonal `k` of the grid. -/
structure Meet (d e : Nat) (k : Int) (x x' : Nat) : Prop where
  forward : g.Furthest d k x
  backward : g.turn.Furthest e (g.shift - k) x'
  left : -(g.height : Int) ≤ k
  right : k ≤ g.width
  pass : g.width ≤ x + x'

variable {g}

/-- Seen from the opposite corner the two searches change places. -/
theorem Meet.turn (h : g.Meet d e k x x') : g.turn.Meet e d (g.shift - k) x' x := by
  obtain ⟨hf, hb, hl, hr, hp⟩ := h
  have hk : g.turn.shift - (g.shift - k) = k := by
    simp only [shift, turn_width, turn_height]
    omega
  refine ⟨hb, ?_, ?_, ?_, by rw [turn_width]; omega⟩
  · rw [turn_turn, hk]
    exact hf
  · simp only [shift, turn_height]; omega
  · simp only [shift, turn_width]; omega

/-- The last point of the diagonal in the grid is within reach of the search backward. -/
theorem Meet.turn_cost_le (h : g.Meet d e k x x') {i j : Nat} (hk : (i : Int) - j = k)
    (hi : i ≤ g.width) (hj : j ≤ g.height) (hx : g.width ≤ i + x' ∨ i = g.width ∨ j = g.height) :
    g.turn.cost (g.width - i) (g.height - j) ≤ e := by
  refine h.backward.cost_le_of_le ?_ ?_
  · simp only [shift]; omega
  · obtain ⟨y', hy', -⟩ := h.backward
    simp only [shift] at hy'
    omega

/-- **Two searches that pass each other bound the whole way.** -/
theorem Meet.total_le (h : g.Meet d e k x x') : g.total ≤ d + e := by
  obtain ⟨y, hy, -⟩ := id h.forward
  have hl := h.left
  have hr := h.right
  have hp := h.pass
  -- the furthest point forward, or the last one of its diagonal in the grid
  obtain ⟨i, j, hk, hi, hj, hix, hx⟩ : ∃ i j : Nat, (i : Int) - j = k ∧ i ≤ g.width ∧ j ≤ g.height ∧
      i ≤ x ∧ (g.width ≤ i + x' ∨ i = g.width ∨ j = g.height) := by
    by_cases hin : x ≤ g.width ∧ y ≤ g.height
    · exact ⟨x, y, hy, hin.1, hin.2, le_rfl, Or.inl hp⟩
    · rcases Int.le_total (g.width : Int) (g.height + k) with hw | hw
      · exact ⟨g.width, (g.width - k).toNat, by omega, le_rfl, by omega, by omega, by omega⟩
      · exact ⟨(g.height + k).toNat, g.height, by omega, by omega, le_rfl, by omega, by omega⟩
  calc g.total ≤ g.cost i j + g.turn.cost (g.width - i) (g.height - j) := g.total_le_add hi hj
    _ ≤ d + e := Nat.add_le_add (h.forward.cost_le_of_le hk hix) (h.turn_cost_le hk hi hj hx)

/-- **Searches that pass each other, and not too late, do so in the grid.**  Past the right or the
    lower edge a search could have come to the edge for less, and met the other one there. -/
theorem Meet.inside (h : g.Meet d e k x x') (ht : d + e ≤ g.total) {y : Nat}
    (hy : (x : Int) - y = k) : x ≤ g.width ∧ y ≤ g.height := by
  have hl := h.left
  have hr := h.right
  by_contra hout
  rcases Int.le_total (g.width : Int) (g.height + k) with hw | hw
  · -- the diagonal leaves the grid to the right, at row `j`
    obtain ⟨j, hj⟩ : ∃ j : Nat, (g.width : Int) - j = k := ⟨(g.width - k).toNat, by omega⟩
    have hc : g.cost (g.width + 1) (j + 1) ≤ d :=
      h.forward.cost_le_of_le (by omega) (by omega)
    have he := h.turn_cost_le hj le_rfl (by omega) (Or.inr (Or.inl rfl))
    rw [g.cost_right_outside le_rfl] at hc
    rw [Nat.sub_self, cost_zero_left] at he
    rcases Nat.lt_or_ge j g.height with hlt | hge
    · have := g.total_le_add (i := g.width) (j := j + 1) le_rfl hlt
      rw [Nat.sub_self, cost_zero_left] at this
      omega
    · have := g.cost_down_outside hge g.width
      have : g.cost g.width j = g.total := by rw [total, show j = g.height by omega]
      omega
  · -- it leaves below, at column `i`
    obtain ⟨i, hi⟩ : ∃ i : Nat, (i : Int) - g.height = k := ⟨(g.height + k).toNat, by omega⟩
    have hc : g.cost (i + 1) (g.height + 1) ≤ d :=
      h.forward.cost_le_of_le (by omega) (by omega)
    have he := h.turn_cost_le hi (by omega) le_rfl (Or.inr (Or.inr rfl))
    rw [g.cost_down_outside le_rfl] at hc
    rw [Nat.sub_self, cost_zero_right] at he
    rcases Nat.lt_or_ge i g.width with hlt | hge
    · have := g.total_le_add (i := i + 1) (j := g.height) hlt le_rfl
      rw [Nat.sub_self, cost_zero_right] at this
      omega
    · have := g.cost_right_outside hge g.height
      have : g.cost i g.height = g.total := by rw [total, show i = g.width by omega]
      omega

/-- **If the whole way costs `d + e`, the two searches pass each other** on some diagonal that both
    can reach. -/
theorem exists_meet (ht : g.total = d + e) : ∃ k : Int, k.natAbs ≤ d ∧ (k + d) % 2 = 0 ∧
    (g.shift - k).natAbs ≤ e ∧ ∀ x x', g.Furthest d k x → g.turn.Furthest e (g.shift - k) x' →
      g.Meet d e k x x' := by
  obtain ⟨i, j, ⟨hi, hj, hij⟩, hc⟩ := g.exists_onShortest (d := d) (by omega)
  have hd := g.le_cost_add i j
  have he := g.turn.le_cost_add (g.width - i) (g.height - j)
  have hpar := g.cost_parity i j
  refine ⟨(i : Int) - j, by omega, by omega, by simp only [shift]; omega, fun x x' hx hx' => ?_⟩
  have h₁ := hx.le_of_cost_le (i := i) (j := j) rfl (by omega)
  have h₂ := hx'.le_of_cost_le (i := g.width - i) (j := g.height - j) (by simp only [shift]; omega)
    (by omega)
  exact ⟨hx, hx', by omega, by omega, by omega⟩

/-- The start of the last run forward lies on a shortest way. -/
theorem Meet.onShortest_start {r : Nat} (h : g.Meet d e k (x + r) x') (ht : g.total = d + e)
    (hk : (x : Int) - y = k) (hc : g.cost x y ≤ d)
    (hr : ∀ s < r, g.agree (x + s) (y + s) = true) :
    g.OnShortest x y ∧ g.cost x y = d := by
  obtain ⟨hw, hh⟩ := h.inside (by omega) (y := y + r) (by omega)
  have hp := h.pass
  have hback : g.turn.cost (g.width - x) (g.height - y) ≤ e := by
    -- the run costs nothing backward either
    have hrun : ∀ s < r, g.turn.agree (g.width - (x + r) + s) (g.height - (y + r) + s) = true := by
      intro s hs
      rw [g.turn_agree (by omega) (by omega),
        show g.width - 1 - (g.width - (x + r) + s) = x + (r - 1 - s) by omega,
        show g.height - 1 - (g.height - (y + r) + s) = y + (r - 1 - s) by omega]
      exact hr _ (by omega)
    have := g.turn.cost_run hrun
    rw [show g.width - (x + r) + r = g.width - x by omega,
      show g.height - (y + r) + r = g.height - y by omega] at this
    rw [this]
    exact h.turn_cost_le (by omega) hw hh (Or.inl hp)
  have hle := g.total_le_add (i := x) (j := y) (by omega) (by omega)
  exact ⟨onShortest_of_le (by omega) (by omega) (by omega), by omega⟩

/-- The furthest point of the search backward lies on a shortest way. -/
theorem Meet.onShortest_end (h : g.Meet d e k x x') (ht : g.total = d + e) {y' : Nat}
    (hk : (x' : Int) - y' = g.shift - k) :
    g.OnShortest (g.width - x') (g.height - y') ∧ g.cost (g.width - x') (g.height - y') = d := by
  obtain ⟨hw, hh⟩ := h.turn.inside (by rw [turn_total]; omega) hk
  rw [turn_width] at hw
  rw [turn_height] at hh
  simp only [shift] at hk
  have hp := h.pass
  have hc : g.cost (g.width - x') (g.height - y') ≤ d :=
    h.forward.cost_le_of_le (by omega) (by omega)
  have he := h.turn_cost_le (i := g.width - x') (j := g.height - y') (by omega) (by omega)
    (by omega) (Or.inl (by omega))
  have hle := g.total_le_add (i := g.width - x') (j := g.height - y') (by omega) (by omega)
  exact ⟨onShortest_of_le (by omega) (by omega) (by omega), by omega⟩

end Grid

end Retouch
