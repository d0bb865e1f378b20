/-
  The script between two texts is a shortest one.

  * `commonLength` is the length of a longest common subsequence of two lists of lines
    (`isGreatest_commonLength`);
  * `distance` is the cost of the way through their grid; it counts the lines that are not in such a
    subsequence (`distance_add_commonLength`);
  * `distance_le_cost`: no script from one list to the other has fewer changes;
  * `cost_conquer`: the script of a comparison has no more.  The search cuts the lists at a point on
    a shortest way, so that the distances of the parts add up;
  * `deletions_add_insertions_between`: the same for texts.
-/
import Mathlib.Order.Bounds.Defs
import Retouch.Proofs.Replay
import Retouch.Proofs.Search

namespace Retouch

/-! ## Longest common subsequences -/

/-- The length of a longest common subsequence of two lists of lines. -/
def commonLength : (a b : List Text) → Nat
  | x :: a, y :: b =>
    if x = y then commonLength a b + 1
    else max (commonLength a (y :: b)) (commonLength (x :: a) b)
  | _, _ => 0
termination_by a b => a.length + b.length

/-- There is a common subsequence of length `commonLength`. -/
theorem exists_common (a b : List Text) :
    ∃ c : List Text, c.Sublist a ∧ c.Sublist b ∧ c.length = commonLength a b := by
  fun_induction commonLength a b with
  | case1 a x b ih =>
    obtain ⟨c, ha, hb, hc⟩ := ih
    exact ⟨x :: c, ha.cons_cons x, hb.cons_cons x, by rw [List.length_cons, hc]⟩
  | case2 x a y b _ ih₁ ih₂ =>
    obtain ⟨c, ha, hb, hc⟩ := ih₁
    obtain ⟨c', ha', hb', hc'⟩ := ih₂
    rcases Nat.le_total (commonLength a (y :: b)) (commonLength (x :: a) b) with h | h
    · exact ⟨c', ha', hb'.cons y, by rw [Nat.max_eq_right h, hc']⟩
    · exact ⟨c, ha.cons x, hb, by rw [Nat.max_eq_left h, hc]⟩
  | case3 a b => exact ⟨[], List.nil_sublist a, List.nil_sublist b, rfl⟩

/-- No common subsequence is longer than `commonLength`. -/
theorem length_le_commonLength {a b c : List Text} (ha : c.Sublist a) (hb : c.Sublist b) :
    c.length ≤ commonLength a b := by
  fun_induction commonLength a b generalizing c with
  | case1 a x b ih =>
    cases c with
    | nil => exact Nat.zero_le _
    | cons z c =>
      have ha' : c.Sublist a := by
        have := ha.tail
        simpa using this
      have hb' : c.Sublist b := by
        have := hb.tail
        simpa using this
      exact Nat.succ_le_succ (ih ha' hb')
  | case2 x a y b hne ih₁ ih₂ =>
    -- the first line of `c` is not the first of both lists
    rcases List.sublist_cons_iff.1 ha with ha' | ⟨c', rfl, -⟩
    · exact (ih₁ ha' hb).trans (Nat.le_max_left _ _)
    · rcases List.sublist_cons_iff.1 hb with hb' | ⟨c'', he, -⟩
      · exact (ih₂ ha hb').trans (Nat.le_max_right _ _)
      · exact absurd (List.cons.inj he).1 hne
  | case3 a b h =>
    cases a with
    | nil => rw [List.sublist_nil.1 ha]; exact Nat.le_refl _
    | cons x a =>
      cases b with
      | nil => rw [List.sublist_nil.1 hb]; exact Nat.le_refl _
      | cons y b => exact absurd rfl (h x a y b rfl)

theorem isGreatest_commonLength (a b : List Text) :
    IsGreatest {n | ∃ c : List Text, c.Sublist a ∧ c.Sublist b ∧ c.length = n}
      (commonLength a b) := by
  refine ⟨exists_common a b, ?_⟩
  rintro n ⟨c, ha, hb, rfl⟩
  exact length_le_commonLength ha hb

/-! ## The distance of two lists of lines -/

/-- The cost of the way through the grid of two lists. -/
def distance (a b : List Text) : Nat := (Grid.of a b).total

theorem distance_nil_left (b : List Text) : distance [] b = b.length := by
  simp [distance, Grid.total]

theorem distance_nil_right (a : List Text) : distance a [] = a.length := by
  simp [distance, Grid.total]

/-- The distance of two front parts is the cost of the point where they end. -/
theorem distance_take {a b : List Text} {x y : Nat} (hx : x ≤ a.length) (hy : y ≤ b.length) :
    distance (a.take x) (b.take y) = (Grid.of a b).cost x y := by
  have hl : (a.take x).length = x := List.length_take_of_le hx
  have hr : (b.take y).length = y := List.length_take_of_le hy
  rw [distance, Grid.total, Grid.of_width, Grid.of_height, hl, hr]
  refine Grid.cost_congr (n := x) (m := y) (fun i j hi hj => ?_) le_rfl le_rfl
  rw [Bool.eq_iff_iff, Grid.of_agree, Grid.of_agree, hl, hr, List.getElem?_take_of_lt hi,
    List.getElem?_take_of_lt hj]
  constructor
  · rintro ⟨-, -, he⟩
    exact ⟨by omega, by omega, he⟩
  · rintro ⟨-, -, he⟩
    exact ⟨hi, hj, he⟩

/-- The distance of two back parts is the cost of the way back to where they start. -/
theorem distance_drop {a b : List Text} {x y : Nat} (hx : x ≤ a.length) (hy : y ≤ b.length) :
    distance (a.drop x) (b.drop y) = (Grid.of a b).turn.cost (a.length - x) (b.length - y) := by
  have hl : (a.drop x).length = a.length - x := List.length_drop
  have hr : (b.drop y).length = b.length - y := List.length_drop
  rw [distance, ← Grid.turn_total, Grid.total, Grid.turn_width, Grid.turn_height, Grid.of_width,
    Grid.of_height, hl, hr]
  refine Grid.cost_congr (n := a.length - x) (m := b.length - y) (fun i j hi hj => ?_) le_rfl le_rfl
  rw [Grid.turn_agree _ (by simpa using hi) (by simpa using hj),
    Grid.turn_agree _ (by simp; omega) (by simp; omega)]
  simp only [Grid.of_width, Grid.of_height, hl, hr]
  rw [Bool.eq_iff_iff, Grid.of_agree, Grid.of_agree, hl, hr, List.getElem?_drop, List.getElem?_drop,
    show x + (a.length - x - 1 - i) = a.length - 1 - i by omega,
    show y + (b.length - y - 1 - j) = b.length - 1 - j by omega]
  constructor
  · rintro ⟨-, -, he⟩
    exact ⟨by omega, by omega, he⟩
  · rintro ⟨-, -, he⟩
    exact ⟨by omega, by omega, he⟩

/-- The first lines are kept if they are equal; otherwise one of them is dropped or added. -/
theorem distance_cons (x y : Text) (a b : List Text) :
    distance (x :: a) (y :: b) =
      if x = y then distance a b else min (distance a (y :: b)) (distance (x :: a) b) + 1 := by
  have h₁₁ : distance a b = _ := distance_drop (a := x :: a) (b := y :: b) (x := 1) (y := 1)
    (by simp) (by simp)
  have h₁₀ : distance a (y :: b) = _ := distance_drop (a := x :: a) (b := y :: b) (x := 1) (y := 0)
    (by simp) (by simp)
  have h₀₁ : distance (x :: a) b = _ := distance_drop (a := x :: a) (b := y :: b) (x := 0) (y := 1)
    (by simp) (by simp)
  have ha : (Grid.of (x :: a) (y :: b)).turn.agree a.length b.length = true ↔ x = y := by
    rw [Grid.turn_agree _ (by simp) (by simp), Grid.of_agree]
    simp
  rw [h₁₁, h₁₀, h₀₁, distance, ← Grid.turn_total, Grid.total]
  simp only [Grid.turn_width, Grid.turn_height, Grid.of_width, Grid.of_height, List.length_cons,
    Nat.add_sub_cancel, Nat.sub_zero]
  split
  · next h => exact Grid.cost_of_agree _ (ha.2 h)
  · next h => exact Grid.cost_of_not_agree _ fun hc => h (ha.1 hc)

/-- **The distance counts the lines outside of a longest common subsequence.** -/
theorem distance_add_commonLength (a b : List Text) :
    distance a b + 2 * commonLength a b = a.length + b.length := by
  fun_induction commonLength a b with
  | case1 a x b ih =>
    rw [distance_cons, if_pos rfl, List.length_cons, List.length_cons]
    omega
  | case2 x a y b hne ih₁ ih₂ =>
    rw [distance_cons, if_neg hne]
    simp only [List.length_cons] at ih₁ ih₂ ⊢
    omega
  | case3 a b h =>
    cases a with
    | nil => rw [distance_nil_left]; simp
    | cons x a =>
      cases b with
      | nil => rw [distance_nil_right]; simp
      | cons y b => exact absurd rfl (h x a y b rfl)

/-! ## The number of changes of a script -/

namespace Script

/-- The number of changes of a script. -/
def cost (s : Script) : Nat := s.deletions + s.insertions

/-- The lines that a script keeps. -/
def keptLines (s : Script) : List Text := (s.filter (!·.isChange)).map Edit.line

@[simp]
theorem keptLines_keep (l : Text) (s : Script) : keptLines (.keep l :: s) = l :: keptLines s := rfl

@[simp]
theorem keptLines_drop (l : Text) (s : Script) : keptLines (.drop l :: s) = keptLines s := rfl

@[simp]
theorem keptLines_add (l : Text) (s : Script) : keptLines (.add l :: s) = keptLines s := rfl

@[simp]
theorem cost_keep (l : Text) (s : Script) : cost (.keep l :: s) = cost s := by
  simp [cost, deletions, insertions, Edit.isDrop, Edit.isAdd]

@[simp]
theorem cost_drop (l : Text) (s : Script) : cost (.drop l :: s) = cost s + 1 := by
  simp only [cost, deletions, insertions, List.countP_cons, Edit.isDrop, Edit.isAdd]
  simp only [if_true, Bool.false_eq_true, if_false]
  omega

@[simp]
theorem cost_add (l : Text) (s : Script) : cost (.add l :: s) = cost s + 1 := by
  simp only [cost, deletions, insertions, List.countP_cons, Edit.isDrop, Edit.isAdd]
  simp only [if_true, Bool.false_eq_true, if_false]
  omega

@[simp]
theorem cost_append (s t : Script) : cost (s ++ t) = s.cost + t.cost := by
  simp only [cost, deletions, insertions, List.countP_append]
  omega

@[simp]
theorem cost_map_keep (ls : List Text) : cost (ls.map .keep) = 0 := by
  simp [cost, deletions, insertions, List.countP_map, Function.comp_def, Edit.isDrop, Edit.isAdd]

theorem cost_replacing (a b : List Text) : (replacing a b).cost = a.length + b.length := by
  simp [cost, replacing, deletions, insertions, List.countP_map, Function.comp_def, Edit.isDrop,
    Edit.isAdd]

theorem cost_within (c : Differing) (s : Script) : (c.within s).cost = s.cost := by
  simp [Differing.within]

/-- What is kept is a common subsequence of the two sides. -/
theorem keptLines_sublist (s : Script) :
    s.keptLines.Sublist s.oldLines ∧ s.keptLines.Sublist s.newLines := by
  induction s with
  | nil => exact ⟨List.nil_sublist _, List.nil_sublist _⟩
  | cons e s ih =>
    cases e with
    | keep l => exact ⟨ih.1.cons_cons l, ih.2.cons_cons l⟩
    | drop l => exact ⟨ih.1.cons l, ih.2⟩
    | add l => exact ⟨ih.1, ih.2.cons l⟩

/-- Each line of the two sides is kept or is a change. -/
theorem cost_add_keptLines (s : Script) :
    s.cost + 2 * s.keptLines.length = s.oldLines.length + s.newLines.length := by
  induction s with
  | nil => rfl
  | cons e s ih =>
    cases e with
    | keep l =>
      rw [cost_keep, keptLines_keep, oldLines_keep, newLines_keep]
      simp only [List.length_cons]
      omega
    | drop l =>
      rw [cost_drop, keptLines_drop, oldLines_drop, newLines_drop, List.length_cons]
      omega
    | add l =>
      rw [cost_add, keptLines_add, oldLines_add, newLines_add, List.length_cons]
      omega

/-- **No script has fewer changes than the distance of its sides.** -/
theorem distance_le_cost (s : Script) : distance s.oldLines s.newLines ≤ s.cost := by
  have hk := length_le_commonLength s.keptLines_sublist.1 s.keptLines_sublist.2
  have hd := distance_add_commonLength s.oldLines s.newLines
  have hc := s.cost_add_keptLines
  omega

theorem place_perm (e : Edit) (s : Script) : (place e s).Perm (e :: s) := by
  fun_induction place e s with
  | case1 l m s ih => exact (ih.cons _).trans (List.Perm.swap _ _ _)
  | case2 => exact List.Perm.refl _

theorem dropsFirst_perm (s : Script) : s.dropsFirst.Perm s := by
  induction s with
  | nil => exact List.Perm.refl _
  | cons e s ih => exact (place_perm e _).trans (ih.cons e)

/-- The order of the changes does not change their number. -/
theorem cost_dropsFirst (s : Script) : s.dropsFirst.cost = s.cost := by
  rw [cost, cost, deletions, deletions, insertions, insertions, (dropsFirst_perm s).countP_eq,
    (dropsFirst_perm s).countP_eq]

end Script

/-! ## Comparison -/

/-- The common front is as long as it can be. -/
theorem commonFront_max (a b : List Text) :
    ¬ (commonFront a b < a.length ∧ commonFront a b < b.length ∧
      a[commonFront a b]? = b[commonFront a b]?) := by
  fun_induction commonFront a b with
  | case1 a x b ih => simpa using ih
  | case2 x a y b hne => simpa using hne
  | case3 a b h =>
    rintro ⟨ha, hb, -⟩
    obtain ⟨x, a, rfl⟩ := List.exists_cons_of_length_pos ha
    obtain ⟨y, b, rfl⟩ := List.exists_cons_of_length_pos hb
    exact h x a y b rfl rfl

/-- The common back is as long as it can be. -/
theorem commonBack_max (a b : List Text) :
    ¬ (commonBack a b < a.length ∧ commonBack a b < b.length ∧
      a[a.length - 1 - commonBack a b]? = b[b.length - 1 - commonBack a b]?) := by
  rintro ⟨ha, hb, he⟩
  refine commonFront_max a.reverse b.reverse ?_
  rw [← commonBack, List.length_reverse, List.length_reverse, List.getElem?_reverse ha,
    List.getElem?_reverse hb]
  exact ⟨ha, hb, he⟩

namespace Differing

section
variable (a b : List Text)

/-- What differs is not further apart than the whole. -/
theorem distance_le : distance (of a b).left (of a b).right ≤ distance a b := by
  obtain ⟨hfa, hfb⟩ := commonFront_le a b
  set a' := a.drop (commonFront a b) with ha'
  set b' := b.drop (commonFront a b) with hb'
  obtain ⟨hba, hbb⟩ := commonBack_le a' b'
  calc distance (of a b).left (of a b).right
      = (Grid.of a' b').cost (a'.length - commonBack a' b') (b'.length - commonBack a' b') :=
        distance_take (Nat.sub_le _ _) (Nat.sub_le _ _)
    _ ≤ (Grid.of a' b').cost a'.length b'.length := by
        have := (Grid.of a' b').cost_le_diagonal (a'.length - commonBack a' b')
          (b'.length - commonBack a' b') (commonBack a' b')
        rwa [Nat.sub_add_cancel hba, Nat.sub_add_cancel hbb] at this
    _ = (Grid.of a b).turn.cost (a.length - commonFront a b) (b.length - commonFront a b) :=
        distance_drop hfa hfb
    _ ≤ (Grid.of a b).turn.cost a.length b.length := by
        have := (Grid.of a b).turn.cost_le_diagonal (a.length - commonFront a b)
          (b.length - commonFront a b) (commonFront a b)
        rwa [Nat.sub_add_cancel hfa, Nat.sub_add_cancel hfb] at this
    _ = distance a b := (Grid.of a b).turn_total

/-- The first lines of what differs are not the same. -/
theorem first_disagree : ¬ (Grid.of (of a b).left (of a b).right).agree 0 0 = true := by
  rw [Grid.of_agree]
  rintro ⟨hl, hr, he⟩
  simp only [of, List.length_take, List.length_drop] at hl hr
  simp only [of] at he
  rw [List.getElem?_take_of_lt (by simp only [List.length_drop]; omega),
    List.getElem?_take_of_lt (by simp only [List.length_drop]; omega), List.getElem?_drop,
    List.getElem?_drop] at he
  exact commonFront_max a b ⟨by omega, by omega, he⟩

/-- The last lines of what differs are not the same. -/
theorem last_disagree : ¬ (Grid.of (of a b).left (of a b).right).agree
    ((of a b).left.length - 1) ((of a b).right.length - 1) = true := by
  rw [Grid.of_agree]
  rintro ⟨hl, hr, he⟩
  simp only [of] at hl hr he
  set a' := a.drop (commonFront a b)
  set b' := b.drop (commonFront a b)
  set n := commonBack a' b'
  simp only [List.length_take] at hl hr he
  rw [List.getElem?_take_of_lt (by omega), List.getElem?_take_of_lt (by omega),
    show min (a'.length - n) a'.length - 1 = a'.length - 1 - n by omega,
    show min (b'.length - n) b'.length - 1 = b'.length - 1 - n by omega] at he
  exact commonBack_max a' b' ⟨by omega, by omega, he⟩

/-- If something differs on both sides, at least two lines do. -/
theorem two_le_distance (hl : (of a b).left ≠ []) (hr : (of a b).right ≠ []) :
    2 ≤ distance (of a b).left (of a b).right :=
  Grid.two_le_total (List.length_pos_of_ne_nil hl) (List.length_pos_of_ne_nil hr)
    (first_disagree a b) (last_disagree a b)

end

end Differing

namespace Script

theorem bound_mono {n m n' m' : Nat} (h : n + m ≤ n' + m') :
    Search.bound n m ≤ Search.bound n' m' := by
  simp only [Search.bound]
  omega

/-- A point on a shortest way parts the distance. -/
theorem distance_split {a b : List Text} {x y : Nat} (h : (Grid.of a b).OnShortest x y) :
    distance (a.take x) (b.take y) + distance (a.drop x) (b.drop y) = distance a b := by
  obtain ⟨hx, hy, ht⟩ := h
  rw [distance_take hx hy, distance_drop hx hy]
  exact ht

/-- The search cuts what differs at a point on a shortest way; it starts with `w` and leaves `w'`. -/
structure IsSplit (c : Differing) (w : Frontiers) (x y : Nat) (w' : Frontiers) : Prop where
  left : c.left ≠ []
  right : c.right ≠ []
  found : Search.middle? c.left.toArray c.right.toArray w = (some (x, y), w')
  cuts : c.Cuts x y
  onShortest : (Grid.of c.left c.right).OnShortest x y

theorem exists_isSplit {a b : List Text} {c : Differing} (hc : Differing.of a b = c) {w : Frontiers}
    {r : Nat} (hw : w.Wide r) (hr : Search.bound c.left.length c.right.length ≤ r)
    (hl : c.left ≠ []) (hright : c.right ≠ []) : ∃ x y w', IsSplit c w x y w' ∧ w'.Wide r := by
  have htwo : 2 ≤ (Grid.of c.left c.right).total := by
    subst hc
    exact Differing.two_le_distance a b hl hright
  obtain ⟨x, y, w', hm, hw', hcuts, hon⟩ := Search.middle?_inside hw hr htwo
  exact ⟨x, y, w', ⟨hl, hright, hm, hcuts, hon⟩, hw'⟩

/-- **Comparison in steps.**  Either one side of what differs is empty, or the search splits it and
    the parts are compared in turn, the second one with the frontiers that the first one leaves. -/
theorem conquer_induction {r : Nat} {P : List Text → List Text → Frontiers → Prop}
    (empty : ∀ {a b w c}, Differing.of a b = c → c.left = [] ∨ c.right = [] → P a b w)
    (split : ∀ {a b w c x y w'}, Differing.of a b = c → w.Wide r →
      Search.bound c.left.length c.right.length ≤ r → IsSplit c w x y w' →
      P (c.left.take x) (c.right.take y) w' →
      P (c.left.drop x) (c.right.drop y) (conquer (c.left.take x) (c.right.take y) w').2 → P a b w)
    {a b : List Text} {w : Frontiers} (hw : w.Wide r) (hr : Search.bound a.length b.length ≤ r) :
    P a b w := by
  -- the frontiers stay wide, so that the second part can use them after the first
  suffices h : P a b w ∧ (conquer a b w).2.Wide r from h.1
  induction hn : a.length + b.length using Nat.strong_induction_on generalizing a b w with
  | _ n ih =>
    generalize hc : Differing.of a b = c
    have hleft : c.left.length ≤ a.length := hc ▸ Differing.length_left_le a b
    have hright : c.right.length ≤ b.length := hc ▸ Differing.length_right_le a b
    by_cases he : c.left = [] ∨ c.right = []
    · refine ⟨empty hc he, ?_⟩
      rw [conquer_of_empty hc he]
      exact hw
    · rw [not_or] at he
      have hrc : Search.bound c.left.length c.right.length ≤ r := (bound_mono (by omega)).trans hr
      obtain ⟨x, y, w', hs, hw'⟩ := exists_isSplit hc hw hrc he.1 he.2
      obtain ⟨hx, hy, h0, h1⟩ := id hs.cuts
      obtain ⟨hp₁, hw₁⟩ := ih _ (by simp only [List.length_take]; omega) (a := c.left.take x)
        (b := c.right.take y) hw'
        ((bound_mono (by simp only [List.length_take]; omega)).trans hr) rfl
      obtain ⟨hp₂, hw₂⟩ := ih _ (by simp only [List.length_drop]; omega) (a := c.left.drop x)
        (b := c.right.drop y) hw₁
        ((bound_mono (by simp only [List.length_drop]; omega)).trans hr) rfl
      refine ⟨split hc hw hrc hs hp₁ hp₂, ?_⟩
      rw [conquer_of_cuts hc hs.left hs.right hs.found hs.cuts rfl rfl]
      exact hw₂

/-- **The script of a comparison has no more changes than the lists are apart.** -/
theorem cost_conquer {a b : List Text} {w : Frontiers} {r : Nat} (hw : w.Wide r)
    (hr : Search.bound a.length b.length ≤ r) : (conquer a b w).1.cost ≤ distance a b := by
  refine conquer_induction (P := fun a b w => (conquer a b w).1.cost ≤ distance a b) ?_ ?_ hw hr
  · intro a b w c hc he
    have hd : distance c.left c.right ≤ distance a b := hc ▸ Differing.distance_le a b
    rw [conquer_of_empty hc he, cost_within, cost_replacing]
    refine le_trans (le_of_eq ?_) hd
    rcases he with he | he
    · rw [he, distance_nil_left, List.length_nil, Nat.zero_add]
    · rw [he, distance_nil_right, List.length_nil, Nat.add_zero]
  · intro a b w c x y w' hc _ _ hs hc₁ hc₂
    have hd : distance c.left c.right ≤ distance a b := hc ▸ Differing.distance_le a b
    have hparts := distance_split hs.onShortest
    rw [conquer_of_cuts hc hs.left hs.right hs.found hs.cuts rfl rfl, cost_within, cost_append]
    omega

theorem cost_between (before after : Text) :
    (between before after).cost = distance before.lines after.lines := by
  refine le_antisymm ?_ ?_
  · rw [between, cost_dropsFirst]
    exact cost_conquer ⟨Frontier.wide_new _, Frontier.wide_new _⟩ le_rfl
  · have := (between before after).distance_le_cost
    rwa [oldLines_between, newLines_between] at this

/-- **The script between two texts is a shortest one.**  It changes the lines outside of a longest
    common subsequence of their lines, and no script that turns the lines of one into those of the
    other has fewer changes. -/
theorem deletions_add_insertions_between (before after : Text) :
    (between before after).deletions + (between before after).insertions =
        before.lines.length + after.lines.length -
          2 * commonLength before.lines after.lines ∧
      IsGreatest {n | ∃ c : List Text, c.Sublist before.lines ∧ c.Sublist after.lines ∧
        c.length = n} (commonLength before.lines after.lines) ∧
      ∀ s : Script, s.replayLines? before.lines = some after.lines →
        (between before after).deletions + (between before after).insertions ≤
          s.deletions + s.insertions := by
  have hc := cost_between before after
  have hd := distance_add_commonLength before.lines after.lines
  refine ⟨?_, isGreatest_commonLength _ _, fun s hs => ?_⟩
  · rw [← hd, Nat.add_sub_cancel]
    exact hc
  · obtain ⟨ho, hn⟩ := (replayLines?_eq_some_iff s _ _).1 hs
    have := s.distance_le_cost
    rw [← ho, ← hn, ← hc] at this
    exact this

end Script

end Retouch
