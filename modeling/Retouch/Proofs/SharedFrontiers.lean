/-
  Frontiers can be shared.

  A search starts with frontiers that may hold anything, left there by another search or not.  It
  resets one cell of each; every other cell that it reads has been written before by the same search.
  In round `d` a frontier is read on the diagonals of the round before (`sources`), and the test
  whether the two searches meet reads the other frontier on its latest diagonals.

  * `next_congr` and `sweep_congr`: what a round does depends on these cells alone;
  * `middle?_congr`: two searches on different frontiers find the same point;
  * `conquerAnew` compares two lists with new frontiers for every search, and `conquer_forgets` says
    that it gives the script of a comparison that shares one pair.
-/
import Retouch.Proofs.Shortest

namespace Retouch

/-! ## Frontiers that agree -/

namespace Frontier

/-- Two frontiers hold the same on the diagonals `ks`. -/
def AgreesOn (ks : List Int) (f f' : Frontier) : Prop := ∀ k ∈ ks, f.get k = f'.get k

variable {ks : List Int} {f f' : Frontier} {r : Nat}

theorem Wide.mono {n : Nat} (h : f.Wide r) (hn : n ≤ r) : f.Wide n := ⟨h.size, hn.trans h.le⟩

/-- What is written on both is the same on both. -/
theorem AgreesOn.set (h : AgreesOn ks f f') (hf : f.Wide r) (hf' : f'.Wide r)
    (hks : ∀ k ∈ ks, k.natAbs ≤ r) {k : Int} (hk : k.natAbs ≤ r) (x : Nat) :
    AgreesOn (k :: ks) (f.set k x) (f'.set k x) := by
  intro k' hk'
  by_cases he : k' = k
  · rw [he, hf.get_set_self hk, hf'.get_set_self hk]
  · have hmem : k' ∈ ks := (List.mem_cons.1 hk').resolve_left he
    rw [hf.get_set_ne hk (hks k' hmem) he, hf'.get_set_ne hk (hks k' hmem) he]
    exact h k' hmem

end Frontier

theorem Frontiers.Wide.mono {w : Frontiers} {r n : Nat} (h : w.Wide r) (hn : n ≤ r) : w.Wide n :=
  ⟨h.forward.mono hn, h.backward.mono hn⟩

namespace Search

open Frontier (AgreesOn)

/-- The diagonals that a frontier has to hold before round `d`. -/
def sources : Nat → List Int
  | 0 => [1]
  | d + 1 => diagonals d

section
variable {d r : Nat} {f f' : Frontier}

theorem natAbs_le_of_mem_sources (hd : d < r) : ∀ k ∈ sources d, k.natAbs ≤ r := by
  intro k hk
  cases d with
  | zero =>
    rw [List.mem_singleton.1 hk]
    omega
  | succ d =>
    have := (mem_diagonals.1 hk).1
    omega

/-- The start on a diagonal is found from the cells of the round before. -/
theorem next_congr (h : AgreesOn (sources d) f f') {k : Int} (hk : k ∈ diagonals d) :
    f.next d k = f'.next d k := by
  rw [mem_diagonals] at hk
  cases d with
  | zero =>
    obtain rfl : k = 0 := by omega
    rw [Frontier.next, Frontier.next, if_pos (by simp), if_pos (by simp)]
    exact h 1 (by simp [sources])
  | succ d =>
    by_cases hlow : k = -((d + 1 : Nat) : Int)
    · rw [Frontier.next, Frontier.next, if_pos (Or.inl hlow), if_pos (Or.inl hlow)]
      exact h _ (mem_diagonals.2 (by omega))
    · have hleft : f.get (k - 1) = f'.get (k - 1) := h _ (mem_diagonals.2 (by omega))
      by_cases hhigh : k = ((d + 1 : Nat) : Int)
      · rw [Frontier.next, Frontier.next, if_neg (by simp [hhigh]; omega),
          if_neg (by simp [hhigh]; omega), hleft]
      · have hright : f.get (k + 1) = f'.get (k + 1) := h _ (mem_diagonals.2 (by omega))
        rw [Frontier.next, Frontier.next, hleft, hright]

/-- **A round depends on the cells of the round before alone**, apart from the test whether it meets
    the other search.  Frontiers that agree go on to agree on the diagonals of the round. -/
theorem sweep_congr {run : Nat → Nat → Nat} {meets meets' : Int → Nat → Bool}
    {point : Nat → Nat → Nat → Nat × Nat} (hmeets : ∀ k ∈ diagonals d, meets k = meets' k)
    {ks known : List Int} (hks : ks ⊆ diagonals d) (hsources : sources d ⊆ known)
    (hknown : ∀ k ∈ known, k.natAbs ≤ r) (hd : d < r) (hf : f.Wide r) (hf' : f'.Wide r)
    (h : AgreesOn known f f') :
    (sweep run meets point d ks f).1 = (sweep run meets' point d ks f').1 ∧
      ((sweep run meets point d ks f).1 = none →
        AgreesOn ks (sweep run meets point d ks f).2 (sweep run meets' point d ks f').2) := by
  -- the diagonals that both frontiers have passed are added to the known ones
  suffices hall : (sweep run meets point d ks f).1 = (sweep run meets' point d ks f').1 ∧
      ((sweep run meets point d ks f).1 = none →
        AgreesOn (ks ++ known) (sweep run meets point d ks f).2 (sweep run meets' point d ks f').2) from
    ⟨hall.1, fun hnone k hk => hall.2 hnone k (List.mem_append_left _ hk)⟩
  induction ks generalizing f f' known with
  | nil => exact ⟨rfl, fun _ => h⟩
  | cons k ks ih =>
    obtain ⟨hk, hks⟩ := List.cons_subset.1 hks
    have habs : k.natAbs ≤ r := by
      have := (mem_diagonals.1 hk).1
      omega
    have hnext : f.next d k = f'.next d k := next_congr (fun k hk => h k (hsources hk)) hk
    have hset := h.set hf hf' hknown habs (f.next d k + run (f.next d k) (f.next d k - k).toNat)
    simp only [sweep, ← hnext, ← hmeets k hk]
    split
    · exact ⟨rfl, fun hnone => absurd hnone (by simp)⟩
    · obtain ⟨hfst, hsnd⟩ := ih hks (List.subset_cons_of_subset k hsources)
        (List.forall_mem_cons.2 ⟨habs, hknown⟩) (hf.set _ _) (hf'.set _ _) hset
      refine ⟨hfst, fun hnone k' hk' => hsnd hnone k' ?_⟩
      simp only [List.mem_append, List.mem_cons] at hk' ⊢
      tauto

end

/-! ## The two searches -/

section
variable {a b : Array Text} {d r : Nat} {front front' back back' : Frontier}

/-- The forward search looks at the backward one on the diagonals of the round before. -/
theorem meetsBackward_congr (h : AgreesOn (sources d) back back') :
    ∀ k ∈ diagonals d, meetsBackward a b d back k = meetsBackward a b d back' k := by
  intro k hk
  funext x
  rw [mem_diagonals] at hk
  by_cases hreach : shift a b % 2 = 1 ∧ (k - shift a b).natAbs < d
  · obtain ⟨e, rfl⟩ : ∃ e, d = e + 1 := ⟨d - 1, by omega⟩
    have hsame := h (shift a b - k) (mem_diagonals.2 (by omega))
    simp only [meetsBackward, hsame]
  · have hno : ∀ other, meetsBackward a b d other k x = false := by
      intro other
      simp only [meetsBackward, decide_eq_false_iff_not]
      exact fun hm => hreach ⟨hm.1, hm.2.1⟩
    rw [hno, hno]

/-- The backward search looks at the forward one on the diagonals of the same round. -/
theorem meetsForward_congr (h : AgreesOn (diagonals d) front front') :
    ∀ k ∈ diagonals d, meetsForward a b d front k = meetsForward a b d front' k := by
  intro k hk
  funext x
  rw [mem_diagonals] at hk
  by_cases hreach : shift a b % 2 = 0 ∧ (k - shift a b).natAbs ≤ d
  · have hsame := h (shift a b - k) (mem_diagonals.2 (by omega))
    simp only [meetsForward, hsame]
  · have hno : ∀ other, meetsForward a b d other k x = false := by
      intro other
      simp only [meetsForward, decide_eq_false_iff_not]
      exact fun hm => hreach ⟨hm.1, hm.2.1⟩
    rw [hno, hno]

theorem sweepForward_congr (hd : d < r) (hf : front.Wide r) (hf' : front'.Wide r)
    (hback : AgreesOn (sources d) back back') (h : AgreesOn (sources d) front front') :
    (sweepForward a b d back (diagonals d) front).1 =
        (sweepForward a b d back' (diagonals d) front').1 ∧
      ((sweepForward a b d back (diagonals d) front).1 = none →
        AgreesOn (diagonals d) (sweepForward a b d back (diagonals d) front).2
          (sweepForward a b d back' (diagonals d) front').2) := by
  rw [sweepForward_eq, sweepForward_eq]
  exact sweep_congr (meetsBackward_congr hback) (List.Subset.refl _) (List.Subset.refl _)
    (natAbs_le_of_mem_sources hd) hd hf hf' h

theorem sweepBackward_congr (hd : d < r) (hb : back.Wide r) (hb' : back'.Wide r)
    (hfront : AgreesOn (diagonals d) front front') (h : AgreesOn (sources d) back back') :
    (sweepBackward a b d front (diagonals d) back).1 =
        (sweepBackward a b d front' (diagonals d) back').1 ∧
      ((sweepBackward a b d front (diagonals d) back).1 = none →
        AgreesOn (diagonals d) (sweepBackward a b d front (diagonals d) back).2
          (sweepBackward a b d front' (diagonals d) back').2) := by
  rw [sweepBackward_eq, sweepBackward_eq]
  exact sweep_congr (meetsForward_congr hfront) (List.Subset.refl _) (List.Subset.refl _)
    (natAbs_le_of_mem_sources hd) hd hb hb' h

end

section
variable {a b : Array Text} {r : Nat} {w w' : Frontiers}

/-- The rounds from `d` on depend on the cells of the round before. -/
theorem rounds_congr (n : Nat) {d : Nat} (hn : d + n ≤ r) (hw : w.Wide r) (hw' : w'.Wide r)
    (hf : AgreesOn (sources d) w.forward w'.forward)
    (hb : AgreesOn (sources d) w.backward w'.backward) :
    (rounds a b (List.range' d n) w).1 = (rounds a b (List.range' d n) w').1 := by
  induction n generalizing d w w' with
  | zero => rfl
  | succ n ih =>
    obtain ⟨hpoint, hleft⟩ := sweepForward_congr (a := a) (b := b) (by omega) hw.forward hw'.forward
      hb hf
    have hwf : (sweepForward a b d w.backward (diagonals d) w.forward).2.Wide r :=
      wide_sweepForward hw.forward _
    have hwf' : (sweepForward a b d w'.backward (diagonals d) w'.forward).2.Wide r :=
      wide_sweepForward hw'.forward _
    rw [List.range'_succ, rounds, rounds]
    generalize sweepForward a b d w.backward (diagonals d) w.forward = s at hpoint hleft hwf ⊢
    generalize sweepForward a b d w'.backward (diagonals d) w'.forward = s' at hpoint hleft hwf' ⊢
    obtain ⟨p, f⟩ := s
    obtain ⟨p', f'⟩ := s'
    obtain rfl : p = p' := hpoint
    cases p with
    | some p => rfl
    | none =>
      have hfront : AgreesOn (diagonals d) f f' := hleft rfl
      obtain ⟨hpoint, hleft⟩ := sweepBackward_congr (a := a) (b := b) (by omega) hw.backward
        hw'.backward hfront hb
      have hwb : (sweepBackward a b d f (diagonals d) w.backward).2.Wide r :=
        wide_sweepBackward hw.backward _
      have hwb' : (sweepBackward a b d f' (diagonals d) w'.backward).2.Wide r :=
        wide_sweepBackward hw'.backward _
      dsimp only
      generalize sweepBackward a b d f (diagonals d) w.backward = s at hpoint hleft hwb ⊢
      generalize sweepBackward a b d f' (diagonals d) w'.backward = s' at hpoint hleft hwb' ⊢
      obtain ⟨p, g⟩ := s
      obtain ⟨p', g'⟩ := s'
      obtain rfl : p = p' := hpoint
      cases p with
      | some p => rfl
      | none =>
        exact ih (by omega) ⟨hwf, hwb⟩ ⟨hwf', hwb'⟩ hfront (hleft rfl)

/-- **The search finds the same point on all frontiers that are wide enough.** -/
theorem middle?_congr (hw : w.Wide (bound a.size b.size)) (hw' : w'.Wide (bound a.size b.size)) :
    (middle? a b w).1 = (middle? a b w').1 := by
  have hone : (1 : Int).natAbs ≤ bound a.size b.size := by
    simp only [bound]
    omega
  have hreset : ∀ {f f' : Frontier}, f.Wide (bound a.size b.size) → f'.Wide (bound a.size b.size) →
      AgreesOn (sources 0) (f.set 1 0) (f'.set 1 0) := by
    intro f f' hf hf' k hk
    rw [List.mem_singleton.1 hk, hf.get_set_self hone, hf'.get_set_self hone]
  rw [middle?, middle?, List.range_eq_range']
  exact rounds_congr _ (by omega) ⟨hw.forward.set 1 0, hw.backward.set 1 0⟩
    ⟨hw'.forward.set 1 0, hw'.backward.set 1 0⟩ (hreset hw.forward hw'.forward)
    (hreset hw.backward hw'.backward)

end

end Search

/-! ## Comparison with new frontiers -/

instance (c : Differing) (x y : Nat) : Decidable (c.Cuts x y) := inferInstanceAs (Decidable (_ ∧ _))

namespace Script

/-- A script from `a` to `b`, where every search is made on new frontiers: those that `supply` has for
    lists of this many lines. -/
def conquerAnew (supply : Nat → Nat → Frontiers) (a b : List Text) : Script :=
  let c := Differing.of a b
  c.within <|
    if c.left.isEmpty || c.right.isEmpty then replacing c.left c.right
    else match (Search.middle? c.left.toArray c.right.toArray
        (supply c.left.length c.right.length)).1 with
      | none => replacing c.left c.right
      | some (x, y) =>
        if _h : c.Cuts x y then
          conquerAnew supply (c.left.take x) (c.right.take y) ++
            conquerAnew supply (c.left.drop x) (c.right.drop y)
        else replacing c.left c.right
termination_by a.length + b.length
decreasing_by
  all_goals
    have := Differing.length_left_le a b
    have := Differing.length_right_le a b
    have hc : c = Differing.of a b := rfl
    rw [hc] at _h
    obtain ⟨hx, hy, hpos, hlt⟩ := _h
    simp only [List.length_take, List.length_drop]
    omega

section
variable {a b : List Text} {c : Differing} (hc : Differing.of a b = c)
  {supply : Nat → Nat → Frontiers}
include hc

theorem conquerAnew_of_empty (h : c.left = [] ∨ c.right = []) :
    conquerAnew supply a b = c.within (replacing c.left c.right) := by
  have he : (c.left.isEmpty || c.right.isEmpty) = true := by simpa using h
  rw [conquerAnew, hc, if_pos he]

theorem conquerAnew_of_cuts (hl : c.left ≠ []) (hr : c.right ≠ []) {x y : Nat}
    (hm : (Search.middle? c.left.toArray c.right.toArray
      (supply c.left.length c.right.length)).1 = some (x, y)) (hxy : c.Cuts x y) :
    conquerAnew supply a b = c.within (conquerAnew supply (c.left.take x) (c.right.take y) ++
      conquerAnew supply (c.left.drop x) (c.right.drop y)) := by
  subst hc
  have he : ¬ ((Differing.of a b).left.isEmpty || (Differing.of a b).right.isEmpty) = true := by
    simpa using ⟨hl, hr⟩
  rw [conquerAnew, if_neg he, hm]
  simp only [dif_pos hxy]

end

/-- A comparison that shares its frontiers gives the script of one that does not. -/
theorem conquer_eq_conquerAnew {supply : Nat → Nat → Frontiers} {r : Nat}
    (hsupply : ∀ n m, Search.bound n m ≤ r → (supply n m).Wide (Search.bound n m)) {a b : List Text}
    {w : Frontiers} (hw : w.Wide r) (hr : Search.bound a.length b.length ≤ r) :
    (conquer a b w).1 = conquerAnew supply a b := by
  refine conquer_induction (P := fun a b w => (conquer a b w).1 = conquerAnew supply a b) ?_ ?_ hw hr
  · intro a b w c hc he
    rw [conquer_of_empty hc he, conquerAnew_of_empty hc he]
  · intro a b w c x y w' hc hw hr hs hfirst hsecond
    have hm : (Search.middle? c.left.toArray c.right.toArray
        (supply c.left.length c.right.length)).1 = some (x, y) := by
      have hsame := Search.middle?_congr (a := c.left.toArray) (b := c.right.toArray)
        (by simpa using hsupply _ _ hr) (by simpa using hw.mono hr)
      rw [hsame, hs.found]
    rw [conquer_of_cuts hc hs.left hs.right hs.found hs.cuts rfl rfl,
      conquerAnew_of_cuts hc hs.left hs.right hm hs.cuts, hfirst, hsecond]

/-- **Shared frontiers carry nothing over.**  On frontiers that are wide enough a search finds the same
    point, whatever they hold, and a comparison that uses one pair for all of its searches gives the
    same script as one that has a new and empty pair for each, or any other pair. -/
theorem conquer_forgets {a b : List Text} {w w' : Frontiers}
    (hw : w.Wide (Search.bound a.length b.length)) (hw' : w'.Wide (Search.bound a.length b.length)) :
    (Search.middle? a.toArray b.toArray w).1 = (Search.middle? a.toArray b.toArray w').1 ∧
    (conquer a b w).1 = conquerAnew Search.frontiers a b ∧
    ∀ supply : Nat → Nat → Frontiers,
      (∀ n m, Search.bound n m ≤ Search.bound a.length b.length →
        (supply n m).Wide (Search.bound n m)) →
      (conquer a b w).1 = conquerAnew supply a b := by
  refine ⟨?_, ?_, fun supply hsupply => conquer_eq_conquerAnew hsupply hw le_rfl⟩
  · exact Search.middle?_congr (by simpa using hw) (by simpa using hw')
  · exact conquer_eq_conquerAnew
      (fun n m _ => ⟨Frontier.wide_new _, Frontier.wide_new _⟩) hw le_rfl

/-- Frontiers of different widths, one pair empty and one with leftovers everywhere. -/
theorem conquer_forgets_leftovers :
    ∃ a b w w', a = [['x'], ['k']] ∧ b = [['k'], ['z']] ∧ w = Search.frontiers 2 2 ∧
      w' = ⟨⟨3, #[7, 0, 9, 2, 5, 1, 8]⟩, ⟨4, #[3, 1, 4, 1, 5, 9, 2, 6, 5]⟩⟩ ∧
      (Search.middle? a.toArray b.toArray w').1 = (Search.middle? a.toArray b.toArray w).1 ∧
      (conquer a b w').1 = conquerAnew Search.frontiers a b ∧
      (conquer a b w').1 = [.drop ['x'], .keep ['k'], .add ['z']] := by
  refine ⟨_, _, _, _, rfl, rfl, rfl, rfl, ?_⟩
  have hempty : (Search.frontiers 2 2).Wide (Search.bound 2 2) :=
    ⟨Frontier.wide_new _, Frontier.wide_new _⟩
  have hleftovers : Frontiers.Wide
      ⟨⟨3, #[7, 0, 9, 2, 5, 1, 8]⟩, ⟨4, #[3, 1, 4, 1, 5, 9, 2, 6, 5]⟩⟩ (Search.bound 2 2) :=
    ⟨⟨rfl, by decide⟩, ⟨rfl, by decide⟩⟩
  obtain ⟨hpoint, hscript, -⟩ :=
    conquer_forgets (a := [['x'], ['k']]) (b := [['k'], ['z']]) hleftovers hempty
  exact ⟨hpoint, hscript, hscript.trans (by decide +kernel)⟩

end Script

end Retouch
