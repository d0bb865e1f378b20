/-
  The inner product of sparse vectors.

  The ids that two vectors share are joined with both of their weights (`IsJoin`); as the ids of a
  vector increase, there is one such list.  The product walks along both vectors at once and drops the
  smaller of the two ids in front, or both if they are equal.

  * `IsJoin.skip_left`, `IsJoin.skip_right` and `IsJoin.both`: what each step of the walk does to the
    shared ids that are still ahead;
  * `exists_join`: the walk meets exactly the shared ids, in their order;
  * `dot_eq_sumProducts`: the product is the sum over the shared ids.
-/
import Retouch.Proofs.Projection

namespace Retouch.SparseVector

/-- The ids of the vector increase. -/
def IsIncreasing (v : SparseVector) : Prop := v.Pairwise fun e f => e.1 < f.1

instance (v : SparseVector) : Decidable v.IsIncreasing := inferInstanceAs (Decidable (List.Pairwise _ _))

/-- The ids that two vectors share, in increasing order, each with its weights in both. -/
structure IsJoin (v w : SparseVector) (shared : List (Nat × Float × Float)) : Prop where
  increasing : shared.Pairwise fun e f => e.1 < f.1
  mem_iff : ∀ i x y, (i, x, y) ∈ shared ↔ (i, x) ∈ v ∧ (i, y) ∈ w

section

variable {v w : SparseVector} {i j : Nat} {x y : Float} {shared : List (Nat × Float × Float)}

theorem isIncreasing_cons :
    IsIncreasing ((i, x) :: v) ↔ (∀ j y, (j, y) ∈ v → i < j) ∧ v.IsIncreasing := by
  simp [IsIncreasing]

/-- Below the first id of an increasing vector there is none. -/
theorem IsIncreasing.le_of_mem (h : IsIncreasing ((i, x) :: v)) (hj : (j, y) ∈ (i, x) :: v) :
    i ≤ j := by
  rcases List.mem_cons.1 hj with heq | hmem
  · exact (congrArg Prod.fst heq).ge
  · exact ((isIncreasing_cons.1 h).1 j y hmem).le

/-- There is one list of the shared ids. -/
theorem IsJoin.unique {other : List (Nat × Float × Float)} (h : IsJoin v w shared)
    (h' : IsJoin v w other) : shared = other := by
  have : Std.Irrefl fun e f : Nat × Float × Float => e.1 < f.1 := ⟨fun e => Nat.lt_irrefl e.1⟩
  have : Std.Antisymm fun e f : Nat × Float × Float => e.1 < f.1 :=
    ⟨fun _ _ h h' => absurd h (Nat.lt_asymm h')⟩
  refine h.increasing.eq_of_mem_iff h'.increasing ?_
  rintro ⟨i, x, y⟩
  rw [h.mem_iff, h'.mem_iff]

/-- What is ahead matters only as far as ids are shared. -/
theorem IsJoin.congr {v' w' : SparseVector} (h : IsJoin v w shared)
    (h' : ∀ i x y, (i, x) ∈ v' ∧ (i, y) ∈ w' ↔ (i, x) ∈ v ∧ (i, y) ∈ w) : IsJoin v' w' shared :=
  ⟨h.increasing, fun i x y => (h.mem_iff i x y).trans (h' i x y).symm⟩

/-! ## Steps -/

/-- An id below all ids of the other vector is not shared. -/
theorem IsJoin.skip_left (h : IsJoin v ((j, y) :: w) shared) (hw : IsIncreasing ((j, y) :: w))
    (hij : i < j) : IsJoin ((i, x) :: v) ((j, y) :: w) shared := by
  refine h.congr fun k a b => and_congr_left fun hb => ?_
  have hk : j ≤ k := hw.le_of_mem hb
  simp [show k ≠ i by omega]

theorem IsJoin.skip_right (h : IsJoin ((i, x) :: v) w shared) (hv : IsIncreasing ((i, x) :: v))
    (hji : j < i) : IsJoin ((i, x) :: v) ((j, y) :: w) shared := by
  refine h.congr fun k a b => and_congr_right fun ha => ?_
  have hk : i ≤ k := hv.le_of_mem ha
  simp [show k ≠ j by omega]

/-- An id in front of both vectors is the first shared one. -/
theorem IsJoin.both (h : IsJoin v w shared) (hv : IsIncreasing ((i, x) :: v))
    (hw : IsIncreasing ((i, y) :: w)) :
    IsJoin ((i, x) :: v) ((i, y) :: w) ((i, x, y) :: shared) := by
  obtain ⟨hltv, -⟩ := isIncreasing_cons.1 hv
  obtain ⟨hltw, -⟩ := isIncreasing_cons.1 hw
  constructor
  · rw [List.pairwise_cons]
    refine ⟨?_, h.increasing⟩
    rintro ⟨k, a, b⟩ hmem
    exact hltv k a ((h.mem_iff k a b).1 hmem).1
  · intro k a b
    simp only [List.mem_cons, Prod.mk.injEq, h.mem_iff]
    constructor
    · rintro (⟨rfl, rfl, rfl⟩ | ⟨ha, hb⟩)
      · exact ⟨.inl ⟨rfl, rfl⟩, .inl ⟨rfl, rfl⟩⟩
      · exact ⟨.inr ha, .inr hb⟩
    · rintro ⟨⟨rfl, rfl⟩ | ha, ⟨hk, rfl⟩ | hb⟩
      · exact .inl ⟨rfl, rfl, rfl⟩
      · exact absurd (hltw k b hb) (Nat.lt_irrefl k)
      · exact absurd (hltv k a ha) (by omega)
      · exact .inr ⟨ha, hb⟩

end

/-! ## The walk -/

/-- `acc` plus the products of the weights, from left to right. -/
def sumProducts (acc : Float) (shared : List (Nat × Float × Float)) : Float :=
  shared.foldl (fun sum e => sum + e.2.1 * e.2.2) acc

/-- **The walk along two vectors meets the ids they share.** -/
theorem exists_join {v w : SparseVector} (hv : v.IsIncreasing) (hw : w.IsIncreasing) (acc : Float) :
    ∃ shared, IsJoin v w shared ∧ dotFrom acc v w = sumProducts acc shared := by
  fun_induction dotFrom acc v w with
  | case1 acc w => exact ⟨[], ⟨.nil, by simp⟩, rfl⟩
  | case2 acc e v => exact ⟨[], ⟨.nil, by simp⟩, rfl⟩
  | case3 acc i x v j y w hlt ih =>
    obtain ⟨shared, hjoin, hsum⟩ := ih (isIncreasing_cons.1 hv).2 hw
    exact ⟨shared, hjoin.skip_left hw hlt, hsum⟩
  | case4 acc i x v j y w _ hlt ih =>
    obtain ⟨shared, hjoin, hsum⟩ := ih hv (isIncreasing_cons.1 hw).2
    exact ⟨shared, hjoin.skip_right hv hlt, hsum⟩
  | case5 acc i x v j y w hle hge ih =>
    obtain rfl : i = j := by omega
    obtain ⟨shared, hjoin, hsum⟩ := ih (isIncreasing_cons.1 hv).2 (isIncreasing_cons.1 hw).2
    exact ⟨(i, x, y) :: shared, hjoin.both hv hw, hsum⟩

/-- **The inner product is the sum over the shared ids.**  The ids that both vectors have can be listed
    in increasing order, each once with its two weights, and the product is the sum of the products of
    these weights, from left to right.  It is zero if there is no such id, so also if one of the
    vectors is zero. -/
theorem dot_eq_sumProducts {v w : SparseVector} (hv : v.IsIncreasing) (hw : w.IsIncreasing) :
    (∃ shared, IsJoin v w shared ∧ dot v w = sumProducts 0 shared) ∧
    (∀ shared, IsJoin v w shared → dot v w = sumProducts 0 shared) ∧
    ((∀ i ∈ v.map Prod.fst, i ∉ w.map Prod.fst) → dot v w = 0) ∧
    (v.isZero ∨ w.isZero → dot v w = 0) := by
  obtain ⟨shared, hjoin, hsum⟩ := exists_join hv hw 0
  have hall : ∀ other, IsJoin v w other → dot v w = sumProducts 0 other := by
    intro other hother
    rw [hother.unique hjoin]
    exact hsum
  have hnone : (∀ i ∈ v.map Prod.fst, i ∉ w.map Prod.fst) → dot v w = 0 := by
    intro hdisjoint
    refine hall [] ⟨.nil, fun i x y => ?_⟩
    simp only [List.not_mem_nil, false_iff, not_and]
    intro hx hy
    exact hdisjoint i (List.mem_map_of_mem hx) (List.mem_map_of_mem hy)
  refine ⟨⟨shared, hjoin, hsum⟩, hall, hnone, ?_⟩
  rintro (hzero | hzero)
  · exact hnone (by rw [List.isEmpty_iff.1 hzero]; simp)
  · exact hnone (by rw [List.isEmpty_iff.1 hzero]; simp)

/-- Of seven ids two are shared. -/
theorem dot_eq_sumProducts_interleaved :
    ∃ v w : SparseVector, v = [(1, 2), (4, 3), (7, 5)] ∧ w = [(0, 1), (4, 6), (7, -1), (9, 2)] ∧
      v.IsIncreasing ∧ w.IsIncreasing ∧ dot v w = 0 + 3 * 6 + 5 * (-1) := by
  refine ⟨_, _, rfl, rfl, by decide, by decide, ?_⟩
  refine (dot_eq_sumProducts (by decide) (by decide)).2.1 [(4, 3, 6), (7, 5, -1)]
    ⟨by decide, fun i x y => ?_⟩
  simp only [List.mem_cons, Prod.mk.injEq, List.not_mem_nil, or_false]
  constructor
  · rintro (⟨rfl, rfl, rfl⟩ | ⟨rfl, rfl, rfl⟩) <;> simp
  · rintro ⟨⟨rfl, rfl⟩ | ⟨rfl, rfl⟩ | ⟨rfl, rfl⟩, hy⟩
    · simp at hy
    · simpa using hy
    · simpa using hy

end Retouch.SparseVector
