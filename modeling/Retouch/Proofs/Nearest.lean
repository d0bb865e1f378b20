/-
  The nearest row, however the search is carried out.

  A search over rows may be split: parts of neighbouring rows are scanned from left to right, and the
  results of two neighbouring parts are joined, in whatever order they come in (`Split`).  Scores other
  than NaN are ordered by their `rank`, so the better of two rows is the greater one in a linear order,
  that of scores first and then the reverse order of rows (`place_better`); and the greatest of some
  rows does not depend on how they were split.

  * `Split.finds`: a search finds the greatest row of all that it covers;
  * `Index.isNaN_similarities_build`: the similarities of the index of a corpus are not NaN;
  * `split_search`: every way to split a search over scores finds the lowest row of maximal score, as
    the scan does, and so does `nearest?` for a text that is no entry.
-/
import Mathlib.Algebra.Order.Group.Int
import Mathlib.Data.Prod.Lex
import Mathlib.Order.Compare
import Retouch.Proofs.Retrieval
import Retouch.Proofs.Similarities

namespace Retouch

open Float.Model (UnpackedFloat)

/-! ## The order of scores -/

namespace Score

/-- Where a number stands among the others; the two zeros stand in one place. -/
def rankOf : UnpackedFloat → ℤ ×ₗ ℤ ×ₗ ℤ
  | .infinity .negative => toLex (-2, toLex (0, 0))
  | .finite .negative m e _ => toLex (-1, toLex (-e, -m))
  | .zero _ => toLex (0, toLex (0, 0))
  | .finite .positive m e _ => toLex (1, toLex (e, m))
  | .infinity .positive => toLex (2, toLex (0, 0))
  | .notANumber => toLex (3, toLex (0, 0))

/-- The rank of a score.  It orders all scores but NaN. -/
def rank (x : Float) : ℤ ×ₗ ℤ ×ₗ ℤ := rankOf x.toModel.unpack

theorem compare_neg (a b : ℤ) : compare (-a) (-b) = (compare a b).swap := by
  rcases lt_trichotomy a b with h | h | h
  · rw [compare_gt_iff_gt.2 (Int.neg_lt_neg h), compare_lt_iff_lt.2 h]
    rfl
  · rw [h, compare_eq_iff_eq.2 rfl, compare_eq_iff_eq.2 rfl]
    rfl
  · rw [compare_lt_iff_lt.2 (Int.neg_lt_neg h), compare_gt_iff_gt.2 h]
    rfl

theorem compare_natCast (m n : ℕ) : compare (m : ℤ) n = compare m n := by
  rcases lt_trichotomy m n with h | h | h
  · rw [compare_lt_iff_lt.2 (Int.ofNat_lt.2 h), compare_lt_iff_lt.2 h]
  · rw [h, compare_eq_iff_eq.2 rfl, compare_eq_iff_eq.2 rfl]
  · rw [compare_gt_iff_gt.2 (Int.ofNat_lt.2 h), compare_gt_iff_gt.2 h]

theorem compare_eq_compare_rankOf {a b : UnpackedFloat} (ha : a ≠ .notANumber)
    (hb : b ≠ .notANumber) : a.compare b = some (compare (rankOf a) (rankOf b)) := by
  rcases a with (_ | _) | _ | _ | ⟨_ | _, m, e, hm⟩ <;>
    rcases b with (_ | _) | _ | _ | ⟨_ | _, n, f, hn⟩
  -- exponents and mantissas decide only between finite numbers of one sign
  case finite.negative.finite.negative =>
    show _ = some ((compare (-e) (-f)).then (compare (-m : ℤ) (-n)))
    rw [compare_neg, compare_neg, compare_natCast, ← Ordering.swap_then]
    rfl
  case finite.positive.finite.positive =>
    show _ = some ((compare e f).then (compare (m : ℤ) n))
    rw [compare_natCast]
    rfl
  all_goals first | rfl | contradiction

variable {x y : Float}

theorem compare_eq_compare_rank (hx : x.isNaN = false) (hy : y.isNaN = false) :
    x.toModel.compare y.toModel = some (compare (rank x) (rank y)) := by
  have hne : ∀ z : Float, z.isNaN = false → z.toModel.unpack ≠ .notANumber := by
    intro z hz hnan
    rw [Float.isNaN, Float.Model.isNaN, hnan] at hz
    exact absurd hz (by decide)
  exact compare_eq_compare_rankOf (hne x hx) (hne y hy)

theorem lt_iff_rank_lt (hx : x.isNaN = false) (hy : y.isNaN = false) :
    x < y ↔ rank x < rank y := by
  have h : x < y ↔ (x.toModel.compare y.toModel == some .lt) = true := decide_eq_true_iff
  rw [h, compare_eq_compare_rank hx hy, beq_iff_eq, Option.some_inj, compare_lt_iff_lt]

theorem beq_iff_rank_eq (hx : x.isNaN = false) (hy : y.isNaN = false) :
    (x == y) = true ↔ rank x = rank y := by
  have h : (x == y) = (x.toModel.compare y.toModel == some .eq) := rfl
  rw [h, compare_eq_compare_rank hx hy, beq_iff_eq, Option.some_inj, compare_eq_iff_eq]

theorem le_iff_rank_le (hx : x.isNaN = false) (hy : y.isNaN = false) :
    x ≤ y ↔ rank x ≤ rank y := by
  have h : x ≤ y ↔ Option.any Ordering.isLE (x.toModel.compare y.toModel) = true :=
    decide_eq_true_iff
  rw [h, compare_eq_compare_rank hx hy, Option.any_some, Ordering.isLE_iff_ne_gt]
  exact compare_le_iff_le

end Score

/-! ## The greatest row -/

section Best

variable {a b : Nat × Float} {rows rows' : List (Nat × Float)}

/-- Where a row stands: a greater score comes first, and of equal scores the lower row. -/
def place (a : Nat × Float) : (ℤ ×ₗ ℤ ×ₗ ℤ) ×ₗ ℕᵒᵈ := toLex (Score.rank a.2, OrderDual.toDual a.1)

theorem place_lt_place_iff (ha : a.2.isNaN = false) (hb : b.2.isNaN = false) :
    place a < place b ↔ a.2 < b.2 ∨ ((b.2 == a.2) = true ∧ b.1 < a.1) := by
  rw [place, place, Prod.Lex.toLex_lt_toLex, Score.lt_iff_rank_lt ha hb,
    Score.beq_iff_rank_eq hb ha, OrderDual.toDual_lt_toDual, eq_comm (a := Score.rank a.2)]

theorem better_eq_ite (ha : a.2.isNaN = false) (hb : b.2.isNaN = false) :
    better a b = if place a < place b then b else a := by
  rw [better]
  exact if_congr (place_lt_place_iff ha hb).symm rfl rfl

/-- The better of two rows is the greater one. -/
theorem place_better (ha : a.2.isNaN = false) (hb : b.2.isNaN = false) :
    place (better a b) = max (place a) (place b) := by
  rw [better_eq_ite ha hb]
  split
  · next h => rw [max_eq_right h.le]
  · next h => rw [max_eq_left (not_lt.1 h)]

/-- `b` is the greatest of some rows. -/
structure IsBest (rows : List (Nat × Float)) (b : Nat × Float) : Prop where
  mem : b ∈ rows
  le : ∀ a ∈ rows, place a ≤ place b

theorem isBest_singleton (a : Nat × Float) : IsBest [a] a :=
  ⟨List.mem_singleton_self a, fun b hb => by rw [List.mem_singleton.1 hb]⟩

/-- The better of two results is the result for all rows together. -/
theorem IsBest.better (ha : IsBest rows a) (hb : IsBest rows' b)
    (hnum : ∀ r ∈ rows ++ rows', r.2.isNaN = false) :
    IsBest (rows ++ rows') (Retouch.better a b) := by
  have hmax := place_better (hnum a (List.mem_append_left _ ha.mem))
    (hnum b (List.mem_append_right _ hb.mem))
  refine ⟨?_, fun r hr => ?_⟩
  · rcases better_eq_or_eq a b with h | h
    · rw [h]
      exact List.mem_append_left _ ha.mem
    · rw [h]
      exact List.mem_append_right _ hb.mem
  · rw [hmax]
    rcases List.mem_append.1 hr with hr | hr
    · exact le_max_of_le_left (ha.le r hr)
    · exact le_max_of_le_right (hb.le r hr)

/-- A scan keeps the best of the rows that it has seen. -/
theorem IsBest.foldl (ha : IsBest rows a) (hnum : ∀ r ∈ rows ++ rows', r.2.isNaN = false) :
    IsBest (rows ++ rows') (rows'.foldl Retouch.better a) := by
  induction rows' generalizing rows a with
  | nil => rwa [List.append_nil]
  | cons b rows' ih =>
    rw [List.append_cons] at hnum ⊢
    have hb := ha.better (isBest_singleton b) fun r hr => hnum r (List.mem_append_left _ hr)
    exact ih hb hnum

/-- What a search over some rows has to find. -/
def Finds (rows : List (Nat × Float)) : Option (Nat × Float) → Prop
  | none => rows = []
  | some b => IsBest rows b

theorem finds_best? (hnum : ∀ r ∈ rows, r.2.isNaN = false) : Finds rows (best? rows) := by
  cases rows with
  | nil => rfl
  | cons a rows => exact (isBest_singleton a).foldl hnum

theorem Finds.merge {a? b? : Option (Nat × Float)} (ha : Finds rows a?) (hb : Finds rows' b?)
    (hnum : ∀ r ∈ rows ++ rows', r.2.isNaN = false) :
    Finds (rows ++ rows') (Option.merge better a? b?) := by
  cases a? with
  | none =>
    obtain rfl : rows = [] := ha
    cases b? <;> exact hb
  | some a =>
    cases b? with
    | none =>
      obtain rfl : rows' = [] := hb
      rwa [List.append_nil]
    | some b => exact IsBest.better ha hb hnum

end Best

/-! ## Split searches -/

/-- A way to carry out a search over rows. -/
inductive Split where
  /-- The rows are scanned from left to right. -/
  | scan (rows : List (Nat × Float))
  /-- Two neighbouring parts are searched apart, and their results are joined. -/
  | join (left right : Split)

namespace Split

/-- The rows that a search covers. -/
def rows : Split → List (Nat × Float)
  | scan rows => rows
  | join left right => left.rows ++ right.rows

/-- What a search returns; a part without rows returns nothing. -/
def result? : Split → Option (Nat × Float)
  | scan rows => best? rows
  | join left right => Option.merge better left.result? right.result?

theorem finds (s : Split) (hnum : ∀ r ∈ s.rows, r.2.isNaN = false) : Finds s.rows s.result? := by
  induction s with
  | scan rows => exact finds_best? hnum
  | join left right ihl ihr =>
    have hl := ihl fun r hr => hnum r (List.mem_append_left _ hr)
    have hr := ihr fun r hr => hnum r (List.mem_append_right _ hr)
    exact hl.merge hr hnum

end Split

/-! ## Numbered scores -/

/-- The scores with their rows. -/
def numbered (xs : List Float) : List (Nat × Float) := xs.zipIdx.map fun (x, row) => (row, x)

/-- `x` is the first of the maximal scores, in row `row`. -/
structure IsFirstPeak (xs : List Float) (row : Nat) (x : Float) : Prop where
  at_row : xs[row]? = some x
  le : ∀ (j : Nat) y, xs[j]? = some y → y ≤ x
  lt : ∀ (j : Nat) y, xs[j]? = some y → j < row → y < x

section Numbered

variable {xs : List Float} {a b : Nat × Float}

theorem mem_numbered : a ∈ numbered xs ↔ xs[a.1]? = some a.2 := by
  rw [numbered, List.mem_map]
  constructor
  · rintro ⟨⟨x, row⟩, h, rfl⟩
    exact List.mem_zipIdx_iff_getElem?.1 h
  · intro h
    exact ⟨(a.2, a.1), List.mem_zipIdx_iff_getElem?.2 h, rfl⟩

theorem isNaN_of_mem_numbered (hnum : ∀ x ∈ xs, x.isNaN = false) :
    ∀ r ∈ numbered xs, r.2.isNaN = false :=
  fun r hr => hnum r.2 (List.mem_of_getElem? (mem_numbered.1 hr))

/-- There is only one greatest row. -/
theorem IsBest.unique (ha : IsBest (numbered xs) a) (hb : IsBest (numbered xs) b) : a = b := by
  have hplace : place a = place b := le_antisymm (hb.le a ha.mem) (ha.le b hb.mem)
  have hrow : a.1 = b.1 := (Prod.mk.inj (toLex_inj.1 hplace)).2
  have hscore := mem_numbered.1 ha.mem
  rw [hrow, mem_numbered.1 hb.mem] at hscore
  exact Prod.ext hrow (Option.some.inj hscore).symm

theorem Finds.unique {a? b? : Option (Nat × Float)} (ha : Finds (numbered xs) a?)
    (hb : Finds (numbered xs) b?) : a? = b? := by
  cases a? with
  | none =>
    cases b? with
    | none => rfl
    | some b => exact absurd hb.mem (by rw [show numbered xs = [] from ha]; simp)
  | some a =>
    cases b? with
    | none => exact absurd ha.mem (by rw [show numbered xs = [] from hb]; simp)
    | some b => rw [IsBest.unique ha hb]

theorem IsBest.isFirstPeak (hnum : ∀ x ∈ xs, x.isNaN = false) (hb : IsBest (numbered xs) b) :
    IsFirstPeak xs b.1 b.2 := by
  have hbx := mem_numbered.1 hb.mem
  have hbn := hnum _ (List.mem_of_getElem? hbx)
  -- every score is less, or equal and not in a lower row
  have hle : ∀ (j : Nat) y, xs[j]? = some y → Score.rank y < Score.rank b.2 ∨
      Score.rank y = Score.rank b.2 ∧ b.1 ≤ j := by
    intro j y hy
    have h := hb.le (j, y) (mem_numbered.2 hy)
    rwa [place, place, Prod.Lex.toLex_le_toLex, OrderDual.toDual_le_toDual] at h
  refine ⟨hbx, fun j y hy => ?_, fun j y hy hj => ?_⟩
  · rw [Score.le_iff_rank_le (hnum y (List.mem_of_getElem? hy)) hbn]
    rcases hle j y hy with h | ⟨h, -⟩
    · exact h.le
    · exact h.le
  · rw [Score.lt_iff_rank_lt (hnum y (List.mem_of_getElem? hy)) hbn]
    rcases hle j y hy with h | ⟨-, h⟩
    · exact h
    · exact absurd hj (Nat.not_lt.2 h)

/-- However a search over scores is split, it finds the first of the maximal ones. -/
theorem Split.exists_result? (s : Split) (hs : s.rows = numbered xs) (hne : xs ≠ [])
    (hnum : ∀ x ∈ xs, x.isNaN = false) :
    ∃ row x, s.result? = some (row, x) ∧ best? (numbered xs) = some (row, x) ∧
      IsFirstPeak xs row x := by
  have hrows := isNaN_of_mem_numbered hnum
  have hfinds : Finds (numbered xs) s.result? := hs ▸ s.finds (hs ▸ hrows)
  rw [← hfinds.unique (finds_best? hrows)]
  cases hb : s.result? with
  | none =>
    rw [hb] at hfinds
    have hnil : numbered xs = [] := hfinds
    exact absurd (by simpa [numbered] using hnil) hne
  | some b =>
    rw [hb] at hfinds
    exact ⟨b.1, b.2, rfl, rfl, IsBest.isFirstPeak hnum hfinds⟩

end Numbered

/-! ## The nearest row -/

namespace Index

variable {i : Index} {t : Text}

/-- The similarities of the rows to a text. -/
def similarities (i : Index) (t : Text) : List Float := i.rows.map (i.weights.vector t).dot

theorem scores_vector (i : Index) (t : Text) :
    i.scores (i.weights.vector t) = numbered (i.similarities t) := by
  simp [scores, numbered, similarities, List.zipIdx_map]

/-- A text that is no entry is nearest to the best of all rows. -/
theorem nearest?_eq_best? (hne : i.rows ≠ []) (ht : Source.fingerprintOf t ∉ i.fingerprints) :
    i.nearest? t = best? (numbered (i.similarities t)) := by
  have hnone : i.fingerprints.findIdx? (· == Source.fingerprintOf t) = none := by
    rw [List.findIdx?_eq_none_iff]
    intro print hprint
    rw [beq_eq_false_iff_ne]
    rintro rfl
    exact ht hprint
  rw [nearest?, if_neg (by simpa using hne), ← scores_vector]
  simp only [hnone]

/-- Every search over the similarities of a text that is no entry finds the nearest row. -/
theorem exists_nearest? (s : Split) (hs : s.rows = i.scores (i.weights.vector t))
    (hne : i.rows ≠ []) (ht : Source.fingerprintOf t ∉ i.fingerprints)
    (hnum : ∀ x ∈ i.similarities t, x.isNaN = false) :
    ∃ row x, i.nearest? t = some (row, x) ∧ s.result? = some (row, x) ∧
      IsFirstPeak (i.similarities t) row x := by
  rw [scores_vector] at hs
  have hxs : i.similarities t ≠ [] := by simpa [similarities] using hne
  obtain ⟨row, x, hresult, hbest, hpeak⟩ := s.exists_result? hs hxs hnum
  exact ⟨row, x, (nearest?_eq_best? hne ht).trans hbest, hresult, hpeak⟩

/-- **No similarity is NaN** in the index of a corpus. -/
theorem isNaN_similarities_build {entries : Corpus} (hlog : Weights.LogBounded entries.length)
    (t : Text) : ∀ x ∈ (build entries).similarities t, x.isNaN = false := by
  have hlength : (entries.map (·.code)).length = entries.length := List.length_map _
  rw [similarities, List.forall_mem_map]
  intro row hrow
  obtain ⟨code, -, rfl⟩ := List.mem_map.1 hrow
  exact Weights.isNaN_dot_vector (hlength ▸ hlog) t code

/-- Every search over the index of a corpus finds the nearest row to a text that is no entry. -/
theorem exists_nearest?_build_of_split {entries : Corpus} (hlog : Weights.LogBounded entries.length)
    (hne : entries ≠ []) (ht : ∀ e ∈ entries, Source.fingerprintOf e.code ≠ Source.fingerprintOf t)
    (s : Split) (hs : s.rows = (build entries).scores ((build entries).weights.vector t)) :
    ∃ row x, (build entries).nearest? t = some (row, x) ∧ s.result? = some (row, x) ∧
      IsFirstPeak ((build entries).similarities t) row x := by
  refine exists_nearest? s hs (by simpa [build] using hne) ?_ (isNaN_similarities_build hlog t)
  simpa [build] using ht

end Index

/-- **The nearest row does not depend on how the search is split.**  Every search over scores without
    NaN returns what the scan returns, the lowest row among those of maximal score; and so the nearest
    row to a text that is no entry is what any search over its similarities returns. -/
theorem split_search :
    (∀ (xs : List Float) (s : Split), s.rows = numbered xs → xs ≠ [] →
      (∀ x ∈ xs, x.isNaN = false) →
      ∃ row x, s.result? = some (row, x) ∧ best? (numbered xs) = some (row, x) ∧
        IsFirstPeak xs row x) ∧
    (∀ (i : Index) (t : Text) (s : Split), s.rows = i.scores (i.weights.vector t) →
      i.rows ≠ [] → Source.fingerprintOf t ∉ i.fingerprints →
      (∀ x ∈ i.similarities t, x.isNaN = false) →
      ∃ row x, i.nearest? t = some (row, x) ∧ s.result? = some (row, x) ∧
        IsFirstPeak (i.similarities t) row x) := by
  exact ⟨fun xs s hs hne hnum => s.exists_result? hs hne hnum,
    fun i t s hs hne ht hnum => Index.exists_nearest? s hs hne ht hnum⟩

/-- The similarities of a text with one of the two tokens that both documents have. -/
theorem Index.similarities_same_tokens (hlog : Float.log 1 = 0) :
    (Index.build [⟨"ab if".toList, ['p']⟩, ⟨"if ab".toList, ['q']⟩]).similarities "AB".toList =
      [1 / Float.sqrt 2, 1 / Float.sqrt 2] := by
  show (["ab if".toList, "if ab".toList].map (Weights.fit ["ab if".toList, "if ab".toList]).vector).map
    ((Weights.fit ["ab if".toList, "if ab".toList]).vector "AB".toList).dot = _
  rw [Weights.fit_same_tokens hlog]
  decide +kernel

/-- Two rows tie for the best, with a negative zero between them; an unrelated text, whose similarity
    to all rows is zero; and a text that shares a token with both rows, which tie, if the logarithm of
    one is zero. -/
theorem split_search_ties :
    (∃ row x, (Split.join (.scan [(0, 0.25)])
        (.join (.scan [(1, 0.75), (2, -0.0)]) (.join (.scan []) (.scan [(3, 0.75)])))).result? =
          some (row, x) ∧
      best? (numbered [0.25, 0.75, -0.0, 0.75]) = some (row, x) ∧
      IsFirstPeak [0.25, 0.75, -0.0, 0.75] row x) ∧
    (∃ i row x, i = Index.build [⟨['a', 'b'], []⟩, ⟨['c', 'd'], []⟩] ∧
      i.nearest? ['e', 'f'] = some (row, x) ∧
      (Split.join (.scan [(0, 0)]) (.scan [(1, 0)])).result? = some (row, x) ∧
      IsFirstPeak (i.similarities ['e', 'f']) row x) ∧
    (Float.log 1 = 0 → ∃ i row x,
      i = Index.build [⟨"ab if".toList, ['p']⟩, ⟨"if ab".toList, ['q']⟩] ∧
      i.nearest? "AB".toList = some (row, x) ∧ 0 < x ∧
      (Split.join (.scan [(0, 1 / Float.sqrt 2)]) (.scan [(1, 1 / Float.sqrt 2)])).result? =
        some (row, x) ∧
      IsFirstPeak (i.similarities "AB".toList) row x) := by
  refine ⟨split_search.1 _ _ rfl (by decide) (by decide +kernel),
    ⟨Index.build [⟨['a', 'b'], []⟩, ⟨['c', 'd'], []⟩], ?_⟩, fun hlog =>
    ⟨Index.build [⟨"ab if".toList, ['p']⟩, ⟨"if ab".toList, ['q']⟩], ?_⟩⟩
  · have hvector :
        (Index.build [⟨['a', 'b'], []⟩, ⟨['c', 'd'], []⟩]).weights.vector ['e', 'f'] = [] := by
      decide +kernel
    have hzero :
        (Index.build [⟨['a', 'b'], []⟩, ⟨['c', 'd'], []⟩]).similarities ['e', 'f'] = [0, 0] := by
      rw [Index.similarities, hvector]
      simp [Index.build, SparseVector.dot, SparseVector.dotFrom]
    obtain ⟨row, x, h⟩ := split_search.2 (Index.build [⟨['a', 'b'], []⟩, ⟨['c', 'd'], []⟩])
      ['e', 'f'] (.join (.scan [(0, 0)]) (.scan [(1, 0)])) (by rw [Index.scores_vector, hzero]; rfl)
      (by simp [Index.build]) (by decide +kernel) (by rw [hzero]; decide +kernel)
    exact ⟨row, x, rfl, h⟩
  · have hsame := Index.similarities_same_tokens hlog
    obtain ⟨row, x, hnearest, hresult, hpeak⟩ := split_search.2
      (Index.build [⟨"ab if".toList, ['p']⟩, ⟨"if ab".toList, ['q']⟩]) "AB".toList
      (.join (.scan [(0, 1 / Float.sqrt 2)]) (.scan [(1, 1 / Float.sqrt 2)]))
      (by rw [Index.scores_vector, hsame]; rfl) (by simp [Index.build]) (by decide +kernel)
      (by rw [hsame]; decide +kernel)
    have hx : x = 1 / Float.sqrt 2 := by
      have hmem := List.mem_of_getElem? hpeak.at_row
      rw [hsame] at hmem
      simpa using hmem
    exact ⟨row, x, rfl, hnearest, hx ▸ by decide +kernel, hresult, hpeak⟩

end Retouch
