/-
  What retrieval returns.

  The best of some rows is one of them (`best?_mem`), so a nearest row is a row of the index, and the
  index of a corpus has as many rows as the corpus has entries: a corpus with entries always has a
  nearest one, and its row holds it.

  * `retrieve?_new_eq_none_iff`: only an empty corpus has no nearest entry;
  * `getElem?_of_retrieve?`: the nearest entry is the one in its row.
-/
import Mathlib.Data.List.Basic
import Retouch.Retrieval.Index

namespace Retouch

/-! ## The best of a list of rows -/

section Best

variable {S : Type} [LT S] [DecidableLT S] [BEq S] {rows : List (Nat × S)} {a b : Nat × S}

theorem better_eq_or_eq (a b : Nat × S) : better a b = a ∨ better a b = b := by
  rw [better]
  split
  · exact .inr rfl
  · exact .inl rfl

theorem foldl_better_mem (a : Nat × S) (rows : List (Nat × S)) :
    rows.foldl better a ∈ a :: rows := by
  induction rows generalizing a with
  | nil => exact List.mem_singleton_self a
  | cons b rows ih =>
    rw [List.foldl_cons]
    rcases List.mem_cons.1 (ih (better a b)) with h | h
    · rw [h]
      rcases better_eq_or_eq a b with h' | h' <;> simp [h']
    · exact List.mem_cons_of_mem _ (List.mem_cons_of_mem _ h)

theorem best?_mem (h : best? rows = some b) : b ∈ rows := by
  cases rows with
  | nil => exact absurd h (by simp [best?])
  | cons a rows =>
    obtain rfl := Option.some.inj h
    exact foldl_better_mem a rows

theorem best?_eq_none_iff : best? rows = none ↔ rows = [] := by
  cases rows with
  | nil => simp [best?]
  | cons a rows => simp [best?]

end Best

/-! ## Rows and entries -/

namespace Index

variable {i : Index} {c : Corpus} {t : Text}

@[simp]
theorem length_rows_build (c : Corpus) : (build c).rows.length = c.length := by
  simp [build]

@[simp]
theorem length_fingerprints_build (c : Corpus) : (build c).fingerprints.length = c.length := by
  simp [build]

theorem findIdx?_fingerprints_build (c : Corpus) (t : Text) :
    (build c).fingerprints.findIdx? (· == Source.fingerprintOf t) =
      c.findIdx? (Source.fingerprintOf ·.code == Source.fingerprintOf t) := by
  simp only [build, List.findIdx?_map, Function.comp_def]

theorem lt_length_of_mem_scores {v : SparseVector} {r : Nat × Float} (h : r ∈ i.scores v) :
    r.1 < i.rows.length := by
  obtain ⟨⟨w, row⟩, hmem, rfl⟩ := List.mem_map.1 h
  exact List.snd_lt_of_mem_zipIdx hmem

theorem scores_eq_nil_iff {v : SparseVector} : i.scores v = [] ↔ i.rows = [] := by
  simp [scores]

/-- Only an empty corpus has no nearest row. -/
theorem nearest?_build_eq_none_iff : (build c).nearest? t = none ↔ c = [] := by
  have hrows : (build c).rows = [] ↔ c = [] := by
    rw [← List.length_eq_zero_iff, length_rows_build, List.length_eq_zero_iff]
  rw [← hrows, nearest?]
  split
  · next hempty => simpa using hempty
  · next hempty =>
    dsimp only
    split
    · simpa using hempty
    · rw [best?_eq_none_iff, scores_eq_nil_iff]

/-- A nearest row is the row of an entry. -/
theorem lt_length_of_nearest?_build {r : Nat × Float} (h : (build c).nearest? t = some r) :
    r.1 < c.length := by
  rw [nearest?] at h
  split at h
  · exact absurd h (by simp)
  · dsimp only at h
    split at h
    · next row hrow =>
      obtain rfl := Option.some.inj h
      obtain ⟨hlt, -⟩ := List.findIdx?_eq_some_iff_getElem.1 hrow
      rwa [length_fingerprints_build] at hlt
    · rw [← length_rows_build c]
      exact lt_length_of_mem_scores (best?_mem h)

end Index

namespace Retriever

variable {r : Retriever} {c : Corpus} {t : Text} {n : Neighbour}

theorem retrieve?_eq_some_iff :
    r.retrieve? t = some n ↔
      r.index.nearest? t = some (n.index, n.score) ∧ r.corpus[n.index]? = some n.entry := by
  rw [retrieve?]
  constructor
  · intro h
    obtain ⟨⟨index, score⟩, hnear, h⟩ := Option.bind_eq_some_iff.1 h
    obtain ⟨entry, hentry, h⟩ := Option.bind_eq_some_iff.1 h
    obtain rfl := Option.some.inj h
    exact ⟨hnear, hentry⟩
  · rintro ⟨hnear, hentry⟩
    simp [hnear, hentry]

/-- The nearest entry is the one in its row. -/
theorem getElem?_of_retrieve? (h : r.retrieve? t = some n) : r.corpus[n.index]? = some n.entry :=
  (retrieve?_eq_some_iff.1 h).2

/-- Only an empty corpus has no nearest entry: a row that the index finds is never missing. -/
theorem retrieve?_new_eq_none_iff : (new c).retrieve? t = none ↔ c = [] := by
  constructor
  · intro h
    by_contra hne
    obtain ⟨⟨row, score⟩, hnear⟩ :=
      Option.ne_none_iff_exists'.1 (mt Index.nearest?_build_eq_none_iff.1 hne)
    have hlt : row < c.length := Index.lt_length_of_nearest?_build hnear
    have hsome : (new c).retrieve? t = some ⟨row, score, c.get ⟨row, hlt⟩⟩ :=
      retrieve?_eq_some_iff.2 ⟨hnear, List.getElem?_eq_getElem hlt⟩
    rw [h] at hsome
    exact absurd hsome (by simp)
  · rintro rfl
    rw [Option.eq_none_iff_forall_not_mem]
    intro n hn
    exact absurd (getElem?_of_retrieve? hn) (by simp [new])

end Retriever

end Retouch
