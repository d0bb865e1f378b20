/-
  The hunks of a script.

  `Grouped` says what the ranges made from the changes so far are like: they are not empty, they lie
  in the script, each ends before the next one starts with at least one edit between them, each
  holds a change, and together they show the edits that are near a change.

  * `Grouped.join`: what one more change does to the ranges;
  * `grouped_hunks`: what the changes of a whole script lead to;
  * `laid_hunks`: the hunks cut a script into gaps of kept lines and runs of edits;
  * `hunks?_eq_ite`: a script has these hunks unless a position overflows.
-/
import Mathlib.Data.List.Basic
import Retouch.Edit.Unified

namespace Retouch

namespace Hunk

/-- Whether the hunk shows the edit at `i`. -/
def Shows (h : Hunk) (i : Nat) : Prop := h.start ≤ i ∧ i < h.stop

/-- The edits at `i` and `j` are at most `c` apart. -/
def Near (c i j : Nat) : Prop := j ≤ i + c ∧ i ≤ j + c

/-- The ranges `hs`, in reverse order, that come from the changes at `js` in a script of `size`
    edits, each with `c` edits on either side. -/
structure Grouped (size c : Nat) (js : List Nat) (hs : List Hunk) : Prop where
  inside : ∀ h ∈ hs, h.start < h.stop ∧ h.stop ≤ size
  apart : hs.Pairwise fun h h' => h'.stop < h.start
  change : ∀ h ∈ hs, ∃ j ∈ js, h.Shows j
  shows_iff : ∀ i, (∃ h ∈ hs, h.Shows i) ↔ i < size ∧ ∃ j ∈ js, Near c i j

variable {size c : Nat} {js : List Nat} {hs : List Hunk}

theorem grouped_nil (size c : Nat) : Grouped size c [] [] :=
  ⟨by simp, List.Pairwise.nil, by simp, by simp⟩

theorem exists_mem_snoc {j : Nat} {p : Nat → Prop} :
    (∃ k ∈ js ++ [j], p k) ↔ (∃ k ∈ js, p k) ∨ p j := by
  simp only [List.mem_append, List.mem_singleton, or_and_right, exists_or, exists_eq_left]

/-- A change that is far from the other hunks opens a new one. -/
theorem Grouped.push (h : Grouped size c js hs) {j : Nat} (hj : j < size)
    (hfar : ∀ h ∈ hs, h.stop < j - c) :
    Grouped size c (js ++ [j]) (⟨j - c, min (j + 1 + c) size⟩ :: hs) := by
  refine ⟨List.forall_mem_cons.2 ⟨?_, h.inside⟩, List.pairwise_cons.2 ⟨hfar, h.apart⟩,
    List.forall_mem_cons.2 ⟨?_, ?_⟩, fun i => ?_⟩
  · exact ⟨by simp only; omega, Nat.min_le_right _ _⟩
  · exact exists_mem_snoc.2 (Or.inr (by simp only [Shows]; omega))
  · exact fun k hk => exists_mem_snoc.2 (Or.inl (h.change k hk))
  · have hnew : Shows ⟨j - c, min (j + 1 + c) size⟩ i ↔ i < size ∧ Near c i j := by
      simp only [Shows, Near]
      omega
    rw [List.exists_mem_cons_iff, hnew, h.shows_iff, exists_mem_snoc, ← and_or_left, or_comm]

/-- A change that is near the last hunk extends it. -/
theorem Grouped.extend {last : Hunk} (h : Grouped size c js (last :: hs)) {j : Nat} (hj : j < size)
    (hlt : ∀ j' ∈ js, j' < j) (hnear : j - c ≤ last.stop) :
    Grouped size c (js ++ [j]) (⟨last.start, min (j + 1 + c) size⟩ :: hs) := by
  obtain ⟨⟨hin, hsize⟩, hinside⟩ := List.forall_mem_cons.1 h.inside
  obtain ⟨⟨j₀, hj₀, hs₀⟩, hchange⟩ := List.forall_mem_cons.1 h.change
  have hj₀lt := hlt j₀ hj₀
  -- the last hunk ends no later than the new change asks for
  have hstop : last.stop ≤ j + c := by
    obtain ⟨-, j', hj', hn⟩ := (h.shows_iff (last.stop - 1)).1
      ⟨last, List.mem_cons_self, by simp only [Shows]; omega⟩
    have := hlt j' hj'
    simp only [Near] at hn
    omega
  simp only [Shows] at hs₀
  refine ⟨List.forall_mem_cons.2 ⟨?_, hinside⟩,
    List.pairwise_cons.2 (List.pairwise_cons.1 h.apart),
    List.forall_mem_cons.2 ⟨?_, ?_⟩, fun i => ?_⟩
  · exact ⟨by simp only; omega, Nat.min_le_right _ _⟩
  · exact exists_mem_snoc.2 (Or.inl ⟨j₀, hj₀, by simp only [Shows]; omega⟩)
  · exact fun k hk => exists_mem_snoc.2 (Or.inl (hchange k hk))
  · have hnew : Shows ⟨last.start, min (j + 1 + c) size⟩ i ↔
        last.Shows i ∨ last.start ≤ i ∧ i < size ∧ Near c i j := by
      simp only [Shows, Near]
      omega
    -- in front of the last hunk, an edit near the new change is near one that the hunk holds
    have hfront : ¬ last.start ≤ i → Near c i j → Near c i j₀ := by
      simp only [Near]
      omega
    have hold := h.shows_iff i
    rw [List.exists_mem_cons_iff] at hold ⊢
    rw [hnew, exists_mem_snoc]
    constructor
    · rintro ((hi | ⟨-, hi, hn⟩) | hi)
      · obtain ⟨hi, hn⟩ := hold.1 (Or.inl hi)
        exact ⟨hi, Or.inl hn⟩
      · exact ⟨hi, Or.inr hn⟩
      · obtain ⟨hi, hn⟩ := hold.1 (Or.inr hi)
        exact ⟨hi, Or.inl hn⟩
    · rintro ⟨hi, hn | hn⟩
      · exact (hold.2 ⟨hi, hn⟩).imp_left Or.inl
      · by_cases hl : last.start ≤ i
        · exact Or.inl (Or.inr ⟨hl, hi, hn⟩)
        · exact (hold.2 ⟨hi, j₀, hj₀, hfront hl hn⟩).imp_left Or.inl

/-- **One more change, behind all the others.** -/
theorem Grouped.join (h : Grouped size c js hs) {j : Nat} (hj : j < size)
    (hlt : ∀ j' ∈ js, j' < j) :
    Grouped size c (js ++ [j]) (Hunk.join hs (around size c j)) := by
  rw [around]
  cases hs with
  | nil => exact h.push hj (by simp)
  | cons last hs =>
    rw [Hunk.join]
    split
    · next hnear => exact h.extend hj hlt hnear
    · next hfar =>
      have hfar : last.stop < j - c := Nat.lt_of_not_le hfar
      have hin := (h.inside last List.mem_cons_self).1
      refine h.push hj (List.forall_mem_cons.2 ⟨hfar, fun k hk => ?_⟩)
      have hk := (List.pairwise_cons.1 h.apart).1 k hk
      omega

theorem Grouped.foldl_join (js' : List Nat) :
    ∀ {js hs}, Grouped size c js hs → (∀ j ∈ js', j < size) → (js ++ js').Pairwise (· < ·) →
      Grouped size c (js ++ js') ((js'.map (around size c)).foldl Hunk.join hs) := by
  induction js' with
  | nil =>
    intro js hs h _ _
    simpa using h
  | cons j js' ih =>
    intro js hs h hlt hp
    have hj : ∀ i ∈ js, i < j := fun i hi =>
      (List.pairwise_append.1 hp).2.2 i hi j List.mem_cons_self
    obtain ⟨hjs, hlt⟩ := List.forall_mem_cons.1 hlt
    rw [List.append_cons] at hp ⊢
    exact ih (h.join hjs hj) hlt hp

end Hunk

namespace Script

/-! ## The hunks of a script -/

theorem mem_changes {s : Script} {i : Nat} :
    i ∈ s.changes ↔ ∃ e, s[i]? = some e ∧ e.isChange = true := by
  simp only [changes, List.mem_map, List.mem_filter, Prod.exists, List.mem_zipIdx_iff_getElem?]
  constructor
  · rintro ⟨e, j, ⟨he, hc⟩, rfl⟩
    exact ⟨e, he, hc⟩
  · rintro ⟨e, he, hc⟩
    exact ⟨e, i, ⟨he, hc⟩, rfl⟩

theorem lt_length_of_mem_changes {s : Script} {i : Nat} (h : i ∈ s.changes) : i < s.length := by
  obtain ⟨e, he, -⟩ := mem_changes.1 h
  exact (List.getElem?_eq_some_iff.1 he).1

theorem isUnchanged_of_mem_changes {s : Script} {i : Nat} (h : i ∈ s.changes) :
    s.isUnchanged = false := by
  obtain ⟨e, he, hc⟩ := mem_changes.1 h
  rw [isUnchanged, Bool.not_eq_false', List.any_eq_true]
  exact ⟨e, List.mem_of_getElem? he, hc⟩

theorem pairwise_changes (s : Script) : s.changes.Pairwise (· < ·) := by
  have h : (s.zipIdx.map (·.2)).Pairwise (· < ·) := by
    rw [List.zipIdx_map_snd]
    exact List.pairwise_lt_range'
  exact h.sublist (List.filter_sublist.map _)

/-- The hunks of a script, in order, whether or not their positions are words. -/
def hunks (s : Script) (c : Nat) : List Hunk :=
  ((s.changes.map (Hunk.around s.length c)).foldl Hunk.join []).reverse

/-- **The hunks of a script** are apart, hold a change each, and show what is near a change. -/
theorem grouped_hunks (s : Script) (c : Nat) :
    Hunk.Grouped s.length c s.changes (s.hunks c).reverse := by
  rw [hunks, List.reverse_reverse]
  have h := (Hunk.grouped_nil s.length c).foldl_join s.changes
    (fun _ => lt_length_of_mem_changes) (by simpa using s.pairwise_changes)
  simpa using h

/-! ## Hunks and gaps -/

/-- `Laid pre rest hs`: behind the edits `pre` come the edits `rest`, in which the hunks `hs` stand
    in order, each a range of edits behind a gap of kept lines. -/
inductive Laid : Script → Script → List Hunk → Prop
  | nil {pre rest} : (∀ e ∈ rest, e.isChange = false) → Laid pre rest []
  | cons {pre gap body rest hs} : (∀ e ∈ gap, e.isChange = false) →
      Laid (pre ++ gap ++ body) rest hs →
      Laid pre (gap ++ (body ++ rest))
        (⟨(pre ++ gap).length, (pre ++ gap ++ body).length⟩ :: hs)

theorem exists_append_of_le {s : List Edit} {n : Nat} (h : n ≤ s.length) :
    ∃ front back, s = front ++ back ∧ front.length = n :=
  ⟨s.take n, s.drop n, (List.take_append_drop n s).symm, List.length_take_of_le h⟩

/-- No change stands in a part of a script that has none of the positions of changes. -/
theorem not_isChange_of_mem (pre post : Script) {mid : Script}
    (h : ∀ i ∈ changes (pre ++ (mid ++ post)), pre.length ≤ i → (pre ++ mid).length ≤ i) :
    ∀ e ∈ mid, e.isChange = false := by
  intro e he
  rw [Bool.eq_false_iff]
  intro hc
  obtain ⟨k, hk⟩ := List.getElem?_of_mem he
  have hlt := (List.getElem?_eq_some_iff.1 hk).1
  have hmem : pre.length + k ∈ changes (pre ++ (mid ++ post)) := by
    refine mem_changes.2 ⟨e, ?_, hc⟩
    rw [List.getElem?_append_right (Nat.le_add_right _ _), Nat.add_sub_cancel_left,
      List.getElem?_append_left hlt, hk]
  have hle := h _ hmem (Nat.le_add_right _ _)
  rw [List.length_append] at hle
  omega

/-- Hunks that are apart and show all changes are laid out with nothing but kept lines between
    them. -/
theorem laid_of_shows (hs : List Hunk) : ∀ {pre rest : Script},
    hs.Pairwise (fun h h' => h.stop < h'.start) →
    (∀ h ∈ hs, pre.length ≤ h.start ∧ h.start < h.stop ∧ h.stop ≤ (pre ++ rest).length) →
    (∀ i ∈ changes (pre ++ rest), pre.length ≤ i → ∃ h ∈ hs, h.Shows i) →
    Laid pre rest hs := by
  induction hs with
  | nil =>
    intro pre rest _ _ hshows
    refine .nil (not_isChange_of_mem pre [] fun i hi hle => ?_)
    rw [List.append_nil] at hi
    simpa using hshows i hi hle
  | cons h hs ih =>
    intro pre rest hapart hin hshows
    obtain ⟨hnext, hapart⟩ := List.pairwise_cons.1 hapart
    obtain ⟨⟨hstart, hlt, hstop⟩, hin⟩ := List.forall_mem_cons.1 hin
    simp only [List.exists_mem_cons_iff] at hshows
    rw [List.length_append] at hstop
    obtain ⟨gap, tail, rfl, hgap⟩ := exists_append_of_le (s := rest) (n := h.start - pre.length)
      (by omega)
    rw [List.length_append] at hstop
    obtain ⟨body, rest, rfl, hbody⟩ := exists_append_of_le (s := tail) (n := h.stop - h.start)
      (by omega)
    have h₁ : (pre ++ gap).length = h.start := by rw [List.length_append]; omega
    have h₂ : (pre ++ gap ++ body).length = h.stop := by rw [List.length_append]; omega
    have hall : pre ++ gap ++ body ++ rest = pre ++ (gap ++ (body ++ rest)) := by
      simp only [List.append_assoc]
    have hh : h = ⟨(pre ++ gap).length, (pre ++ gap ++ body).length⟩ := by rw [h₁, h₂]
    rw [hh]
    refine .cons (not_isChange_of_mem pre (body ++ rest) fun i hi hle => ?_) (ih hapart ?_ ?_)
    · rw [h₁]
      rcases hshows i hi hle with hik | ⟨k, hk, hik⟩
      · exact hik.1
      · have := hnext k hk
        have := hik.1
        omega
    · intro k hk
      rw [hall, h₂]
      exact ⟨Nat.le_of_lt (hnext k hk), (hin k hk).2⟩
    · intro i hi hle
      rw [hall] at hi
      rw [h₂] at hle
      rcases hshows i hi (by omega) with hik | hik
      · exact absurd hik.2 (Nat.not_lt.2 hle)
      · exact hik

/-- **The hunks of a script, laid out.**  Between them and around them nothing changes. -/
theorem laid_hunks (s : Script) (c : Nat) : Laid [] s (s.hunks c) := by
  have hg := s.grouped_hunks c
  refine laid_of_shows _ ?_ (fun h hh => ?_) (fun i hi _ => ?_)
  · simpa using List.pairwise_reverse.1 hg.apart
  · obtain ⟨hlt, hle⟩ := hg.inside h (by simpa using hh)
    exact ⟨Nat.zero_le _, hlt, hle⟩
  · have hself : Hunk.Near c i i := ⟨Nat.le_add_right _ _, Nat.le_add_right _ _⟩
    obtain ⟨h, hh, hs⟩ := (hg.shows_iff i).2 ⟨lt_length_of_mem_changes hi, i, hi, hself⟩
    exact ⟨h, by simpa using hh, hs⟩

/-! ## Overflow -/

theorem mapM_ite {α β : Type} (p : α → Prop) [DecidablePred p] (f : α → β) (l : List α) :
    (l.mapM fun a => if p a then some (f a) else none) =
      if ∀ a ∈ l, p a then some (l.map f) else none := by
  induction l with
  | nil => rfl
  | cons a l ih =>
    rw [List.mapM_cons, ih, List.map_cons]
    by_cases ha : p a
    · simp only [ha, if_true, List.forall_mem_cons, true_and]
      split <;> rfl
    · simp [ha]

/-- With `c` edits of context, the positions behind all changes are words. -/
def Fits (s : Script) (c : Nat) : Prop := ∀ i ∈ s.changes, i + 1 + c < wordSize

instance (s : Script) (c : Nat) : Decidable (s.Fits c) :=
  inferInstanceAs (Decidable (∀ i ∈ s.changes, i + 1 + c < wordSize))

theorem fits_of_lt {s : Script} {c : Nat} (h : s.length + c < wordSize) : s.Fits c := by
  intro i hi
  have := lt_length_of_mem_changes hi
  omega

/-- **A script has hunks unless a position overflows.** -/
theorem hunks?_eq_ite (s : Script) (c : Nat) :
    s.hunks? c = if s.Fits c then some (s.hunks c) else none := by
  have hranges : s.changes.mapM (Hunk.around? s.length c) =
      if s.Fits c then some (s.changes.map (Hunk.around s.length c)) else none :=
    mapM_ite (fun i => i + 1 + c < wordSize) _ _
  rw [hunks?, hranges]
  split <;> rfl

theorem hunks?_of_fits {s : Script} {c : Nat} (h : s.Fits c) : s.hunks? c = some (s.hunks c) := by
  rw [hunks?_eq_ite, if_pos h]

/-- **A script has a rendering unless a position overflows.** -/
theorem unified?_eq_ite (s : Script) (label : Text) (c : Nat) :
    s.unified? label c = if s.Fits c then
      some (if s.isUnchanged then [] else s.unifiedWith label (s.hunks c)) else none := by
  rw [unified?, hunks?_eq_ite]
  by_cases h : s.isUnchanged = true
  · have hfits : s.Fits c := fun i hi => absurd h (by simp [isUnchanged_of_mem_changes hi])
    rw [if_pos h, if_pos hfits, if_pos h]
  · rw [if_neg h, if_neg h]
    split <;> rfl

end Script

end Retouch
