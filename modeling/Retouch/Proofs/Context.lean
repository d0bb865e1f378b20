/-
  The context that hunks show.

  With `c` edits of context, the hunks of a script show each edit that is at most `c` away from a
  change, and no other.  An edit that is not shown lies between any two of them, so they are the only
  ranges of this kind: ranges with gaps between them are determined by what they show.

  With as much context as the script has edits, all changes share one hunk, which is the whole script.
  The position that the context reaches behind the last change is computed before it is cut down to the
  script, so there is no hunk and no rendering if that position is no word.

  * `Separated.eq_of_shown_iff`: separated ranges that show the same edits are the same;
  * `showsContext_hunks`: the hunks of a script, and they alone, show exactly the context asked for;
  * `hunks_of_length_le`: the one hunk of a large context;
  * `unified?_of_length_le`: where a large context shows the whole script, and where it fails.
-/
import Mathlib.Data.List.Induction
import Retouch.Proofs.Patch

namespace Retouch

namespace Hunk

/-! ## Separated ranges -/

/-- Whether one of the ranges shows the edit at `i`. -/
def Shown (hs : List Hunk) (i : Nat) : Prop := ∃ h ∈ hs, h.Shows i

/-- The ranges are not empty and stand in order, with at least one edit between any two. -/
structure Separated (hs : List Hunk) : Prop where
  proper : ∀ h ∈ hs, h.start < h.stop
  gap : hs.Pairwise fun h h' => h.stop < h'.start

variable {a b : Hunk} {as bs : List Hunk} {i : Nat}

theorem shown_cons : Shown (a :: as) i ↔ a.Shows i ∨ Shown as i := List.exists_mem_cons_iff ..

theorem separated_cons :
    Separated (a :: as) ↔ a.start < a.stop ∧ (∀ h ∈ as, a.stop < h.start) ∧ Separated as := by
  constructor
  · rintro ⟨hproper, hgap⟩
    obtain ⟨ha, hproper⟩ := List.forall_mem_cons.1 hproper
    obtain ⟨hnext, hgap⟩ := List.pairwise_cons.1 hgap
    exact ⟨ha, hnext, hproper, hgap⟩
  · rintro ⟨ha, hnext, hproper, hgap⟩
    exact ⟨List.forall_mem_cons.2 ⟨ha, hproper⟩, List.pairwise_cons.2 ⟨hnext, hgap⟩⟩

/-- What the later ranges show lies behind the first one. -/
theorem Separated.stop_lt (ha : Separated (a :: as)) (hi : Shown as i) : a.stop < i := by
  obtain ⟨h, hh, hle, -⟩ := hi
  have := (separated_cons.1 ha).2.1 h hh
  omega

theorem Separated.shown_start (ha : Separated (a :: as)) : Shown (a :: as) a.start :=
  shown_cons.2 (.inl ⟨Nat.le_refl _, (separated_cons.1 ha).1⟩)

theorem Separated.start_le (ha : Separated (a :: as)) (hi : Shown (a :: as) i) : a.start ≤ i := by
  rcases shown_cons.1 hi with hi | hi
  · exact hi.1
  · have := ha.stop_lt hi
    have := (separated_cons.1 ha).1
    omega

theorem Separated.shown_tail_iff (ha : Separated (a :: as)) :
    Shown as i ↔ Shown (a :: as) i ∧ a.stop < i := by
  constructor
  · intro hi
    exact ⟨shown_cons.2 (.inr hi), ha.stop_lt hi⟩
  · rintro ⟨hi, hlt⟩
    rcases shown_cons.1 hi with hi | hi
    · exact absurd hi.2 (Nat.lt_asymm hlt)
    · exact hi

/-- The edit right behind a range is not shown. -/
theorem Separated.not_shown_stop (hs : Separated as) (ha : a ∈ as) : ¬ Shown as a.stop := by
  induction as with
  | nil => cases ha
  | cons b as ih =>
    intro hi
    rcases List.mem_cons.1 ha with rfl | ha
    · rcases shown_cons.1 hi with hi | hi
      · exact Nat.lt_irrefl _ hi.2
      · exact Nat.lt_irrefl _ (hs.stop_lt hi)
    · obtain ⟨-, hnext, hs'⟩ := separated_cons.1 hs
      have := hnext a ha
      have := hs'.proper a ha
      rcases shown_cons.1 hi with hi | hi
      · have := hi.2
        omega
      · exact ih hs' ha hi

theorem Separated.stop_le (hb : Separated (b :: bs)) (hstart : a.start ≤ b.start)
    (h : ∀ i, Shown (a :: as) i → Shown (b :: bs) i) : a.stop ≤ b.stop := by
  by_contra hlt
  have hb' := (separated_cons.1 hb).1
  refine hb.not_shown_stop List.mem_cons_self (h b.stop (shown_cons.2 (.inl ⟨?_, ?_⟩))) <;> omega

/-- **Separated ranges that show the same edits are the same ranges.** -/
theorem Separated.eq_of_shown_iff (ha : Separated as) (hb : Separated bs)
    (h : ∀ i, Shown as i ↔ Shown bs i) : as = bs := by
  induction as generalizing bs with
  | nil =>
    cases bs with
    | nil => rfl
    | cons b bs =>
      obtain ⟨k, hk, -⟩ := (h b.start).2 hb.shown_start
      cases hk
  | cons a as ih =>
    cases bs with
    | nil =>
      obtain ⟨k, hk, -⟩ := (h a.start).1 ha.shown_start
      cases hk
    | cons b bs =>
      -- the first ranges start with the first edit that is shown and end before the first gap
      have hstart : a.start = b.start := Nat.le_antisymm
        (ha.start_le ((h _).2 hb.shown_start)) (hb.start_le ((h _).1 ha.shown_start))
      have hstop : a.stop = b.stop := Nat.le_antisymm
        (hb.stop_le (Nat.le_of_eq hstart) fun i => (h i).1)
        (ha.stop_le (Nat.le_of_eq hstart.symm) fun i => (h i).2)
      have htail : as = bs := by
        refine ih (separated_cons.1 ha).2.2 (separated_cons.1 hb).2.2 fun i => ?_
        rw [ha.shown_tail_iff, hb.shown_tail_iff, h, hstop]
      have hfirst : a = b := by
        cases a
        cases b
        rw [Hunk.mk.injEq]
        exact ⟨hstart, hstop⟩
      rw [hfirst, htail]

end Hunk

namespace Script

open Hunk

/-! ## The context of changes -/

/-- The edit at `j` is a change. -/
def ChangesAt (s : Script) (j : Nat) : Prop := ∃ e, s[j]? = some e ∧ e.isChange = true

/-- The ranges `hs` show the changes of `s` with `c` edits on either side, and nothing else. -/
structure ShowsContext (s : Script) (c : Nat) (hs : List Hunk) : Prop where
  /-- No range is empty, and all lie in the script. -/
  inside : ∀ h ∈ hs, h.start < h.stop ∧ h.stop ≤ s.length
  /-- The ranges stand in order, and between any two there is an edit that is not shown. -/
  apart : hs.Pairwise fun h h' => ∃ i, h.stop ≤ i ∧ i < h'.start ∧ ¬ Shown hs i
  /-- Each range shows a change. -/
  change : ∀ h ∈ hs, ∃ j, s.ChangesAt j ∧ h.Shows j
  /-- An edit is shown exactly if a change is at most `c` away. -/
  shown_iff : ∀ i < s.length,
    Shown hs i ↔ ∃ j, s.ChangesAt j ∧ ((i : Int) - (j : Int)).natAbs ≤ c

theorem near_iff {c i j : Nat} : Near c i j ↔ ((i : Int) - (j : Int)).natAbs ≤ c := by
  rw [Near]
  omega

theorem ShowsContext.separated {s : Script} {c : Nat} {hs : List Hunk} (h : ShowsContext s c hs) :
    Separated hs := by
  refine ⟨fun k hk => (h.inside k hk).1, h.apart.imp ?_⟩
  rintro k k' ⟨i, hle, hlt, -⟩
  omega

theorem ShowsContext.lt_length {s : Script} {c i : Nat} {hs : List Hunk} (h : ShowsContext s c hs)
    (hi : Shown hs i) : i < s.length := by
  obtain ⟨k, hk, -, hlt⟩ := hi
  have := (h.inside k hk).2
  omega

/-- The hunks of a script show its changes with their context. -/
theorem showsContext_of_grouped {s : Script} {c : Nat} {hs : List Hunk}
    (h : Grouped s.length c s.changes hs.reverse) : ShowsContext s c hs := by
  have hsep : Separated hs :=
    ⟨fun k hk => (h.inside k (List.mem_reverse.2 hk)).1, by
      simpa using List.pairwise_reverse.1 h.apart⟩
  refine ⟨fun k hk => h.inside k (List.mem_reverse.2 hk), ?_, fun k hk => ?_, fun i hi => ?_⟩
  · exact hsep.gap.imp_of_mem fun {k k'} hk _ hlt =>
      ⟨k.stop, Nat.le_refl _, hlt, hsep.not_shown_stop hk⟩
  · obtain ⟨j, hj, hshows⟩ := h.change k (List.mem_reverse.2 hk)
    exact ⟨j, mem_changes.1 hj, hshows⟩
  · have hiff := h.shows_iff i
    simp only [List.mem_reverse, hi, true_and, mem_changes, near_iff] at hiff
    exact hiff

/-- **The hunks of a script show exactly the context asked for**, and they are the only ranges that
    do. -/
theorem showsContext_hunks (s : Script) {c : Nat} (hc : s.length + c < wordSize) :
    ∃ hs, s.hunks? c = some hs ∧ ShowsContext s c hs ∧ ∀ hs', ShowsContext s c hs' → hs' = hs := by
  have h := showsContext_of_grouped (s.grouped_hunks c)
  refine ⟨s.hunks c, hunks?_of_fits (fits_of_lt hc), h, fun hs hs' => ?_⟩
  refine hs'.separated.eq_of_shown_iff h.separated fun i => ?_
  by_cases hi : i < s.length
  · rw [hs'.shown_iff i hi, h.shown_iff i hi]
  · exact iff_of_false (mt hs'.lt_length hi) (mt h.lt_length hi)

/-- Two changes whose contexts touch, and a third one with a single edit between. -/
theorem showsContext_hunks_touching :
    ∃ s : Script, s = [.drop ['a'], .keep ['b'], .keep ['c'], .add ['d'], .keep ['e'], .keep ['f'],
        .keep ['g'], .add ['h']] ∧
      s.length + 1 < wordSize ∧ s.hunks? 1 = some [⟨0, 5⟩, ⟨6, 8⟩] ∧
      ShowsContext s 1 [⟨0, 5⟩, ⟨6, 8⟩] := by
  have hhunks : hunks? [.drop ['a'], .keep ['b'], .keep ['c'], .add ['d'], .keep ['e'], .keep ['f'],
      .keep ['g'], .add ['h']] 1 = some [⟨0, 5⟩, ⟨6, 8⟩] := by decide +kernel
  obtain ⟨hs, hsome, hshows, -⟩ := showsContext_hunks [.drop ['a'], .keep ['b'], .keep ['c'],
    .add ['d'], .keep ['e'], .keep ['f'], .keep ['g'], .add ['h']] (c := 1) (by decide)
  obtain rfl := Option.some.inj (hhunks.symm.trans hsome)
  exact ⟨_, rfl, by decide, hhunks, hshows⟩

/-! ## Large contexts -/

variable {s : Script} {c j : Nat}

theorem le_of_getLast?_changes (hj : s.changes.getLast? = some j) {i : Nat} (hi : i ∈ s.changes) :
    i ≤ j := by
  obtain ⟨js, hjs⟩ := List.getLast?_eq_some_iff.1 hj
  have hp := s.pairwise_changes
  rw [hjs] at hp hi
  rcases List.mem_append.1 hi with hi | hi
  · exact Nat.le_of_lt ((List.pairwise_append.1 hp).2.2 i hi j (List.mem_singleton_self j))
  · exact Nat.le_of_eq (List.mem_singleton.1 hi)

/-- Ranges that all start at the front become one, which ends where the last of them ends. -/
theorem foldl_join_of_start_eq_zero (hs : List Hunk) (h : ∀ k ∈ hs, k.start = 0) :
    hs.foldl join [] = hs.getLast?.toList := by
  induction hs using List.reverseRecOn with
  | nil => rfl
  | append_singleton hs k ih =>
    have hk : k.start = 0 := h k (by simp)
    rw [List.foldl_append, ih fun k' hk' => h k' (by simp [hk']), List.getLast?_concat]
    cases hlast : hs.getLast? with
    | none => rfl
    | some last =>
      have hzero : last.start = 0 := h last (by simp [List.mem_of_getLast? hlast])
      show join [last] k = [k]
      rw [join, if_pos (by omega), hzero, ← hk]

/-- With as much context as the script has edits, there is one hunk, the whole script. -/
theorem hunks_of_length_le (hj : s.changes.getLast? = some j) (hc : s.length ≤ c) :
    s.hunks c = [⟨0, s.length⟩] := by
  have hzero : ∀ k ∈ s.changes.map (around s.length c), k.start = 0 := by
    intro k hk
    obtain ⟨i, hi, rfl⟩ := List.mem_map.1 hk
    have := lt_length_of_mem_changes hi
    simp only [around]
    omega
  have hlast : around s.length c j = ⟨0, s.length⟩ := by
    have := lt_length_of_mem_changes (List.mem_of_getLast? hj)
    rw [around, Nat.sub_eq_zero_of_le (by omega), Nat.min_eq_right (by omega)]
  rw [hunks, foldl_join_of_start_eq_zero _ hzero, List.getLast?_map, hj, Option.map_some, hlast]
  rfl

/-- The position behind the last change is the greatest. -/
theorem fits_iff_of_getLast? (hj : s.changes.getLast? = some j) :
    s.Fits c ↔ j + 1 + c < wordSize := by
  refine ⟨fun h => h j (List.mem_of_getLast? hj), fun h i hi => ?_⟩
  have := le_of_getLast?_changes hj hi
  omega

/-- **Where a large context shows the whole script.**  With at least as much context as the script has
    edits, the rendering is that of one hunk with the whole script, the same for all such contexts, as
    long as the position that the context reaches behind the last change, at `j`, is a word.  Beyond
    that there are neither hunks nor a rendering, though the script ends before that position. -/
theorem unified?_of_length_le (hj : s.changes.getLast? = some j) (hc : s.length ≤ c) (label : Text) :
    s.hunks? c = (if j + 1 + c < wordSize then some [⟨0, s.length⟩] else none) ∧
      s.unified? label c =
        (if j + 1 + c < wordSize then some (s.unifiedWith label [⟨0, s.length⟩]) else none) ∧
      (s.unified? label c = some (s.unifiedWith label [⟨0, s.length⟩]) ↔
        ∀ i ∈ s.changes, i + 1 + c < wordSize) := by
  have hchanged := isUnchanged_of_mem_changes (List.mem_of_getLast? hj)
  have hunified : s.unified? label c =
      if j + 1 + c < wordSize then some (s.unifiedWith label [⟨0, s.length⟩]) else none := by
    rw [unified?_eq_ite, hchanged, if_neg Bool.false_ne_true, hunks_of_length_le hj hc]
    exact if_congr (fits_iff_of_getLast? hj) rfl rfl
  refine ⟨?_, hunified, ?_⟩
  · rw [hunks?_eq_ite, hunks_of_length_le hj hc]
    exact if_congr (fits_iff_of_getLast? hj) rfl rfl
  · rw [hunified, ← Fits, fits_iff_of_getLast? hj]
    split
    · next h => exact iff_of_true rfl h
    · next h => exact iff_of_false (by simp) h

/-- The greatest context that shows a dropped line with the kept line behind it, and the next one,
    which is too large. -/
theorem unified?_of_length_le_dropped_line :
    ∃ s : Script, s = [.drop ['a'], .keep ['b']] ∧ s.changes.getLast? = some 0 ∧
      s.length ≤ wordSize - 2 ∧ s.length ≤ wordSize - 1 ∧ wordSize - 1 < wordSize ∧
      s.unified? ['x'] (wordSize - 2) = some (s.unifiedWith ['x'] [⟨0, s.length⟩]) ∧
      s.hunks? (wordSize - 1) = none ∧ s.unified? ['x'] (wordSize - 1) = none := by
  have hfits := unified?_of_length_le (s := [.drop ['a'], .keep ['b']]) (c := wordSize - 2) rfl
    (by decide) ['x']
  have hover := unified?_of_length_le (s := [.drop ['a'], .keep ['b']]) (c := wordSize - 1) rfl
    (by decide) ['x']
  exact ⟨_, rfl, rfl, by decide, by decide, by decide, hfits.2.2.2 (by decide),
    hover.1.trans (if_neg (by decide)), hover.2.1.trans (if_neg (by decide))⟩

/-- A changed line with the greatest context there is: the script has two edits, and yet there is no
    rendering of it. -/
theorem unified?_greatest_context :
    ∃ s : Script, s = between ['a', '\n'] ['b', '\n'] ∧ s.isUnchanged = false ∧
      s.length ≤ wordSize - 1 ∧ wordSize - 1 < wordSize ∧
      ¬ (∀ i ∈ s.changes, i + 1 + (wordSize - 1) < wordSize) ∧
      s.unified? ['x'] (wordSize - 1) = none ∧
      s.unified? ['x'] (wordSize - 1) ≠ some (s.unifiedWith ['x'] [⟨0, s.length⟩]) := by
  have hscript : between ['a', '\n'] ['b', '\n'] = [.drop ['a', '\n'], .add ['b', '\n']] := by
    decide +kernel
  refine ⟨_, hscript.symm, ?_, ?_, ?_, ?_, ?_, ?_⟩ <;> decide +kernel

end Script

end Retouch
