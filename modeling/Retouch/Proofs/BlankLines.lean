/-
  Removal of blank lines, line by line.

  A newline is kept and the blank lines after it go.  With one blank line at a time this gives three
  equations: a character that is no newline is copied (`dropBlankLines_cons`), so is a newline that no
  blank line follows (`dropBlankLines_newline`), and a blank line after a newline goes
  (`dropBlankLines_blank`).

  * `blankFree_dropBlankLines`: no blank line is left between two newlines;
  * `dropBlankLines_eq_self`: a text without such lines stays as it is;
  * `collapseBlankLines_apply`: on the lines of a text the removal is a filter, which the first and the
    last line pass in any case.
-/
import Mathlib.Data.List.Basic
import Retouch.Pass.BlankLines
import Retouch.Proofs.Lines
import Retouch.Proofs.Scanning

namespace Retouch.Pass

open Text

/-! ## Blank lines -/

/-- A blank line with its newline stands in front. -/
def OpensBlank (t : Text) : Prop := ∃ pad r, t = pad ++ '\n' :: r ∧ ∀ c ∈ pad, isPadding c = true

/-- The blank lines in front of a text, with their newlines. -/
def blankLines (t : Text) : Text :=
  dropEndWhile (· != '\n') (t.takeWhile fun c => isPadding c || c == '\n')

theorem dropEndWhile_append_cons {p : Char → Bool} {c : Char} (hc : p c = false) (u v : Text) :
    dropEndWhile p (u ++ c :: v) = u ++ c :: dropEndWhile p v := by
  have hstop : (c :: u.reverse).dropWhile p = c :: u.reverse :=
    List.dropWhile_cons_of_neg (by rw [hc]; decide)
  have hdrop : (v.reverse ++ c :: u.reverse).dropWhile p =
      v.reverse.dropWhile p ++ c :: u.reverse := by
    rw [List.dropWhile_append, hstop]
    split
    · next hnil => rw [List.isEmpty_iff.1 hnil, List.nil_append]
    · rfl
  simp [dropEndWhile, hdrop]

theorem dropEndWhile_eq_nil {p : Char → Bool} {t : Text} (h : ∀ c ∈ t, p c = true) :
    dropEndWhile p t = [] := by
  have hall : ∀ c ∈ t.reverse, p c = true := fun c hc => h c (List.mem_reverse.1 hc)
  rw [dropEndWhile, ← List.append_nil t.reverse, List.dropWhile_append_of_pos hall]
  rfl

/-- One blank line and those after it. -/
theorem blankLines_append {pad : Text} (hpad : ∀ c ∈ pad, isPadding c = true) (r : Text) :
    blankLines (pad ++ '\n' :: r) = pad ++ '\n' :: blankLines r := by
  have hgap : ∀ c ∈ pad, (isPadding c || c == '\n') = true := by
    intro c hc
    rw [hpad c hc, Bool.true_or]
  rw [blankLines, List.takeWhile_append_of_pos hgap, List.takeWhile_cons_of_pos (by decide)]
  exact dropEndWhile_append_cons (by decide) pad _

theorem blankLines_eq_nil {t : Text} (h : ¬ OpensBlank t) : blankLines t = [] := by
  refine dropEndWhile_eq_nil fun c hc => ?_
  rw [bne_iff_ne]
  rintro rfl
  -- the first newline among the padding ends a blank line
  obtain ⟨pad, r, hpad, hnot⟩ := List.eq_append_cons_of_mem hc
  refine h ⟨pad, r ++ t.dropWhile fun c => isPadding c || c == '\n', ?_, fun c hc => ?_⟩
  · rw [← List.cons_append, ← List.append_assoc, ← hpad, List.takeWhile_append_dropWhile]
  · have hgap := List.all_eq_true.1 (List.all_takeWhile (p := fun c => isPadding c || c == '\n')
      (l := t)) c (by rw [hpad]; exact List.mem_append_left _ hc)
    rcases Bool.or_eq_true_iff.1 hgap with hc' | hc'
    · exact hc'
    · rw [beq_iff_eq.1 hc'] at hc
      exact absurd hc hnot

/-! ## The scan -/

theorem isFree_blankLinesPattern : Matcher.IsFree blankLinesPattern.read? :=
  Pattern.isFree_read? (by simp [blankLinesPattern, Piece.lit])

@[simp]
theorem dropBlankLines_nil : dropBlankLines [] = [] := Matcher.replaceAll_nil

theorem dropBlankLines_cons {c : Char} (hc : c ≠ '\n') (r : Text) :
    dropBlankLines (c :: r) = c :: dropBlankLines r := by
  refine Matcher.replaceAll_cons isFree_blankLinesPattern ?_
  refine Pattern.read?_cons_of_eq_none (Piece.take?_word_eq_none ?_)
  simpa [List.cons_prefix_cons] using hc.symm

/-- After a newline the scan goes on behind the blank lines. -/
theorem dropBlankLines_newline_eq (r : Text) :
    dropBlankLines ('\n' :: r) = '\n' :: dropBlankLines (r.drop (blankLines r).length) := by
  have hword : (Piece.lit "\n").take? none ('\n' :: r) = some (['\n'], r) := Piece.take?_word ['\n'] r
  have hrun : Piece.take? (some '\n') r (.runTo (fun c => isPadding c || c == '\n') '\n') =
      if (blankLines r).isEmpty then none
      else some (blankLines r, r.drop (blankLines r).length) := rfl
  by_cases hnil : blankLines r = []
  · have hread : blankLinesPattern.read? none ('\n' :: r) = none := by
      simp [blankLinesPattern, Pattern.read?, hword, hrun, hnil]
    rw [hnil]
    exact Matcher.replaceAll_cons isFree_blankLinesPattern hread
  · have hread : blankLinesPattern.read? none ('\n' :: r) =
        some ⟨[['\n'], blankLines r], r.drop (blankLines r).length⟩ := by
      simp [blankLinesPattern, Pattern.read?, hword, hrun, hnil]
    refine Matcher.replaceAll_of_eq_some isFree_blankLinesPattern hread ?_
    rw [List.length_drop, List.length_cons]
    omega

/-- A newline is copied if no blank line follows it. -/
theorem dropBlankLines_newline {r : Text} (h : ¬ OpensBlank r) :
    dropBlankLines ('\n' :: r) = '\n' :: dropBlankLines r := by
  rw [dropBlankLines_newline_eq, blankLines_eq_nil h]
  rfl

/-- A blank line after a newline goes. -/
theorem dropBlankLines_blank {pad : Text} (hpad : ∀ c ∈ pad, isPadding c = true) (r : Text) :
    dropBlankLines ('\n' :: (pad ++ '\n' :: r)) = dropBlankLines ('\n' :: r) := by
  have hdrop : (pad ++ '\n' :: r).drop (pad ++ '\n' :: blankLines r).length =
      r.drop (blankLines r).length := by
    have hlength : (pad ++ '\n' :: blankLines r).length =
        (pad ++ ['\n']).length + (blankLines r).length := by
      simp only [List.length_append, List.length_cons, List.length_nil]
      omega
    rw [hlength, ← List.drop_drop, List.append_cons pad '\n' r, List.drop_left]
  rw [dropBlankLines_newline_eq, dropBlankLines_newline_eq, blankLines_append hpad, hdrop]

/-! ## Texts without blank lines -/

/-- No blank line stands between two newlines. -/
def BlankFree (t : Text) : Prop := ∀ a r, t = a ++ '\n' :: r → ¬ OpensBlank r

namespace BlankFree

variable {c : Char} {r : Text}

theorem of_cons (h : BlankFree (c :: r)) : BlankFree r := by
  intro a s hr
  exact h (c :: a) s (by rw [hr, List.cons_append])

theorem cons (h : BlankFree r) (hc : c = '\n' → ¬ OpensBlank r) : BlankFree (c :: r) := by
  intro a s hr
  cases a with
  | nil =>
    obtain ⟨rfl, rfl⟩ := List.cons.inj hr
    exact hc rfl
  | cons d a => exact h a s (List.cons.inj hr).2

end BlankFree

theorem dropBlankLines_eq_self {t : Text} (h : BlankFree t) : dropBlankLines t = t := by
  induction t with
  | nil => exact dropBlankLines_nil
  | cons c r ih =>
    by_cases hc : c = '\n'
    · subst hc
      rw [dropBlankLines_newline (h [] r rfl), ih h.of_cons]
    · rw [dropBlankLines_cons hc, ih h.of_cons]

theorem OpensBlank.cons {c : Char} (hc : isPadding c = true) {r : Text} (h : OpensBlank r) :
    OpensBlank (c :: r) := by
  obtain ⟨pad, s, rfl, hpad⟩ := h
  exact ⟨c :: pad, s, rfl, List.forall_mem_cons.2 ⟨hc, hpad⟩⟩

/-- No blank line comes up in front where there was none. -/
theorem opensBlank_of_dropBlankLines {t : Text} (h : OpensBlank (dropBlankLines t)) :
    OpensBlank t := by
  obtain ⟨pad, r, heq, hpad⟩ := h
  induction pad generalizing t with
  | nil =>
    cases t with
    | nil => exact absurd heq (by simp)
    | cons c t =>
      by_cases hc : c = '\n'
      · subst hc
        exact ⟨[], t, rfl, by simp⟩
      · rw [dropBlankLines_cons hc] at heq
        exact absurd (List.cons.inj heq).1 hc
  | cons d pad ih =>
    rw [List.forall_mem_cons] at hpad
    cases t with
    | nil => exact absurd heq (by simp)
    | cons c t =>
      by_cases hc : c = '\n'
      · subst hc
        rw [dropBlankLines_newline_eq] at heq
        obtain rfl := (List.cons.inj heq).1
        exact absurd hpad.1 (by decide)
      · rw [dropBlankLines_cons hc] at heq
        obtain ⟨rfl, heq'⟩ := List.cons.inj heq
        exact (ih heq' hpad.2).cons hpad.1

/-- **All blank lines go.** -/
theorem blankFree_dropBlankLines (t : Text) : BlankFree (dropBlankLines t) :=
  match t with
  | [] => by
    rw [dropBlankLines_nil]
    intro a r ha
    exact absurd ha (by simp)
  | c :: r => by
    by_cases hc : c = '\n'
    · by_cases hblank : OpensBlank r
      · obtain ⟨pad, s, hr, hpad⟩ := hblank
        have hlt : ('\n' :: s).length < (c :: r).length := by
          rw [hr]
          simp only [List.length_cons, List.length_append]
          omega
        rw [hc, hr, dropBlankLines_blank hpad]
        exact blankFree_dropBlankLines ('\n' :: s)
      · rw [hc, dropBlankLines_newline hblank]
        exact (blankFree_dropBlankLines r).cons fun _ => mt opensBlank_of_dropBlankLines hblank
    · rw [dropBlankLines_cons hc]
      exact (blankFree_dropBlankLines r).cons fun h => absurd h hc
termination_by t.length
decreasing_by
  · exact hlt
  · simp
  · simp

/-! ## The lines that stay -/

/-- A line with a character other than a space or a tab. -/
def holdsText (l : Text) : Bool := l.any fun c => !isPadding c

/-- Lines without the blank ones among them; the last line stays in any case. -/
def thinned (ls : List Text) : List Text := ls.dropLast.filter holdsText ++ ls.getLast?.toList

/-- Lines without the blank ones between the first and the last. -/
def thinnedInside : List Text → List Text
  | [] => []
  | l :: ls => l :: thinned ls

theorem thinned_cons_cons (l l' : Text) (ls : List Text) :
    thinned (l :: l' :: ls) = if holdsText l then l :: thinned (l' :: ls) else thinned (l' :: ls) := by
  rw [thinned, thinned, List.dropLast_cons_cons, List.getLast?_cons_cons, List.filter_cons]
  split <;> rfl

theorem thinned_ne_nil {ls : List Text} (h : ls ≠ []) : thinned ls ≠ [] := by
  rw [thinned, List.getLast?_eq_some_getLast h]
  simp

theorem mem_of_mem_thinned {l : Text} {ls : List Text} (h : l ∈ thinned ls) : l ∈ ls := by
  rcases List.mem_append.1 h with h | h
  · exact List.dropLast_subset ls (List.mem_of_mem_filter h)
  · exact List.mem_of_getLast? (Option.mem_toList.1 h)

/-- Only blank lines are missing. -/
theorem filter_holdsText_thinned (ls : List Text) :
    (thinned ls).filter holdsText = ls.filter holdsText := by
  rcases List.eq_nil_or_concat ls with rfl | ⟨ls, l, rfl⟩
  · rfl
  · rw [List.concat_eq_append, thinned, List.dropLast_concat, List.getLast?_concat,
      List.filter_append, List.filter_append, List.filter_filter]
    simp

/-- A line is copied. -/
theorem dropBlankLines_append {l : Text} (h : '\n' ∉ l) (r : Text) :
    dropBlankLines (l ++ r) = l ++ dropBlankLines r := by
  induction l with
  | nil => rfl
  | cons c l ih =>
    rw [List.mem_cons, not_or] at h
    rw [List.cons_append, dropBlankLines_cons (Ne.symm h.1), ih h.2, List.cons_append]

theorem dropBlankLines_of_not_mem {l : Text} (h : '\n' ∉ l) : dropBlankLines l = l := by
  have hcopy := dropBlankLines_append h []
  rwa [dropBlankLines_nil, List.append_nil] at hcopy

/-- A line that holds text is not blank. -/
theorem not_opensBlank_append {l : Text} (h : '\n' ∉ l) (hl : holdsText l = true) (r : Text) :
    ¬ OpensBlank (l ++ r) := by
  rintro ⟨pad, s, heq, hpad⟩
  induction l generalizing pad with
  | nil => exact absurd hl (by decide)
  | cons c l ih =>
    rw [List.mem_cons, not_or] at h
    cases pad with
    | nil => exact h.1 (List.cons.inj heq).1.symm
    | cons d pad =>
      rw [List.forall_mem_cons] at hpad
      obtain ⟨rfl, heq'⟩ := List.cons.inj heq
      have hl' : holdsText l = true := by simpa [holdsText, hpad.1] using hl
      exact ih h.2 hl' pad heq' hpad.2

/-- After a newline, the blank lines go up to the last line. -/
theorem dropBlankLines_newline_joined {ls : List Text} (hne : ls ≠ [])
    (h : ∀ l ∈ ls, '\n' ∉ l) :
    dropBlankLines ('\n' :: joined ls) = '\n' :: joined (thinned ls) := by
  induction ls with
  | nil => exact absurd rfl hne
  | cons l ls ih =>
    rw [List.forall_mem_cons] at h
    cases ls with
    | nil =>
      have hlast : ¬ OpensBlank l := by
        rintro ⟨pad, r, rfl, -⟩
        exact h.1 (by simp)
      rw [joined_singleton, dropBlankLines_newline hlast, dropBlankLines_of_not_mem h.1]
      exact congrArg _ (joined_singleton l).symm
    | cons l' ls =>
      have hnext := ih (List.cons_ne_nil l' ls) h.2
      rw [joined_cons_cons, thinned_cons_cons]
      by_cases hl : holdsText l = true
      · obtain ⟨k, ks, hk⟩ := List.exists_cons_of_ne_nil (thinned_ne_nil (List.cons_ne_nil l' ls))
        rw [if_pos hl, dropBlankLines_newline (not_opensBlank_append h.1 hl _),
          dropBlankLines_append h.1, hnext, hk, joined_cons_cons]
      · have hpad : ∀ c ∈ l, isPadding c = true := by simpa [holdsText] using hl
        rw [if_neg hl, dropBlankLines_blank hpad, hnext]

theorem dropBlankLines_joined {ls : List Text} (h : ∀ l ∈ ls, '\n' ∉ l) :
    dropBlankLines (joined ls) = joined (thinnedInside ls) := by
  cases ls with
  | nil => exact dropBlankLines_nil
  | cons l ls =>
    rw [List.forall_mem_cons] at h
    cases ls with
    | nil =>
      rw [joined_singleton, dropBlankLines_of_not_mem h.1]
      exact (joined_singleton l).symm
    | cons l' ls =>
      obtain ⟨k, ks, hk⟩ := List.exists_cons_of_ne_nil (thinned_ne_nil (List.cons_ne_nil l' ls))
      rw [joined_cons_cons, dropBlankLines_append h.1,
        dropBlankLines_newline_joined (List.cons_ne_nil l' ls) h.2, thinnedInside, hk, joined_cons_cons]

/-- **Removal of blank lines is a filter on lines.**  The first and the last line stay as they are, and
    so does every line between them that holds text: no such line is lost or altered, and they keep their
    order. -/
theorem collapseBlankLines_apply (t : Text) :
    collapseBlankLines.apply t = joined (thinnedInside (t.splitOn '\n')) ∧
      ((collapseBlankLines.apply t).splitOn '\n').filter holdsText =
        (t.splitOn '\n').filter holdsText := by
  have hlines : ∀ l ∈ t.splitOn '\n', '\n' ∉ l := fun l => newline_not_mem_of_mem_splitOn
  have happly : collapseBlankLines.apply t = joined (thinnedInside (t.splitOn '\n')) := by
    have hjoined := dropBlankLines_joined hlines
    rwa [joined, List.intercalate_splitOn] at hjoined
  refine ⟨happly, ?_⟩
  obtain ⟨l, ls, hls⟩ := List.exists_cons_of_ne_nil (List.splitOn_ne_nil '\n' t)
  rw [hls, List.forall_mem_cons] at hlines
  have hinside : ∀ k ∈ thinnedInside (l :: ls), '\n' ∉ k :=
    List.forall_mem_cons.2 ⟨hlines.1, fun k hk => hlines.2 k (mem_of_mem_thinned hk)⟩
  rw [happly, hls, joined, List.splitOn_intercalate '\n' hinside (List.cons_ne_nil _ _), thinnedInside,
    List.filter_cons, List.filter_cons, filter_holdsText_thinned]

example : collapseBlankLines.apply " \n\n\t\na \n \n\nb\n\t".toList = " \na \nb\n\t".toList := by
  decide +kernel

end Retouch.Pass
