/-
  The lines of a text.

  * `IsLine l`: a newline stands in `l` at most as its last character.  All lines of a text are of
    this kind (`isLine_of_mem_lines`);
  * `terminated l` is `l` with a newline at its end, whether it had one or not, and `IsEnded` says
    that a line has it;
  * `lines_flatten`: lines that end with their newline are the lines of their concatenation;
  * `exists_seen_joined`: lines with newlines between them are read back, but for a carriage return
    at the end of a line.
-/
import Mathlib.Data.List.Basic
import Mathlib.Data.List.Forall2
import Retouch.Text.Basic

namespace Retouch.Text

/-- A newline stands in `l` only at its end. -/
def IsLine (l : Text) : Prop := '\n' ∉ l.dropLast

/-- A line with its newline, also if it is the last one and lacks it. -/
def terminated (l : Text) : Text := if l.getLast? = some '\n' then l else l ++ ['\n']

/-- A line that ends with its newline. -/
def IsEnded (l : Text) : Prop := ∃ body : Text, '\n' ∉ body ∧ l = body ++ ['\n']

theorem IsEnded.append {t l : Text} (ht : '\n' ∉ t) (h : IsEnded l) : IsEnded (t ++ l) := by
  obtain ⟨body, hb, rfl⟩ := h
  exact ⟨t ++ body, by simp [ht, hb], by rw [List.append_assoc]⟩

theorem IsLine.isEnded_terminated {l : Text} (h : IsLine l) : IsEnded (terminated l) := by
  rw [terminated]
  split
  · next hl =>
    refine ⟨l.dropLast, h, ?_⟩
    rw [List.dropLast_append_getLast? '\n' hl]
  · next hl =>
    refine ⟨l, fun hm => ?_, rfl⟩
    -- a newline in `l` is in front of its last character, or is that character
    obtain ⟨x, hx⟩ : ∃ x, l.getLast? = some x :=
      Option.ne_none_iff_exists'.1 (mt List.getLast?_eq_none_iff.1 (List.ne_nil_of_mem hm))
    rw [← List.dropLast_append_getLast? x hx, List.mem_append, List.mem_singleton] at hm
    rcases hm with hm | rfl
    · exact h hm
    · exact hl hx

/-! ## Cutting -/

theorem lines_append_newline {body : Text} (h : '\n' ∉ body) (t : Text) :
    lines (body ++ '\n' :: t) = (body ++ ['\n']) :: lines t := by
  induction body with
  | nil => simp [lines]
  | cons c body ih =>
    rw [List.mem_cons, not_or] at h
    rw [List.cons_append, lines, if_neg (Ne.symm h.1), ih h.2]
    rfl

/-- A text may be cut into lines on both sides of a newline. -/
theorem lines_append_cons (u v : Text) :
    lines (u ++ '\n' :: v) = lines (u ++ ['\n']) ++ lines v := by
  induction u with
  | nil => simp [lines]
  | cons c u ih =>
    have hne : lines (u ++ ['\n']) ≠ [] := fun h => by
      have hflat := flatten_lines (u ++ ['\n'])
      rw [h] at hflat
      simp at hflat
    obtain ⟨l, ls, hl⟩ := List.exists_cons_of_ne_nil hne
    rw [List.cons_append, List.cons_append, lines, lines, ih, hl]
    split <;> rfl

theorem IsEnded.lines_eq {l : Text} (h : IsEnded l) : lines l = [l] := by
  obtain ⟨body, hb, rfl⟩ := h
  exact lines_append_newline hb []

/-- **Lines that end with their newline are the lines of their concatenation.** -/
theorem lines_flatten {ls : List Text} (h : ∀ l ∈ ls, IsEnded l) : lines ls.flatten = ls := by
  induction ls with
  | nil => rfl
  | cons l ls ih =>
    obtain ⟨body, hb, rfl⟩ := h _ List.mem_cons_self
    rw [List.flatten_cons, List.append_assoc, List.singleton_append, lines_append_newline hb,
      ih fun l hl => h l (List.mem_cons_of_mem _ hl)]

/-- A newline stands in a line of a text only at its end. -/
theorem isLine_of_mem_lines {t l : Text} (h : l ∈ lines t) : IsLine l := by
  induction t generalizing l with
  | nil => simp [lines] at h
  | cons c t ih =>
    rw [lines] at h
    split at h
    · rcases List.mem_cons.1 h with rfl | h
      · simp [IsLine]
      · exact ih h
    · next hc =>
      split at h
      · rw [List.mem_singleton] at h
        simp [h, IsLine]
      · next l' ls hl =>
        rcases List.mem_cons.1 h with rfl | h
        · have hl' : IsLine l' := ih (by rw [hl]; exact List.mem_cons_self)
          cases l' with
          | nil => simp [IsLine]
          | cons d l' =>
            rw [IsLine, List.dropLast_cons_cons, List.mem_cons, not_or]
            exact ⟨Ne.symm hc, hl'⟩
        · exact ih (by rw [hl]; exact List.mem_cons_of_mem _ h)

/-! ## Joining -/

/-- The lines with newlines between them. -/
def joined (ls : List Text) : Text := ['\n'].intercalate ls

/-- A line, and what is seen of it when lines are read: a carriage return at its end may be lost. -/
def Seen (l l' : Text) : Prop := l = l' ∨ l = l' ++ ['\r']

theorem joined_singleton (l : Text) : joined [l] = l := by simp [joined, List.intercalate]

theorem joined_cons_cons (l l' : Text) (ls : List Text) :
    joined (l :: l' :: ls) = l ++ '\n' :: joined (l' :: ls) := by
  simp [joined, List.intercalate]

theorem newline_not_mem_of_mem_splitOn {t l : Text} (h : l ∈ t.splitOn '\n') : '\n' ∉ l := by
  induction t generalizing l with
  | nil =>
    rw [List.splitOn_nil, List.mem_singleton] at h
    simp [h]
  | cons c t ih =>
    obtain ⟨k, ls, hls⟩ := List.exists_cons_of_ne_nil (List.splitOn_ne_nil '\n' t)
    rw [List.splitOn_cons_eq_if_modifyHead, hls] at h
    rw [hls] at ih
    split at h
    · rcases List.mem_cons.1 h with rfl | h
      · exact List.not_mem_nil
      · exact ih h
    · next hc =>
      rcases List.mem_cons.1 h with rfl | h
      · rw [List.mem_cons, not_or]
        exact ⟨fun heq => hc (beq_iff_eq.2 heq.symm), ih List.mem_cons_self⟩
      · exact ih (List.mem_cons_of_mem k h)

theorem joined_splitOn (t : Text) : joined (t.splitOn '\n') = t := List.intercalate_splitOn '\n'

theorem seen_dropTerminator (body : Text) : Seen body (dropTerminator (body ++ ['\n'])) := by
  rw [dropTerminator, dropSuffix?, if_pos (by simp [List.isSuffixOf_iff_suffix])]
  simp only [List.length_append, List.length_singleton, Nat.add_sub_cancel, List.take_left,
    dropSuffix?]
  split
  · next h =>
    obtain ⟨l, rfl⟩ := List.isSuffixOf_iff_suffix.1 h
    exact .inr (by simp)
  · exact .inl rfl

theorem bareLines_append_newline {body : Text} (h : '\n' ∉ body) (t : Text) :
    bareLines (body ++ '\n' :: t) = dropTerminator (body ++ ['\n']) :: bareLines t := by
  rw [bareLines, lines_append_newline h]
  rfl

theorem bareLines_of_not_mem {l : Text} (h : '\n' ∉ l) (hne : l ≠ []) : bareLines l = [l] := by
  have hlines : lines l = [l] := by
    induction l with
    | nil => exact absurd rfl hne
    | cons c l ih =>
      rw [List.mem_cons, not_or] at h
      rw [lines, if_neg (Ne.symm h.1)]
      cases l with
      | nil => rfl
      | cons d l => rw [ih h.2 (List.cons_ne_nil _ _)]
  have hterm : dropTerminator l = l := by
    rw [dropTerminator, dropSuffix?, if_neg]
    intro hs
    exact h ((List.isSuffixOf_iff_suffix.1 hs).subset (by simp))
  rw [bareLines, hlines, List.map_singleton, hterm]

/-- **Lines with newlines between them are read back**, a carriage return at the end of a line apart;
    an empty last line is not seen. -/
theorem exists_seen_joined {ls : List Text} (h : ∀ l ∈ ls, '\n' ∉ l) :
    ∃ ls', List.Forall₂ Seen ls ls' ∧
      (bareLines (joined ls) = ls' ∨ bareLines (joined ls) ++ [[]] = ls') := by
  induction ls with
  | nil => exact ⟨[], .nil, .inl rfl⟩
  | cons l ls ih =>
    have hl : '\n' ∉ l := h l List.mem_cons_self
    cases ls with
    | nil =>
      refine ⟨[l], .cons (.inl rfl) .nil, ?_⟩
      rw [joined_singleton]
      rcases eq_or_ne l [] with rfl | hne
      · exact .inr rfl
      · exact .inl (bareLines_of_not_mem hl hne)
    | cons l₂ ls =>
      obtain ⟨ls', hseen, hread⟩ := ih fun l hl => h l (List.mem_cons_of_mem _ hl)
      refine ⟨dropTerminator (l ++ ['\n']) :: ls', .cons (seen_dropTerminator l) hseen, ?_⟩
      rw [joined_cons_cons, bareLines_append_newline hl]
      rcases hread with hread | hread
      · exact .inl (by rw [hread])
      · exact .inr (by rw [List.cons_append, hread])

end Retouch.Text
