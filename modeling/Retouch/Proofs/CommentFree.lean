/-
  Texts without comments, and why removal of comments gives one.

  Line comments that are gone leave no `//`, not even where the end of one line meets the start of the
  next.  In a text without `//` no slash stands next to a block comment, so that nothing that is left
  joins to a `//` or a `/*` when block comments go.  Trimming the lines puts no two characters next to
  each other but a character and a newline.

  * `commentFree_dropComments`: what is left has no comments;
  * `dropComments_eq_self`: a text without comments stays as it is.
-/
import Retouch.Proofs.Comments

namespace Retouch.Pass

open Text

/-! ## Line comments -/

/-- A text without `//` has no line comment to drop. -/
theorem dropLineComments_eq_self {t : Text} (h : ¬ ['/', '/'] <:+: t) : dropLineComments t = t := by
  induction t with
  | nil => exact dropLineComments_nil
  | cons c r ih =>
    rw [List.infix_cons_iff, not_or] at h
    rw [dropLineComments_cons h.1, ih h.2]

theorem slashes_not_infix_dropLineComments (t : Text) : ¬ ['/', '/'] <:+: dropLineComments t := by
  induction t using lineInduction with
  | nil => simp
  | marker r ih => rwa [dropLineComments_marker]
  | cons c r hm ih =>
    rw [dropLineComments_cons hm, List.infix_cons_iff, not_or]
    refine ⟨?_, ih⟩
    rintro ⟨s, hs⟩
    obtain ⟨rfl, hr⟩ : '/' = c ∧ '/' :: s = dropLineComments r := by simpa using hs
    have hhead : r.head? = some '/' := head?_of_dropLineComments (by decide) (by rw [← hr]; rfl)
    obtain ⟨w, rfl⟩ := List.head?_eq_some_iff.1 hhead
    exact hm ⟨w, rfl⟩

/-! ## Block comments -/

/-- No `/*` in the text has a `*/` after it. -/
def BlockFree (t : Text) : Prop := ∀ a r, t = a ++ '/' :: '*' :: r → ¬ ['*', '/'] <:+: r

theorem BlockFree.of_cons {c : Char} {r : Text} (h : BlockFree (c :: r)) : BlockFree r := by
  intro a s hr
  exact h (c :: a) s (by rw [hr, List.cons_append])

theorem dropBlockComments_eq_self {t : Text} (h : BlockFree t) : dropBlockComments t = t := by
  induction t with
  | nil => exact dropBlockComments_nil
  | cons c r ih =>
    rw [dropBlockComments_cons, ih h.of_cons]
    rintro s rfl rfl
    exact closing?_eq_none_iff.2 (h [] s rfl)

/-- What follows a block comment is the end of the text. -/
theorem suffix_of_closing? {r body rest : Text} (h : closing? r = some (body, rest)) :
    rest <:+ '/' :: '*' :: r := by
  rw [(eq_append_of_closing? h).1]
  exact ⟨'/' :: '*' :: (body ++ ['*', '/']), by simp⟩

/-- Induction along the scan for block comments. -/
@[elab_as_elim]
theorem blockInduction {motive : Text → Prop} (nil : motive [])
    (block : ∀ r body rest, closing? r = some (body, rest) → motive rest → motive ('/' :: '*' :: r))
    (cons : ∀ c r, (∀ s, c = '/' → r = '*' :: s → closing? s = none) → motive r → motive (c :: r))
    (t : Text) : motive t :=
  match t with
  | [] => nil
  | c :: r => by
    by_cases hm : ∀ s, c = '/' → r = '*' :: s → closing? s = none
    · exact cons c r hm (blockInduction nil block cons r)
    · push Not at hm
      obtain ⟨s, hc, hr, hs⟩ := hm
      obtain ⟨⟨body, rest⟩, hclose⟩ := Option.ne_none_iff_exists'.1 hs
      have hlt : rest.length < (c :: r).length := by
        rw [hr]
        exact Nat.lt_succ_of_lt (Nat.lt_succ_of_lt (length_lt_of_closing? hclose))
      rw [hc, hr]
      exact block s body rest hclose (blockInduction nil block cons rest)
termination_by t.length
decreasing_by
  · simp
  · exact hlt

/-- A slash that comes first after the scan came first before it, or a block comment did. -/
theorem head?_of_dropBlockComments {t : Text} (h : (dropBlockComments t).head? = some '/') :
    t.head? = some '/' := by
  cases t using blockInduction with
  | nil => exact absurd h (by simp)
  | block r body rest _ _ => rfl
  | cons c r hm _ =>
    rw [dropBlockComments_cons hm] at h
    exact h

/-- The scan makes no `*/`. -/
theorem close_infix_of_dropBlockComments {t : Text} (h : ['*', '/'] <:+: dropBlockComments t) :
    ['*', '/'] <:+: t := by
  induction t using blockInduction with
  | nil => rwa [dropBlockComments_nil] at h
  | block r body rest hclose ih =>
    rw [dropBlockComments_block hclose] at h
    rw [(eq_append_of_closing? hclose).1]
    exact ⟨'/' :: '*' :: body, rest, by simp⟩
  | cons c r hm ih =>
    rw [dropBlockComments_cons hm, List.infix_cons_iff] at h
    rcases h with ⟨w, hw⟩ | h
    · obtain ⟨rfl, hr⟩ : '*' = c ∧ '/' :: w = dropBlockComments r := by simpa using hw
      obtain ⟨w', rfl⟩ := List.head?_eq_some_iff.1 (head?_of_dropBlockComments (by rw [← hr]; rfl))
      exact ⟨[], w', rfl⟩
    · exact (ih h).trans (List.suffix_cons c r).isInfix

/-- The scan makes no `//`. -/
theorem slashes_not_infix_dropBlockComments {t : Text} (h : ¬ ['/', '/'] <:+: t) :
    ¬ ['/', '/'] <:+: dropBlockComments t := by
  induction t using blockInduction with
  | nil => rwa [dropBlockComments_nil]
  | block r body rest hclose ih =>
    rw [dropBlockComments_block hclose]
    exact ih fun hin => h (hin.trans (suffix_of_closing? hclose).isInfix)
  | cons c r hm ih =>
    rw [dropBlockComments_cons hm, List.infix_cons_iff, not_or]
    rw [List.infix_cons_iff, not_or] at h
    refine ⟨?_, ih h.2⟩
    rintro ⟨w, hw⟩
    obtain ⟨rfl, hr⟩ : '/' = c ∧ '/' :: w = dropBlockComments r := by simpa using hw
    obtain ⟨w', rfl⟩ := List.head?_eq_some_iff.1 (head?_of_dropBlockComments (by rw [← hr]; rfl))
    exact h.1 ⟨w', rfl⟩

/-- In a text without `//`, no block comment comes up when others go. -/
theorem blockFree_dropBlockComments {t : Text} (h : ¬ ['/', '/'] <:+: t) :
    BlockFree (dropBlockComments t) := by
  induction t using blockInduction with
  | nil =>
    rw [dropBlockComments_nil]
    intro a r ha
    exact absurd ha (by simp)
  | block r body rest hclose ih =>
    rw [dropBlockComments_block hclose]
    exact ih fun hin => h (hin.trans (suffix_of_closing? hclose).isInfix)
  | cons c r hm ih =>
    rw [List.infix_cons_iff, not_or] at h
    rw [dropBlockComments_cons hm]
    intro a s ha hin
    cases a with
    | cons d a =>
      exact ih h.2 a s (List.cons.inj ha).2 hin
    | nil =>
      obtain ⟨rfl, hr⟩ := List.cons.inj ha
      -- what follows the slash is no block comment, or the text had a `//`
      cases r using blockInduction with
      | nil => exact absurd hr (by simp)
      | block r body rest _ _ => exact h.1 ⟨'*' :: r, rfl⟩
      | cons d r hm' _ =>
        rw [dropBlockComments_cons hm'] at hr
        obtain ⟨rfl, rfl⟩ := List.cons.inj hr
        exact closing?_eq_none_iff.1 (hm r rfl rfl) (close_infix_of_dropBlockComments hin)

/-! ## Ends of lines -/

/-- Nothing but a newline comes first where the rest of a line is trimmed. -/
theorem head?_trimLineEnds {t : Text} (h : (t.takeWhile (· != '\n')).all isPadding = true) :
    ∀ c ∈ (trimLineEnds t).head?, c = '\n' := by
  induction t with
  | nil => simp [trimLineEnds]
  | cons c r ih =>
    by_cases hc : c = '\n'
    · subst hc
      rw [trimLineEnds, if_neg (by simp [isPadding])]
      rintro d ⟨⟩
      rfl
    · rw [List.takeWhile_cons_of_pos (by simpa using hc), List.all_cons, Bool.and_eq_true] at h
      rw [trimLineEnds, if_pos (by rw [h.1, h.2]; rfl)]
      exact ih h.2

/-- A character that is no newline stood in front of the rest before the lines were trimmed. -/
theorem exists_of_trimLineEnds_eq_cons {t s : Text} {c : Char} (h : trimLineEnds t = c :: s)
    (hc : c ≠ '\n') : ∃ r, t = c :: r ∧ trimLineEnds r = s := by
  cases t with
  | nil => exact absurd h (by simp [trimLineEnds])
  | cons d r =>
    rw [trimLineEnds] at h
    split at h
    · next htrim =>
      rw [Bool.and_eq_true] at htrim
      exact absurd (head?_trimLineEnds htrim.2 c (by rw [h]; rfl)) hc
    · obtain ⟨rfl, rfl⟩ := List.cons.inj h
      exact ⟨r, rfl, rfl⟩

theorem exists_of_trimLineEnds_eq_append {t a b : Text} (h : trimLineEnds t = a ++ b) :
    ∃ a' b', t = a' ++ b' ∧ trimLineEnds b' = b := by
  induction t generalizing a with
  | nil =>
    obtain ⟨-, rfl⟩ := List.append_eq_nil_iff.1 h.symm
    exact ⟨[], [], rfl, rfl⟩
  | cons c r ih =>
    cases a with
    | nil => exact ⟨[], c :: r, rfl, h⟩
    | cons d a =>
      rw [trimLineEnds] at h
      split at h
      · obtain ⟨a', b', rfl, hb⟩ := ih h
        exact ⟨c :: a', b', rfl, hb⟩
      · obtain ⟨a', b', rfl, hb⟩ := ih (List.cons.inj h).2
        exact ⟨c :: a', b', rfl, hb⟩

/-- Two characters that stand next to each other in a line did so before it was trimmed. -/
theorem pair_infix_of_trimLineEnds {t : Text} {c d : Char} (hc : c ≠ '\n') (hd : d ≠ '\n')
    (h : [c, d] <:+: trimLineEnds t) : [c, d] <:+: t := by
  obtain ⟨a, b, hab⟩ := h
  rw [List.append_assoc] at hab
  obtain ⟨a', b', rfl, hb⟩ := exists_of_trimLineEnds_eq_append hab.symm
  obtain ⟨r, rfl, hr⟩ := exists_of_trimLineEnds_eq_cons hb hc
  obtain ⟨s, rfl, -⟩ := exists_of_trimLineEnds_eq_cons hr hd
  exact ⟨a', s, by simp⟩

theorem BlockFree.trimLineEnds {t : Text} (h : BlockFree t) : BlockFree (trimLineEnds t) := by
  intro a r ha hin
  obtain ⟨a', b', rfl, hb⟩ := exists_of_trimLineEnds_eq_append ha
  obtain ⟨s, rfl, hs⟩ := exists_of_trimLineEnds_eq_cons hb (by decide)
  obtain ⟨r', rfl, rfl⟩ := exists_of_trimLineEnds_eq_cons hs (by decide)
  exact h a' r' rfl (pair_infix_of_trimLineEnds (by decide) (by decide) hin)

theorem all_isPadding_trimLineEnds (t : Text) :
    ((trimLineEnds t).takeWhile (· != '\n')).all isPadding =
      (t.takeWhile (· != '\n')).all isPadding := by
  induction t with
  | nil => rfl
  | cons c r ih =>
    rw [Text.trimLineEnds]
    by_cases hc : c = '\n'
    · subst hc
      rw [if_neg (by simp [isPadding])]
      simp
    · rw [List.takeWhile_cons_of_pos (by simpa using hc), List.all_cons]
      split
      · next htrim => rw [ih, htrim, (Bool.and_eq_true_iff.1 htrim).2]
      · rw [List.takeWhile_cons_of_pos (by simpa using hc), List.all_cons, ih]

theorem trimLineEnds_trimLineEnds (t : Text) :
    Text.trimLineEnds (Text.trimLineEnds t) = Text.trimLineEnds t := by
  induction t with
  | nil => rfl
  | cons c r ih =>
    by_cases htrim : (isPadding c && (r.takeWhile (· != '\n')).all isPadding) = true
    · rw [Text.trimLineEnds, if_pos htrim, ih]
    · have hkeep := htrim
      rw [← all_isPadding_trimLineEnds] at hkeep
      rw [Text.trimLineEnds, if_neg htrim, Text.trimLineEnds, if_neg hkeep, ih]

/-! ## All three scans -/

/-- A text without comments, and without padding at the ends of its lines. -/
structure CommentFree (t : Text) : Prop where
  slashes : ¬ ['/', '/'] <:+: t
  blocks : BlockFree t
  trimmed : Text.trimLineEnds t = t

/-- **All comments go**, and no new ones come up. -/
theorem commentFree_dropComments (t : Text) : CommentFree (dropComments t) := by
  have hline := slashes_not_infix_dropLineComments t
  rw [dropComments, dropTrailingPadding_eq]
  constructor
  · intro hin
    exact slashes_not_infix_dropBlockComments hline
      (pair_infix_of_trimLineEnds (by decide) (by decide) hin)
  · exact (blockFree_dropBlockComments hline).trimLineEnds
  · exact trimLineEnds_trimLineEnds _

theorem dropComments_eq_self {t : Text} (h : CommentFree t) : dropComments t = t := by
  rw [dropComments, dropLineComments_eq_self h.slashes, dropBlockComments_eq_self h.blocks,
    dropTrailingPadding_eq, h.trimmed]

end Retouch.Pass
