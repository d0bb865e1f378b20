/-
  Words in a text, and what replacing them does.

  A scan that replaces a word looks at a text alone and not at how it came about.  Where a text was
  made by writing a word for some marks (`written`), the scan finds the word at the marks, and it may
  find it elsewhere too: among the other characters, or among these and the words together.  A word
  that opens with a brace and has no other (`IsBraced`) never overlaps with itself, so every place
  where it stands is replaced, and the length of the result tells how many there were.

  * `IsBraced.length_replaceAll`: how long a text is after the replacement;
  * `IsBraced.replaceAll_written_iff`: the scan writes something else for the marks and leaves the
    rest as it is if and only if the word stands at the marks alone, or nothing is changed at all.
-/
import Retouch.Proofs.Junctions

namespace Retouch.Text

/-! ## Places of a word -/

/-- The number of places where `w` stands in a text. -/
def places (w : Text) : Text → Nat
  | [] => 0
  | c :: t => places w t + if w <+: c :: t then 1 else 0

/-- A word that starts with an opening brace and has no other, so that its places do not overlap. -/
def IsBraced (w : Text) : Prop := ∃ body, w = '{' :: body ∧ '{' ∉ body

variable {w r t u : Text} {c : Char}

theorem IsBraced.ne_nil (h : IsBraced w) : w ≠ [] := by
  obtain ⟨body, rfl, -⟩ := h
  exact List.cons_ne_nil _ _

theorem IsBraced.not_prefix (h : IsBraced w) (hc : c ≠ '{') (t : Text) : ¬ w <+: c :: t := by
  obtain ⟨body, rfl, -⟩ := h
  rw [List.cons_prefix_cons]
  exact fun hpre => hc hpre.1.symm

/-- A braced word starts only where a brace stands. -/
theorem IsBraced.places_append (h : IsBraced w) (hu : '{' ∉ u) (t : Text) :
    places w (u ++ t) = places w t := by
  induction u with
  | nil => rfl
  | cons c u ih =>
    rw [List.mem_cons, not_or] at hu
    rw [List.cons_append, places, if_neg (h.not_prefix (Ne.symm hu.1) _), ih hu.2, Nat.add_zero]

/-- The places of a braced word do not overlap. -/
theorem IsBraced.places_self_append (h : IsBraced w) (t : Text) :
    places w (w ++ t) = places w t + 1 := by
  obtain ⟨body, rfl, hbody⟩ := id h
  have hpre : '{' :: body <+: '{' :: (body ++ t) := List.prefix_append ('{' :: body) t
  rw [List.cons_append, places, if_pos hpre, h.places_append hbody]

theorem places_pos_of_occurs (hw : w ≠ []) (h : w <:+: u) : 0 < places w u := by
  induction u with
  | nil => exact absurd (List.infix_nil.1 h) hw
  | cons c u ih =>
    rw [places]
    rcases List.infix_cons_iff.1 h with h | h
    · rw [if_pos h]
      exact Nat.succ_pos _
    · exact Nat.add_pos_left (ih h) _

/-! ## Replacing a word -/

theorem replaceAll_nil (w r : Text) : replaceAll w r [] = [] := Matcher.replaceAll_nil

theorem isFree_word (w : Text) : Matcher.IsFree (Pattern.read? [.word w]) :=
  Pattern.isFree_read? (by simp)

theorem replaceAll_cons (h : ¬ w <+: c :: t) : replaceAll w r (c :: t) = c :: replaceAll w r t :=
  Matcher.replaceAll_cons (isFree_word w) (Pattern.read?_cons_of_eq_none (Piece.take?_word_eq_none h))

theorem replaceAll_append (h : w ≠ []) (r t : Text) :
    replaceAll w r (w ++ t) = r ++ replaceAll w r t := by
  have hread : Pattern.read? [.word w] none (w ++ t) = some ⟨[w], t⟩ :=
    Pattern.read?_word.2 ⟨rfl, rfl⟩
  have hlt : t.length < (w ++ t).length := by
    rw [List.length_append]
    exact Nat.lt_add_of_pos_left (List.length_pos_iff.2 h)
  exact Matcher.replaceAll_of_eq_some (isFree_word w) hread hlt

/-- Induction along the scan for a word: the word stands at the front of a text, or it does not. -/
@[elab_as_elim]
theorem wordInduction {motive : Text → Prop} (w : Text) (hw : w ≠ []) (nil : motive [])
    (copy : ∀ c t, ¬ w <+: c :: t → motive t → motive (c :: t))
    (hit : ∀ t, motive t → motive (w ++ t)) (t : Text) : motive t := by
  have hlt : ∀ {t m}, Pattern.read? [.word w] none t = some m → m.rest.length < t.length := by
    intro t m hm
    obtain ⟨-, rfl⟩ := Pattern.read?_word.1 hm
    rw [List.length_append]
    exact Nat.lt_add_of_pos_left (List.length_pos_iff.2 hw)
  induction t using Matcher.scanInduction (Pattern.read? [.word w]) hlt with
  | nil => exact nil
  | copy c t hnone ih =>
    refine copy c t (fun hpre => ?_) ih
    obtain ⟨rest, hrest⟩ := hpre
    have hread : Pattern.read? [.word w] none (c :: t) = some ⟨[w], rest⟩ :=
      Pattern.read?_word.2 ⟨rfl, hrest.symm⟩
    rw [hread] at hnone
    exact absurd hnone (by simp)
  | hit t m hm ih =>
    obtain ⟨-, rfl⟩ := Pattern.read?_word.1 hm
    exact hit m.rest ih

/-- Every place of a braced word is replaced. -/
theorem IsBraced.length_replaceAll (h : IsBraced w) (r t : Text) :
    (replaceAll w r t).length + places w t * w.length = t.length + places w t * r.length := by
  induction t using wordInduction w h.ne_nil with
  | nil => rw [replaceAll_nil, places, Nat.zero_mul, Nat.zero_mul]
  | copy c t hpre ih =>
    rw [replaceAll_cons hpre, places, if_neg hpre, Nat.add_zero, List.length_cons, List.length_cons]
    omega
  | hit t ih =>
    rw [replaceAll_append h.ne_nil, h.places_self_append, List.length_append, List.length_append,
      Nat.add_mul, Nat.add_mul]
    omega

theorem replaceAll_self (h : w ≠ []) (t : Text) : replaceAll w w t = t := by
  induction t using wordInduction w h with
  | nil => exact replaceAll_nil w w
  | copy c t hpre ih => rw [replaceAll_cons hpre, ih]
  | hit t ih => rw [replaceAll_append h, ih]

/-- Where no brace stands, nothing is replaced. -/
theorem IsBraced.replaceAll_append_of_not_mem (h : IsBraced w) (hu : '{' ∉ u) (r t : Text) :
    replaceAll w r (u ++ t) = u ++ replaceAll w r t := by
  induction u with
  | nil => rfl
  | cons c u ih =>
    rw [List.mem_cons, not_or] at hu
    rw [List.cons_append, replaceAll_cons (h.not_prefix (Ne.symm hu.1) _), ih hu.2, List.cons_append]

/-! ## Marked places -/

/-- The text of some characters and marks, with `r` written for each mark. -/
def written (r : Text) (ms : List (Option Char)) : Text := ms.flatMap (·.elim r ([·]))

variable {ms : List (Option Char)}

theorem written_char (r : Text) (c : Char) (ms : List (Option Char)) :
    written r (some c :: ms) = c :: written r ms := rfl

theorem written_mark (r : Text) (ms : List (Option Char)) :
    written r (none :: ms) = r ++ written r ms := rfl

theorem written_map_some_append (r u : Text) (ms : List (Option Char)) :
    written r (u.map some ++ ms) = u ++ written r ms := by
  induction u with
  | nil => rfl
  | cons c u ih => rw [List.map_cons, List.cons_append, written_char, ih, List.cons_append]

theorem length_written (w r : Text) (ms : List (Option Char)) :
    (written r ms).length + ms.count none * w.length =
      (written w ms).length + ms.count none * r.length := by
  induction ms with
  | nil => rw [List.count_nil, Nat.zero_mul, Nat.zero_mul]; rfl
  | cons m ms ih =>
    cases m with
    | none =>
      rw [written_mark, written_mark, List.count_cons_self, List.length_append, List.length_append,
        Nat.add_mul, Nat.add_mul]
      omega
    | some c =>
      rw [written_char, written_char, List.count_cons_of_ne (by simp), List.length_cons,
        List.length_cons]
      omega

/-- The word stands where it is written for a mark, and perhaps elsewhere. -/
theorem IsBraced.count_le_places (h : IsBraced w) (ms : List (Option Char)) :
    ms.count none ≤ places w (written w ms) := by
  induction ms with
  | nil => exact Nat.zero_le _
  | cons m ms ih =>
    cases m with
    | none =>
      rw [written_mark, h.places_self_append, List.count_cons_self]
      exact Nat.succ_le_succ ih
    | some c =>
      rw [written_char, places, List.count_cons_of_ne (by simp)]
      exact Nat.le_add_right_of_le ih

/-- What stands at the front without a brace was not written for marks. -/
theorem IsBraced.exists_of_prefix_written (h : IsBraced w) (hu : '{' ∉ u)
    (hpre : u <+: written w ms) : ∃ ms', ms = u.map some ++ ms' := by
  induction u generalizing ms with
  | nil => exact ⟨ms, rfl⟩
  | cons c u ih =>
    rw [List.mem_cons, not_or] at hu
    match ms with
    | [] => exact absurd (List.prefix_nil.1 hpre) (List.cons_ne_nil _ _)
    | none :: ms =>
      obtain ⟨body, rfl, -⟩ := h
      rw [written_mark, List.cons_append, List.cons_prefix_cons] at hpre
      exact absurd hpre.1.symm hu.1
    | some d :: ms =>
      rw [written_char, List.cons_prefix_cons] at hpre
      obtain ⟨rfl, hpre⟩ := hpre
      obtain ⟨ms', rfl⟩ := ih hu.2 hpre
      exact ⟨ms', rfl⟩

/-- A word that stands at the front, where there is no mark, consists of characters. -/
theorem IsBraced.exists_of_self_prefix_written (h : IsBraced w)
    (hpre : w <+: written w (some c :: ms)) : ∃ ms', some c :: ms = w.map some ++ ms' := by
  obtain ⟨body, rfl, hbody⟩ := id h
  rw [written_char, List.cons_prefix_cons] at hpre
  obtain ⟨rfl, hpre⟩ := hpre
  obtain ⟨ms', rfl⟩ := h.exists_of_prefix_written hbody hpre
  exact ⟨ms', rfl⟩

/-- If the word stands only at the marks, replacing it writes something else for them. -/
theorem IsBraced.replaceAll_written (h : IsBraced w)
    (hcount : places w (written w ms) = ms.count none) (r : Text) :
    replaceAll w r (written w ms) = written r ms := by
  induction ms with
  | nil => exact replaceAll_nil w r
  | cons m ms ih =>
    cases m with
    | none =>
      rw [written_mark, h.places_self_append, List.count_cons_self] at hcount
      rw [written_mark, written_mark, replaceAll_append h.ne_nil, ih (Nat.succ.inj hcount)]
    | some c =>
      have hle := h.count_le_places ms
      rw [written_char, places, List.count_cons_of_ne (by simp)] at hcount
      by_cases hpre : w <+: c :: written w ms
      · rw [if_pos hpre] at hcount
        omega
      · rw [if_neg hpre, Nat.add_zero] at hcount
        rw [written_char, written_char, replaceAll_cons hpre, ih hcount]

/-- If what is written is as long as the word, then a place without a mark shows the difference. -/
theorem IsBraced.places_of_replaceAll_written (h : IsBraced w) (hlen : r.length = w.length)
    (hne : r ≠ w) (heq : replaceAll w r (written w ms) = written r ms) :
    places w (written w ms) = ms.count none := by
  induction ms with
  | nil => rfl
  | cons m ms ih =>
    cases m with
    | none =>
      rw [written_mark, written_mark, replaceAll_append h.ne_nil] at heq
      rw [written_mark, h.places_self_append, List.count_cons_self,
        ih (List.append_cancel_left heq)]
    | some c =>
      by_cases hpre : w <+: written w (some c :: ms)
      · obtain ⟨ms', hms⟩ := h.exists_of_self_prefix_written hpre
        rw [hms, written_map_some_append, written_map_some_append,
          replaceAll_append h.ne_nil] at heq
        exact absurd (List.append_inj_left heq hlen) hne
      · rw [written_char] at hpre
        rw [written_char, written_char, replaceAll_cons hpre] at heq
        rw [written_char, places, if_neg hpre, List.count_cons_of_ne (by simp), Nat.add_zero,
          ih (List.cons.inj heq).2]

/-- **Replacing a word writes something else for the marks alone** if and only if the word stands
    nowhere else, or nothing is changed at all. -/
theorem IsBraced.replaceAll_written_iff (h : IsBraced w) :
    replaceAll w r (written w ms) = written r ms ↔
      r = w ∨ places w (written w ms) = ms.count none := by
  constructor
  · intro heq
    by_cases hne : r = w
    · exact .inl hne
    · right
      by_cases hlen : r.length = w.length
      · exact h.places_of_replaceAll_written hlen hne heq
      · -- a place without a mark would change the length once more
        have hscan := h.length_replaceAll r (written w ms)
        have hmarks := length_written w r ms
        obtain ⟨more, hmore⟩ := Nat.exists_eq_add_of_le (h.count_le_places ms)
        rw [heq, hmore, Nat.add_mul, Nat.add_mul] at hscan
        have hmul : more * w.length = more * r.length := by omega
        rcases Nat.eq_zero_or_pos more with rfl | hpos
        · exact hmore
        · exact absurd (Nat.eq_of_mul_eq_mul_left hpos hmul).symm hlen
  · rintro (rfl | hcount)
    · rw [replaceAll_self h.ne_nil]
    · exact h.replaceAll_written hcount r

end Retouch.Text
