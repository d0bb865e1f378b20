/-
  The scan for sums of two literals.

  A literal starts a sum if the text goes on with a plus sign and a digit, with any white space around
  the sign (`GoesOn`).  The scan finds every such pair and nothing else (`read?_sumPattern`,
  `exists_of_read?_sumPattern`), so that it copies all other characters and all other literals.

  * `sumSegments_digits`, `sumSegments_sum`: the scan passes over a literal that starts no sum, and
    takes a sum as one match;
  * `sum?_eq_ite`: two literals fold if their sum fits.
-/
import Retouch.Pass.Sums
import Retouch.Proofs.Digits
import Retouch.Proofs.Scanning

namespace Retouch.Pass

open Text

/-- After a literal, the text goes on with a plus sign and another literal. -/
def GoesOn (t : Text) : Prop :=
  ∃ (blanks₁ blanks₂ : Text) (d : Char) (r : Text),
    t = blanks₁ ++ ('+' :: (blanks₂ ++ (d :: r))) ∧ (∀ c ∈ blanks₁, isBlank c = true) ∧
      (∀ c ∈ blanks₂, isBlank c = true) ∧ d.isDigit = true

section Read

variable {t : Text} {m : Match}

theorem isFree_sumPattern : Matcher.IsFree sumPattern.read? :=
  Pattern.isFree_read? (by simp [sumPattern, Piece.lit, Piece.blanks, Piece.digits])

/-- The pattern matches every sum of two literals. -/
theorem read?_sumPattern {ds b₁ b₂ es rest : Text} (hds : ds ≠ [])
    (hdigit : ∀ c ∈ ds, c.isDigit = true) (hb₁ : ∀ c ∈ b₁, isBlank c = true)
    (hb₂ : ∀ c ∈ b₂, isBlank c = true) (hes : es ≠ []) (hdigit' : ∀ c ∈ es, c.isDigit = true)
    (hrest : ∀ c ∈ rest.head?, c.isDigit = false) :
    sumPattern.read? none (ds ++ (b₁ ++ ('+' :: (b₂ ++ (es ++ rest))))) =
      some ⟨[ds, b₁, ['+'], b₂, es], rest⟩ := by
  have hafter : ∀ c ∈ (b₁ ++ ('+' :: (b₂ ++ (es ++ rest)))).head?, c.isDigit = false := by
    cases b₁ with
    | nil =>
      rintro c ⟨⟩
      decide
    | cons b b₁ =>
      rintro c ⟨⟩
      exact isDigit_of_isBlank (hb₁ b List.mem_cons_self)
  have hplus : ∀ c ∈ ('+' :: (b₂ ++ (es ++ rest))).head?, isBlank c = false := by
    rintro c ⟨⟩
    decide
  have hnext : ∀ c ∈ (es ++ rest).head?, isBlank c = false := by
    obtain ⟨e, es, rfl⟩ := List.exists_cons_of_ne_nil hes
    rintro c ⟨⟩
    exact isBlank_of_isDigit (hdigit' e List.mem_cons_self)
  refine Pattern.read?_cons (Piece.take?_run hdigit (List.length_pos_iff.2 hds) hafter) ?_
  refine Pattern.read?_cons (Piece.take?_run hb₁ (Nat.zero_le _) hplus) ?_
  refine Pattern.read?_cons (Piece.take?_word ['+'] _) ?_
  refine Pattern.read?_cons (Piece.take?_run hb₂ (Nat.zero_le _) hnext) ?_
  exact Pattern.read?_cons (Piece.take?_run hdigit' (List.length_pos_iff.2 hes) hrest) rfl

/-- A match of the pattern for a sum is a sum of two literals. -/
theorem exists_pieces_of_read?_sumPattern {before : Option Char}
    (h : sumPattern.read? before t = some m) :
    ∃ ds b₁ b₂ es : Text, m.pieces = [ds, b₁, ['+'], b₂, es] ∧
      (ds ≠ [] ∧ ∀ c ∈ ds, c.isDigit = true) ∧ (∀ c ∈ b₁, isBlank c = true) ∧
      (∀ c ∈ b₂, isBlank c = true) ∧ es ≠ [] ∧ ∀ c ∈ es, c.isDigit = true := by
  have hall := Pattern.forall₂_takes h
  simp only [sumPattern, Piece.lit, Piece.blanks, Piece.digits, List.forall₂_cons_left_iff,
    List.forall₂_nil_left_iff, Piece.takes_word_iff, Piece.takes_run_iff] at hall
  obtain ⟨ds, _, ⟨hds, hdigit⟩, ⟨b₁, _, ⟨-, hb₁⟩, ⟨_, _, rfl, ⟨b₂, _, ⟨-, hb₂⟩,
    ⟨es, _, ⟨hes, hdigit'⟩, rfl, rfl⟩, rfl⟩, rfl⟩, rfl⟩, hm⟩ := hall
  exact ⟨ds, b₁, b₂, es, hm, ⟨List.length_pos_iff.1 hds, hdigit⟩, hb₁, hb₂, List.length_pos_iff.1 hes,
    hdigit'⟩

theorem exists_of_read?_sumPattern (h : sumPattern.read? none t = some m) :
    ∃ ds r, t = ds ++ r ∧ ds ≠ [] ∧ (∀ c ∈ ds, c.isDigit = true) ∧ GoesOn r := by
  obtain ⟨ds, b₁, b₂, es, hm, ⟨hds, hdigit⟩, hb₁, hb₂, hes, hdigit'⟩ :=
    exists_pieces_of_read?_sumPattern h
  obtain ⟨e, es, rfl⟩ := List.exists_cons_of_ne_nil hes
  refine ⟨ds, b₁ ++ ('+' :: (b₂ ++ (e :: (es ++ m.rest)))), ?_, hds, hdigit,
    b₁, b₂, e, es ++ m.rest, rfl, hb₁, hb₂, hdigit' e List.mem_cons_self⟩
  rw [← Pattern.append_read? h, Match.text, hm]
  simp

theorem GoesOn.head? (h : GoesOn t) : ∀ c ∈ t.head?, c.isDigit = false := by
  obtain ⟨b₁, b₂, d, r, rfl, hb₁, -, -⟩ := h
  cases b₁ with
  | nil =>
    rintro c ⟨⟩
    decide
  | cons b b₁ =>
    rintro c ⟨⟩
    exact isDigit_of_isBlank (hb₁ b List.mem_cons_self)

/-- Digits end where the text goes on with something else. -/
theorem digits_append_inj {ds es r s : Text} (hds : ∀ c ∈ ds, c.isDigit = true)
    (hes : ∀ c ∈ es, c.isDigit = true) (hr : ∀ c ∈ r.head?, c.isDigit = false)
    (hs : ∀ c ∈ s.head?, c.isDigit = false) (h : ds ++ r = es ++ s) : ds = es ∧ r = s := by
  have hfront : ds = es := by
    rw [← takeWhile_append_of_head? hds hr, h, takeWhile_append_of_head? hes hs]
  subst hfront
  exact ⟨rfl, List.append_cancel_left h⟩

/-- Nothing matches where there is no digit. -/
theorem read?_sumPattern_cons {c : Char} (hc : c.isDigit = false) (r : Text) :
    sumPattern.read? none (c :: r) = none := by
  cases hm : sumPattern.read? none (c :: r) with
  | none => rfl
  | some m =>
    obtain ⟨ds, s, hds, hne, hdigit, -⟩ := exists_of_read?_sumPattern hm
    obtain ⟨d, ds, rfl⟩ := List.exists_cons_of_ne_nil hne
    obtain rfl := (List.cons.inj hds).1
    rw [hdigit c List.mem_cons_self] at hc
    exact absurd hc (by decide)

/-- Nothing matches at a literal that starts no sum. -/
theorem read?_sumPattern_digits {ds : Text} (hdigit : ∀ c ∈ ds, c.isDigit = true)
    (ht : ∀ c ∈ t.head?, c.isDigit = false) (hgo : ¬ GoesOn t) :
    sumPattern.read? none (ds ++ t) = none := by
  cases hm : sumPattern.read? none (ds ++ t) with
  | none => rfl
  | some m =>
    obtain ⟨es, s, hes, -, hdigit', hs⟩ := exists_of_read?_sumPattern hm
    obtain ⟨-, rfl⟩ := digits_append_inj hdigit hdigit' ht hs.head? hes
    exact absurd hs hgo

end Read

/-! ## Segments -/

/-- The scan for sums. -/
def sumSegments (t : Text) : List Segment := Matcher.segments sumPattern.read? t

theorem sumSegments_nil : sumSegments [] = [] := by
  rw [sumSegments, Matcher.segments, Matcher.segmentsFrom]

theorem sumSegments_cons {c : Char} (hc : c.isDigit = false) (r : Text) :
    sumSegments (c :: r) = .plain c :: sumSegments r :=
  Matcher.segments_cons isFree_sumPattern (read?_sumPattern_cons hc r)

/-- A literal that starts no sum is passed over. -/
theorem sumSegments_digits {ds t : Text} (hdigit : ∀ c ∈ ds, c.isDigit = true)
    (ht : ∀ c ∈ t.head?, c.isDigit = false) (hgo : ¬ GoesOn t) :
    sumSegments (ds ++ t) = ds.map .plain ++ sumSegments t := by
  induction ds with
  | nil => rfl
  | cons d ds ih =>
    rw [List.forall_mem_cons] at hdigit
    have hnone : sumPattern.read? none (d :: (ds ++ t)) = none := by
      rw [← List.cons_append]
      exact read?_sumPattern_digits (List.forall_mem_cons.2 hdigit) ht hgo
    rw [List.cons_append, sumSegments, Matcher.segments_cons isFree_sumPattern hnone]
    rw [← sumSegments, ih hdigit.2]
    rfl

/-- A sum is one match. -/
theorem sumSegments_sum {ds b₁ b₂ es rest : Text} (hds : ds ≠ [])
    (hdigit : ∀ c ∈ ds, c.isDigit = true) (hb₁ : ∀ c ∈ b₁, isBlank c = true)
    (hb₂ : ∀ c ∈ b₂, isBlank c = true) (hes : es ≠ []) (hdigit' : ∀ c ∈ es, c.isDigit = true)
    (hrest : ∀ c ∈ rest.head?, c.isDigit = false) :
    sumSegments (ds ++ (b₁ ++ ('+' :: (b₂ ++ (es ++ rest))))) =
      .hit ⟨[ds, b₁, ['+'], b₂, es], rest⟩ :: sumSegments rest := by
  have hread := read?_sumPattern hds hdigit hb₁ hb₂ hes hdigit' hrest
  refine Matcher.segments_of_eq_some isFree_sumPattern hread ?_
  have hpos := List.length_pos_iff.2 hds
  simp only [List.length_append, List.length_cons]
  omega

/-- Two literals fold if their sum fits, whatever zeros they start with. -/
theorem sum?_eq_ite {a b : Text} (ha : a ≠ []) (hda : ∀ c ∈ a, c.isDigit = true) (hb : b ≠ [])
    (hdb : ∀ c ∈ b, c.isDigit = true) :
    sum? a b = if digitsValue a + digitsValue b < sumBound then some (digitsValue a + digitsValue b)
      else none := by
  rw [sum?, natBelow?_eq_ite _ ha hda, natBelow?_eq_ite _ hb hdb]
  by_cases hab : digitsValue a + digitsValue b < sumBound
  · rw [if_pos (show digitsValue a < sumBound by omega),
      if_pos (show digitsValue b < sumBound by omega)]
    rfl
  · rw [if_neg hab]
    split
    · split
      · exact if_neg hab
      · rfl
    · rfl

end Retouch.Pass
