/-
  Calls of the squaring helper on literals.

  `IsLiteralCall` describes such a call, with any white space between its parts.  The scan finds every
  one (`exists_read?_of_isLiteralCall`), and what it writes in their place, `n * n`, has an asterisk in
  the middle, which no call has, and starts and ends with digits, as no call does: so a call in the
  result would have been one in the text scanned (`isPrefix_of_isPrefix_expandCalls`).

  * `expandCalls_eq_self_iff`: the scan changes a text exactly if it has such a call;
  * `not_hasLiteralCall`: neither the pass nor the canonical passes together leave one, on any text.
-/
import Retouch.Pass.SquareCall
import Retouch.Proofs.Digits
import Retouch.Proofs.Scanning
import Retouch.Proofs.Trail

namespace Retouch.Pass

open Text

/-- A call of the squaring helper on a literal. -/
def IsLiteralCall (call : Text) : Prop :=
  ∃ blanks₁ blanks₂ digits blanks₃ : Text,
    call = "square".toList ++ (blanks₁ ++ ('(' :: (blanks₂ ++ (digits ++ (blanks₃ ++ [')']))))) ∧
    (∀ c ∈ blanks₁ ++ blanks₂ ++ blanks₃, isBlank c = true) ∧
    digits ≠ [] ∧ ∀ c ∈ digits, c.isDigit = true

/-- A text with a call on a literal somewhere. -/
def HasLiteralCall (t : Text) : Prop := ∃ call, IsLiteralCall call ∧ call <:+: t

/-- The second scan of the expansion. -/
def expandCalls (t : Text) : Text := Matcher.replaceAll squareCall.read? squareProduct t

theorem inlineExpansion_apply (t : Text) :
    inlineExpansion.apply t = expandCalls (dropSquareDefinitions t) := rfl

theorem isFree_squareCall : Matcher.IsFree squareCall.read? :=
  Pattern.isFree_read? (by simp [squareCall, Piece.lit, Piece.blanks, Piece.digits])

/-! ## Every call is found -/

/-- The pattern matches every call on a literal. -/
theorem exists_read?_of_isLiteralCall {call : Text} (h : IsLiteralCall call) (rest : Text) :
    ∃ m, squareCall.read? none (call ++ rest) = some m := by
  obtain ⟨b₁, b₂, ds, b₃, rfl, hblank, hne, hdigit⟩ := h
  have hb₁ : ∀ c ∈ b₁, isBlank c = true := fun c hc => hblank c (by simp [hc])
  have hb₂ : ∀ c ∈ b₂, isBlank c = true := fun c hc => hblank c (by simp [hc])
  have hb₃ : ∀ c ∈ b₃, isBlank c = true := fun c hc => hblank c (by simp [hc])
  -- each run ends where it should: no white space follows white space, no digit the digits
  have hopen : ∀ c ∈ ('(' :: (b₂ ++ (ds ++ (b₃ ++ (')' :: rest))))).head?, isBlank c = false := by
    rintro c ⟨⟩
    decide
  have hdigits : ∀ c ∈ (ds ++ (b₃ ++ (')' :: rest))).head?, isBlank c = false := by
    obtain ⟨d, ds, rfl⟩ := List.exists_cons_of_ne_nil hne
    rintro c ⟨⟩
    exact isBlank_of_isDigit (hdigit d (by simp))
  have hafter : ∀ c ∈ (b₃ ++ (')' :: rest)).head?, c.isDigit = false := by
    cases b₃ with
    | nil =>
      rintro c ⟨⟩
      decide
    | cons b b₃ =>
      rintro c ⟨⟩
      exact isDigit_of_isBlank (hb₃ b (by simp))
  have hclose : ∀ c ∈ (')' :: rest).head?, isBlank c = false := by
    rintro c ⟨⟩
    decide
  refine ⟨⟨["square".toList, b₁, ['('], b₂, ds, b₃, [')']], rest⟩, ?_⟩
  simp only [List.append_assoc, List.cons_append, List.nil_append]
  refine Pattern.read?_cons (Piece.take?_word _ _) ?_
  refine Pattern.read?_cons (Piece.take?_run hb₁ (Nat.zero_le _) hopen) ?_
  refine Pattern.read?_cons (Piece.take?_word ['('] _) ?_
  refine Pattern.read?_cons (Piece.take?_run hb₂ (Nat.zero_le _) hdigits) ?_
  refine Pattern.read?_cons (Piece.take?_run hdigit (List.length_pos_iff.2 hne) hafter) ?_
  refine Pattern.read?_cons (Piece.take?_run hb₃ (Nat.zero_le _) hclose) ?_
  exact Pattern.read?_cons (Piece.take?_word [')'] _) rfl

/-- A match of the pattern for a call is a call on a literal. -/
theorem exists_pieces_of_read?_squareCall {before : Option Char} {t : Text} {m : Match}
    (h : squareCall.read? before t = some m) :
    ∃ b₁ b₂ ds b₃ : Text, m.pieces = ["square".toList, b₁, ['('], b₂, ds, b₃, [')']] ∧
      (∀ c ∈ b₁, isBlank c = true) ∧ (∀ c ∈ b₂, isBlank c = true) ∧
      (ds ≠ [] ∧ ∀ c ∈ ds, c.isDigit = true) ∧ ∀ c ∈ b₃, isBlank c = true := by
  have hall := Pattern.forall₂_takes h
  simp only [squareCall, Piece.lit, Piece.blanks, Piece.digits, List.forall₂_cons_left_iff,
    List.forall₂_nil_left_iff, Piece.takes_word_iff, Piece.takes_run_iff] at hall
  obtain ⟨_, _, rfl, ⟨b₁, _, ⟨-, hb₁⟩, ⟨_, _, rfl, ⟨b₂, _, ⟨-, hb₂⟩, ⟨ds, _, ⟨hlen, hds⟩,
    ⟨b₃, _, ⟨-, hb₃⟩, ⟨_, _, rfl, rfl, rfl⟩, rfl⟩, rfl⟩, rfl⟩, rfl⟩, rfl⟩, hm⟩ := hall
  exact ⟨b₁, b₂, ds, b₃, hm, hb₁, hb₂, ⟨List.length_pos_iff.1 hlen, hds⟩, hb₃⟩

theorem pieces_of_read? {t : Text} {m : Match} (h : squareCall.read? none t = some m) :
    IsLiteralCall m.text ∧ m.piece 4 ≠ [] ∧ ∀ c ∈ m.piece 4, c.isDigit = true := by
  obtain ⟨b₁, b₂, ds, b₃, hm, hb₁, hb₂, hds, hb₃⟩ := exists_pieces_of_read?_squareCall h
  refine ⟨⟨b₁, b₂, ds, b₃, by simp [Match.text, hm], fun c hc => ?_, hds⟩, ?_⟩
  · simp only [List.mem_append] at hc
    rcases hc with (hc | hc) | hc
    · exact hb₁ c hc
    · exact hb₂ c hc
    · exact hb₃ c hc
  · rw [Match.piece, hm]
    exact hds

/-! ## A call starts with `s`, ends with a parenthesis and has no asterisk -/

namespace IsLiteralCall

variable {call : Text}

theorem exists_cons (h : IsLiteralCall call) : ∃ w, call = 's' :: w := by
  obtain ⟨b₁, b₂, ds, b₃, rfl, -⟩ := h
  exact ⟨"quare".toList ++ _, rfl⟩

theorem getLast?_eq (h : IsLiteralCall call) : call.getLast? = some ')' := by
  obtain ⟨b₁, b₂, ds, b₃, rfl, -⟩ := h
  simp [List.getLast?_append, List.getLast?_cons]

theorem asterisk_not_mem (h : IsLiteralCall call) : '*' ∉ call := by
  obtain ⟨b₁, b₂, ds, b₃, rfl, hblank, -, hdigit⟩ := h
  intro hmem
  have hb : '*' ∉ b₁ ++ b₂ ++ b₃ := fun hc => absurd (hblank _ hc) (by decide)
  have hd : '*' ∉ ds := fun hc => absurd (hdigit _ hc) (by decide)
  simp only [List.mem_append, not_or] at hb
  simp [hb, hd] at hmem

end IsLiteralCall

/-! ## The scan -/

theorem length_rest_lt_of_squareCall {t : Text} {m : Match}
    (h : squareCall.read? none t = some m) : m.rest.length < t.length := by
  obtain ⟨w, hw⟩ := (pieces_of_read? h).1.exists_cons
  exact Pattern.length_rest_lt h (hw ▸ List.cons_ne_nil _ _)

theorem expandCalls_nil : expandCalls [] = [] := Matcher.replaceAll_nil

theorem expandCalls_cons {c : Char} {r : Text} (h : squareCall.read? none (c :: r) = none) :
    expandCalls (c :: r) = c :: expandCalls r :=
  Matcher.replaceAll_cons isFree_squareCall h

theorem expandCalls_of_eq_some {t : Text} {m : Match} (h : squareCall.read? none t = some m) :
    expandCalls t = squareProduct m ++ expandCalls m.rest :=
  Matcher.replaceAll_of_eq_some isFree_squareCall h (length_rest_lt_of_squareCall h)

theorem mem_squareProduct {t : Text} {m : Match} (h : squareCall.read? none t = some m) {c : Char}
    (hc : c ∈ squareProduct m) : c.isDigit = true ∨ c = ' ' ∨ c = '*' := by
  rw [squareProduct, List.mem_append, List.mem_append] at hc
  rcases hc with (hc | hc) | hc
  · exact .inl ((pieces_of_read? h).2.2 c hc)
  · right
    simpa [or_comm, or_assoc] using hc
  · exact .inl ((pieces_of_read? h).2.2 c hc)

/-! ## None is left -/

/-- A front of a text without `x` ends before the first `x`. -/
theorem isPrefix_left_of_not_mem {w u v : Text} {x : Char} (hx : x ∉ w) (h : w <+: u ++ x :: v) :
    w <+: u := by
  have hux : u ++ [x] <+: u ++ x :: v := ⟨v, by simp⟩
  rcases List.prefix_or_prefix_of_prefix h hux with hw | hw
  · rcases List.prefix_concat_iff.1 hw with rfl | hw
    · exact absurd (by simp) hx
    · exact hw
  · exact absurd (hw.subset (by simp)) hx

/-- What starts with `x` does not start before the first `x`. -/
theorem isInfix_right_of_not_mem {w u v : Text} {x : Char} (hx : x ∉ u) (h : x :: w <:+: u ++ v) :
    x :: w <:+: v := by
  induction u with
  | nil => exact h
  | cons y u ih =>
    rcases List.infix_cons_iff.1 h with hfront | hin
    · obtain rfl := (List.cons_prefix_cons.1 hfront).1
      exact absurd (by simp) hx
    · exact ih (fun hu => hx (by simp [hu])) hin

/-- What a scan does not write, it has copied: a front of its result that has no asterisk and ends
    with a parenthesis is a front of the text. -/
theorem isPrefix_of_isPrefix_expandCalls {t w : Text} (hstar : '*' ∉ w)
    (hlast : ∀ c ∈ w.getLast?, c = ')') (h : w <+: expandCalls t) : w <+: t := by
  induction t using Matcher.scanInduction squareCall.read? length_rest_lt_of_squareCall
    generalizing w with
  | nil => rwa [expandCalls_nil] at h
  | copy c r hm ih =>
    rw [expandCalls_cons hm] at h
    rcases List.prefix_cons_iff.1 h with rfl | ⟨v, rfl, hv⟩
    · exact List.nil_prefix
    · have hv' : v <+: r := by
        refine ih (fun hmem => hstar (by simp [hmem])) (fun x hx => hlast x ?_) hv
        rw [List.getLast?_cons, hx]
        rfl
      exact List.prefix_cons_iff.2 (.inr ⟨v, rfl, hv'⟩)
  | hit t m hm _ =>
    rw [expandCalls_of_eq_some hm] at h
    -- up to the asterisk the product has digits and a space, and no parenthesis to end with
    have hw : w <+: m.piece 4 ++ [' '] := by
      refine isPrefix_left_of_not_mem hstar (v := ' ' :: (m.piece 4 ++ expandCalls m.rest)) ?_
      simpa [squareProduct] using h
    cases hc : w.getLast? with
    | none =>
      rw [List.getLast?_eq_none_iff.1 hc]
      exact List.nil_prefix
    | some c =>
      obtain rfl := hlast c hc
      rcases List.mem_append.1 (hw.subset (List.mem_of_getLast? hc)) with hmem | hmem
      · exact absurd ((pieces_of_read? hm).2.2 _ hmem) (by decide)
      · exact absurd hmem (by decide)

/-- The scan leaves no call on a literal. -/
theorem not_hasLiteralCall_expandCalls (t : Text) : ¬ HasLiteralCall (expandCalls t) := by
  rintro ⟨call, hcall, h⟩
  induction t using Matcher.scanInduction squareCall.read? length_rest_lt_of_squareCall with
  | nil =>
    rw [expandCalls_nil] at h
    obtain ⟨w, rfl⟩ := hcall.exists_cons
    exact absurd (List.eq_nil_of_infix_nil h) (List.cons_ne_nil _ _)
  | copy c r hm ih =>
    rw [expandCalls_cons hm] at h
    rcases List.infix_cons_iff.1 h with hfront | hin
    · -- the call would have been at the front of the text already, and there it matches
      rw [← expandCalls_cons hm] at hfront
      have hlast : ∀ x ∈ call.getLast?, x = ')' := by
        rw [hcall.getLast?_eq]
        simp
      obtain ⟨rest, hrest⟩ := isPrefix_of_isPrefix_expandCalls hcall.asterisk_not_mem hlast hfront
      obtain ⟨m, hm'⟩ := exists_read?_of_isLiteralCall hcall rest
      rw [hrest, hm] at hm'
      exact absurd hm' (by simp)
    · exact ih hin
  | hit t m hm ih =>
    rw [expandCalls_of_eq_some hm] at h
    obtain ⟨w, rfl⟩ := hcall.exists_cons
    refine ih (isInfix_right_of_not_mem (fun hs => ?_) h)
    exact absurd (mem_squareProduct hm hs) (by decide)

/-- The scan changes nothing else. -/
theorem expandCalls_eq_self {t : Text} (h : ¬ HasLiteralCall t) : expandCalls t = t := by
  induction t using Matcher.scanInduction squareCall.read? length_rest_lt_of_squareCall with
  | nil => exact expandCalls_nil
  | copy c r hm ih =>
    have hr : ¬ HasLiteralCall r := by
      rintro ⟨call, hcall, hin⟩
      exact h ⟨call, hcall, List.infix_cons hin⟩
    rw [expandCalls_cons hm, ih hr]
  | hit t m hm _ =>
    have hfront : m.text <+: t := ⟨m.rest, Pattern.append_read? hm⟩
    exact absurd ⟨m.text, (pieces_of_read? hm).1, hfront.isInfix⟩ h

theorem expandCalls_eq_self_iff {t : Text} : expandCalls t = t ↔ ¬ HasLiteralCall t := by
  refine ⟨fun h => ?_, expandCalls_eq_self⟩
  rw [← h]
  exact not_hasLiteralCall_expandCalls t

/-- The canonical passes end with the expansion. -/
theorem exists_retouched_eq (t : Text) : ∃ u, retouched t = inlineExpansion.apply u := by
  rw [retouched, Trail.result_eq_output, Pipeline.text_output_run]
  exact ⟨_, rfl⟩

/-- Neither the expansion nor the canonical passes leave a call on a literal, whatever the text: a
    product cannot combine with its neighbours into a fresh call.  Where there is none to expand, the
    expansion only drops definitions. -/
theorem not_hasLiteralCall (t : Text) :
    ¬ HasLiteralCall (inlineExpansion.apply t) ∧
    ¬ HasLiteralCall (retouched t) ∧
    (inlineExpansion.apply t = dropSquareDefinitions t ↔
      ¬ HasLiteralCall (dropSquareDefinitions t)) := by
  obtain ⟨u, hu⟩ := exists_retouched_eq t
  rw [hu, inlineExpansion_apply, inlineExpansion_apply]
  exact ⟨not_hasLiteralCall_expandCalls _, not_hasLiteralCall_expandCalls _,
    expandCalls_eq_self_iff⟩

example : inlineExpansion.apply "inline int square(int v) \x7b\x7dsquare (square( 12 ))".toList =
    "square (12 * 12)".toList := by
  decide +kernel

end Retouch.Pass
