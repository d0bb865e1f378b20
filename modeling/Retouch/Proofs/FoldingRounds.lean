/-
  Folding again and again.

  A sum that folds becomes a single literal, which is shorter than the sum and has no plus sign.  The
  literal may form a new sum with its neighbours, so that the next scan folds again, but every sum that
  is folded costs one of the plus signs of the text (`Saves`).

  * `saves_foldSums`: what one scan saves;
  * `exists_foldable_eq_nil`: repeated scans come to an end before the plus signs do;
  * `constantFolding_settles`: and they end where every sum that is left overflows.
-/
import Mathlib.Data.List.Induction
import Mathlib.Logic.Function.Iterate
import Retouch.Proofs.Encoding
import Retouch.Proofs.SumChains

namespace Retouch

namespace Text

/-! ## Sizes -/

theorem length_le_byteSize (t : Text) : t.length ≤ byteSize t := by
  induction t with
  | nil => exact Nat.le_refl 0
  | cons c t ih =>
    have hpos : 0 < c.utf8Size := c.utf8Size_pos
    rw [List.length_cons, byteSize_cons]
    omega

/-- Digits have one byte each. -/
theorem byteSize_eq_length {t : Text} (h : ∀ c ∈ t, c.isDigit = true) : byteSize t = t.length := by
  induction t with
  | nil => rfl
  | cons c t ih =>
    rw [List.forall_mem_cons] at h
    have hc : c.utf8Size = 1 := by
      have hle : c.val ≤ '9'.val := of_decide_eq_true (Bool.and_eq_true_iff.1 h.1).2
      exact Char.utf8Size_eq_one_iff.2 (UInt32.le_trans hle (by decide))
    rw [byteSize_cons, hc, ih h.2, List.length_cons, Nat.add_comm]

/-- A number is below the power of ten that its digits count up to. -/
theorem digitsValue_lt {t : Text} (h : ∀ c ∈ t, c.isDigit = true) :
    digitsValue t < 10 ^ t.length := by
  induction t using List.reverseRecOn with
  | nil => decide
  | append_singleton t c ih =>
    rw [List.forall_mem_append, List.forall_mem_singleton] at h
    have hc : c.toNat ≤ '9'.toNat := by
      have hle : c.val ≤ '9'.val := of_decide_eq_true (Bool.and_eq_true_iff.1 h.2).2
      exact UInt32.le_iff_toNat_le.1 hle
    have hlast : digitsValue (t ++ [c]) = 10 * digitsValue t + (c.toNat - '0'.toNat) := by
      rw [digitsValue, List.foldl_concat]
      rfl
    have hnine : '9'.toNat = 57 := rfl
    have hzero : '0'.toNat = 48 := rfl
    have hlt := ih h.1
    rw [hlast, List.length_append, List.length_singleton, Nat.pow_succ]
    omega

/-- A sum of two literals is not longer than the two. -/
theorem length_ofNat_add_le (a b : Literal) :
    (ofNat (a.value + b.value)).length ≤ a.digits.length + b.digits.length := by
  have ha := digitsValue_lt a.isDigit
  have hb := digitsValue_lt b.isDigit
  have hla := List.length_pos_iff.2 a.ne_nil
  have hlb := List.length_pos_iff.2 b.ne_nil
  refine (Nat.length_toDigits_le_iff (by decide) (by omega)).2 ?_
  have hpowa : 10 ^ 1 ≤ 10 ^ a.digits.length := Nat.pow_le_pow_right (by decide) hla
  have hpowb : 10 ^ 1 ≤ 10 ^ b.digits.length := Nat.pow_le_pow_right (by decide) hlb
  rw [Nat.pow_add]
  calc a.value + b.value < 10 ^ a.digits.length + 10 ^ b.digits.length := Nat.add_lt_add ha hb
    _ ≤ 10 ^ a.digits.length * 10 ^ b.digits.length := Nat.add_le_mul (by omega) (by omega)

end Text

namespace Pass

open Text

/-! ## What a scan saves -/

/-- The text `u` is `t` with `k` plus signs less, and shorter by `k` or more. -/
structure Saves (t u : Text) (k : Nat) : Prop where
  count_eq : u.count '+' + k = t.count '+'
  length_le : u.length + k ≤ t.length
  byteSize_le : byteSize u + k ≤ byteSize t
  eq_of_zero : k = 0 → u = t

namespace Saves

variable {t u t' u' : Text} {k k' : Nat}

theorem refl (t : Text) : Saves t t 0 :=
  ⟨rfl, Nat.le_refl _, Nat.le_refl _, fun _ => rfl⟩

theorem append (h : Saves t u k) (h' : Saves t' u' k') : Saves (t ++ t') (u ++ u') (k + k') where
  count_eq := by
    rw [List.count_append, List.count_append, ← h.count_eq, ← h'.count_eq]
    omega
  length_le := by
    have := h.length_le
    have := h'.length_le
    rw [List.length_append, List.length_append]
    omega
  byteSize_le := by
    have := h.byteSize_le
    have := h'.byteSize_le
    rw [byteSize_append, byteSize_append]
    omega
  eq_of_zero hk := by rw [h.eq_of_zero (by omega), h'.eq_of_zero (by omega)]

theorem ne_iff (h : Saves t u k) : u ≠ t ↔ k ≠ 0 := by
  refine ⟨mt h.eq_of_zero, ?_⟩
  rintro hk rfl
  have := h.length_le
  omega

end Saves

/-- The sums that a scan meets. -/
def sums (t : Text) : List Match := Matcher.findAll sumPattern.read? t

/-- The two literals of a sum and their sum are all below the bound. -/
def Folds (m : Match) : Prop :=
  digitsValue (m.piece 0) < sumBound ∧ digitsValue (m.piece 4) < sumBound ∧
    digitsValue (m.piece 0) + digitsValue (m.piece 4) < sumBound

instance (m : Match) : Decidable (Folds m) := inferInstanceAs (Decidable (_ ∧ _))

/-- The sums that one scan folds. -/
def foldable (t : Text) : List Match := (sums t).filter (Folds ·)

theorem folds_iff {m : Match} :
    Folds m ↔ digitsValue (m.piece 0) + digitsValue (m.piece 4) < sumBound :=
  ⟨fun h => h.2.2, fun h => ⟨by omega, by omega, h⟩⟩

/-- A sum consists of two literals and a sign. -/
theorem exists_literals_of_sum {before : Option Char} {t : Text} {m : Match}
    (h : sumPattern.read? before t = some m) :
    ∃ (a b : Literal) (s : PlusSign),
      m.pieces = [a.digits, s.front, ['+'], s.back, b.digits] := by
  obtain ⟨ds, b₁, b₂, es, hm, ⟨hds, hdigit⟩, hb₁, hb₂, hes, hdigit'⟩ :=
    exists_pieces_of_read?_sumPattern h
  exact ⟨⟨ds, hds, hdigit⟩, ⟨es, hes, hdigit'⟩, ⟨b₁, b₂, hb₁, hb₂⟩, hm⟩

/-- A sum that folds loses its plus sign and at least one character. -/
theorem saves_foldSum {before : Option Char} {t : Text} {m : Match}
    (h : sumPattern.read? before t = some m) :
    Saves m.text (foldSum m) (if Folds m then 1 else 0) := by
  obtain ⟨a, b, s, hm⟩ := exists_literals_of_sum h
  have hsum : sum? (m.piece 0) (m.piece 4) =
      if a.value + b.value < sumBound then some (a.value + b.value) else none := by
    rw [Match.piece, Match.piece, hm]
    exact sum?_eq_ite a.ne_nil a.isDigit b.ne_nil b.isDigit
  have hfolds : Folds m ↔ a.value + b.value < sumBound := by
    rw [folds_iff, Match.piece, Match.piece, hm]
    rfl
  rw [foldSum, hsum]
  by_cases hfits : a.value + b.value < sumBound
  · have hlength := length_ofNat_add_le a b
    have htext : m.text = a.digits ++ (s.text ++ b.digits) := by
      simp [Match.text, hm, PlusSign.text]
    have hnumber : ∀ c ∈ ofNat (a.value + b.value), c.isDigit = true := fun _ => isDigit_of_mem_ofNat
    have hlong : (ofNat (a.value + b.value)).length + 1 ≤ m.text.length := by
      have := List.length_pos_iff.2 s.text_ne_nil
      rw [htext, List.length_append, List.length_append]
      omega
    rw [if_pos hfits, if_pos (hfolds.2 hfits)]
    refine ⟨?_, hlong, ?_, fun hk => absurd hk (by decide)⟩
    · have hcount : ∀ ds : Text, (∀ c ∈ ds, c.isDigit = true) → ds.count '+' = 0 :=
        fun ds hds => List.count_eq_zero.2 fun hmem => absurd (hds _ hmem) (by decide)
      have hfront : s.front.count '+' = 0 :=
        List.count_eq_zero.2 (not_mem_of_isBlank s.isBlank_front (by decide))
      have hback : s.back.count '+' = 0 :=
        List.count_eq_zero.2 (not_mem_of_isBlank s.isBlank_back (by decide))
      simp [htext, PlusSign.text, hcount _ hnumber, hcount _ a.isDigit, hcount _ b.isDigit, hfront,
        hback]
    · have := length_le_byteSize m.text
      rw [byteSize_eq_length hnumber]
      omega
  · rw [if_neg hfits, if_neg (mt hfolds.1 hfits)]
    exact .refl m.text

theorem length_rest_lt_of_sumPattern {t : Text} {m : Match} (h : sumPattern.read? none t = some m) :
    m.rest.length < t.length := by
  obtain ⟨a, b, s, hm⟩ := exists_literals_of_sum h
  exact Pattern.length_rest_lt h (by simp [Match.text, hm, a.ne_nil])

/-- **Each sum that one scan folds costs a plus sign.** -/
theorem saves_foldSums (t : Text) : Saves t (foldSums t) (foldable t).length := by
  induction t using Matcher.scanInduction sumPattern.read? length_rest_lt_of_sumPattern with
  | nil =>
    rw [SumChain.foldSums_nil, foldable, sums, Matcher.findAll, Matcher.segments, Matcher.segmentsFrom]
    exact .refl []
  | copy c r hm ih =>
    have hfold : foldSums (c :: r) = c :: foldSums r := Matcher.replaceAll_cons isFree_sumPattern hm
    have hsums : sums (c :: r) = sums r := by
      rw [sums, Matcher.findAll, Matcher.segments_cons isFree_sumPattern hm]
      rfl
    have hcons := (Saves.refl [c]).append ih
    rwa [Nat.zero_add, foldable, ← hsums, ← foldable, List.singleton_append, List.singleton_append,
      ← hfold] at hcons
  | hit t m hm ih =>
    have hlt := length_rest_lt_of_sumPattern hm
    have hfold : foldSums t = foldSum m ++ foldSums m.rest :=
      Matcher.replaceAll_of_eq_some isFree_sumPattern hm hlt
    have hsums : sums t = m :: sums m.rest := by
      rw [sums, Matcher.findAll, Matcher.segments_of_eq_some isFree_sumPattern hm hlt]
      rfl
    have hcount : (foldable t).length = (if Folds m then 1 else 0) + (foldable m.rest).length := by
      rw [foldable, hsums]
      by_cases hfolds : Folds m
      · rw [List.filter_cons_of_pos (by simpa using hfolds), if_pos hfolds, List.length_cons,
          Nat.add_comm]
        rfl
      · rw [List.filter_cons_of_neg (by simpa using hfolds), if_neg hfolds, Nat.zero_add]
        rfl
    have happend := (saves_foldSum hm).append ih
    rwa [← hcount, ← hfold, Pattern.append_read? hm] at happend

/-! ## Rounds -/

theorem foldSums_ne_iff {t : Text} : foldSums t ≠ t ↔ foldable t ≠ [] := by
  rw [(saves_foldSums t).ne_iff, ne_eq, List.length_eq_zero_iff]

/-- Where nothing folds, all sums overflow. -/
theorem foldable_eq_nil_iff {t : Text} :
    foldable t = [] ↔
      ∀ m ∈ sums t, sumBound ≤ digitsValue (m.piece 0) + digitsValue (m.piece 4) := by
  simp [foldable, List.filter_eq_nil_iff, folds_iff]

/-- There are at most as many rounds as plus signs. -/
theorem exists_foldable_eq_nil (t : Text) :
    ∃ n ≤ t.count '+', foldable (foldSums^[n] t) = [] := by
  induction hk : t.count '+' using Nat.strongRecOn generalizing t with
  | ind k ih =>
    by_cases hnil : foldable t = []
    · exact ⟨0, Nat.zero_le k, hnil⟩
    · have hpos := List.length_pos_iff.2 hnil
      have hcount := (saves_foldSums t).count_eq
      obtain ⟨n, hn, hend⟩ := ih _ (by omega) (foldSums t) rfl
      refine ⟨n + 1, by omega, ?_⟩
      rwa [Function.iterate_succ_apply]

/-- **Repeated folding comes to an end**, and only overflow stops it.  A scan changes a text if and only
    if some sum that it meets folds.  It then takes one plus sign for each of these sums, and shortens
    the text by as many characters and bytes at least.  So a fixed point is reached within as many scans
    as the text has plus signs, and there every sum overflows. -/
theorem constantFolding_settles (t : Text) :
    (constantFolding.apply t ≠ t ↔ foldable t ≠ []) ∧
      (constantFolding.apply t).count '+' + (foldable t).length = t.count '+' ∧
      (constantFolding.apply t).length + (foldable t).length ≤ t.length ∧
      byteSize (constantFolding.apply t) + (foldable t).length ≤ byteSize t ∧
      ∃ n ≤ t.count '+', ∃ u, constantFolding.apply^[n] t = u ∧ constantFolding.apply u = u ∧
        ∀ m ∈ sums u, sumBound ≤ digitsValue (m.piece 0) + digitsValue (m.piece 4) := by
  have hsaves := saves_foldSums t
  refine ⟨foldSums_ne_iff, hsaves.count_eq, hsaves.length_le, hsaves.byteSize_le, ?_⟩
  obtain ⟨n, hn, hend⟩ := exists_foldable_eq_nil t
  exact ⟨n, hn, foldSums^[n] t, rfl, (saves_foldSums _).eq_of_zero (by rw [hend]; rfl),
    foldable_eq_nil_iff.1 hend⟩

end Pass

end Retouch
