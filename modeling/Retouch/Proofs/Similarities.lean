/-
  The similarities of texts are numbers.

  A similarity is NaN only if a weight is, or if an infinite weight meets a zero.  Neither happens if
  the logarithms behind the weights are between zero and 1024.  A count is a whole number, which stays
  at `2 ^ 53` once it is reached, so what is weighed is finite; and the length of a vector is as great
  as each of its weights, so no quotient overflows.

  * `unpacked_counted`: what counting in steps of one reaches;
  * `SparseVector.tame_normalized`: scaling keeps the weights finite and not negative;
  * `Weights.nonneg_dot_vector`: the similarity of two texts is not negative, and so it is a number.
-/
import Retouch.Proofs.Projection
import Retouch.Proofs.Rounding

namespace Retouch

open Float.Model (UnpackedFloat totalExponent)
open Rounding

/-! ## Counting -/

section Counting

variable {m n : Nat} {e : Int}

/-- A whole number below `2 ^ 53`, as it is stored. -/
def whole (n : Nat) : UnpackedFloat := ofMantissa .positive (n <<< (52 - n.log2)) (n.log2 - 52)

theorem whole_eq (hn : 0 < n) : whole n =
    .finite .positive (n <<< (52 - n.log2)) (n.log2 - 52) (shiftLeft_pos hn _) := ofMantissa_pos _

theorem unpacked_one : unpacked 1 = .finite .positive (2 ^ 52) (-52) (by decide) := rfl

/-- Adding one is exact if there is room for the sum. -/
theorem unpacked_add_one {x : Float} (hx : unpacked x = whole n) (h0 : 0 < n) (hn : n < 2 ^ 53)
    (hsum : (n + 1) <<< 52 = m <<< (e + 52).toNat) (hm : 0 < m) (hlog : m.log2 = 52)
    (he : -52 ≤ e) (he' : e ≤ 971) : unpacked (x + 1) = .finite .positive m e hm := by
  have hdigits := log2_le_of_lt hn
  have hmin : min ((n.log2 : Int) - 52) (-52) = -52 := by omega
  have hshift : 52 - n.log2 + ((n.log2 : Int) - 52 - -52).toNat = 52 := by omega
  have hadd : n <<< 52 + 2 ^ 52 = (n + 1) <<< 52 := by
    simp only [Nat.shiftLeft_eq, Nat.add_one_mul]
  have htotal : (-52 : Int) ≤ max (totalExponent ((n + 1) <<< 52) (-52) - 53) (-1074) := by
    rw [totalExponent, log2_shiftLeft (Nat.succ_pos n)]
    omega
  have hcanonical : Canonical m e := by
    rw [Canonical, totalExponent]
    omega
  rw [unpacked_add, hx, whole_eq h0, unpacked_one, add_finite, hmin, ← Nat.shiftLeft_add, hshift,
    Int.sub_self, Int.toNat_zero, Nat.shiftLeft_zero, hadd, round_eq htotal, hsum,
    show (-52 : Int) = e - (e + 52).toNat by omega, roundWithAccuracy_shiftLeft hm hlog (by omega),
    stored_finite hcanonical, if_pos he']

/-- **Counting is exact up to `2 ^ 53`**, and stops there. -/
theorem unpacked_counted (n : Nat) : unpacked (Weights.counted n) =
    if n < 2 ^ 53 then whole n else .finite .positive (2 ^ 52) 1 (by decide) := by
  induction n with
  | zero => rfl
  | succ n ih =>
    have hsucc : Weights.counted (n + 1) = Weights.counted n + 1 := Function.iterate_succ_apply' ..
    rw [hsucc]
    rcases Nat.lt_trichotomy (n + 1) (2 ^ 53) with hn | hn | hn
    · rw [if_pos (by omega)] at ih
      rw [if_pos hn, whole_eq (n := n + 1) (Nat.succ_pos n)]
      rcases Nat.eq_zero_or_pos n with rfl | h0
      · rfl
      · have hdigits := log2_le_of_lt hn
        refine unpacked_add_one ih h0 (by omega) ?_ _ ?_ (by omega) (by omega)
        · rw [← Nat.shiftLeft_add]
          congr 1
          omega
        · rw [log2_shiftLeft (a := n + 1) (Nat.succ_pos n)]
          omega
    · rw [if_pos (by omega)] at ih
      rw [if_neg (by omega)]
      exact unpacked_add_one ih (by omega) (by omega) (by rw [hn]; decide) _ (by decide) (by decide)
        (by decide)
    · rw [if_neg (by omega)] at ih
      rw [if_neg (by omega), unpacked_add, ih]
      rfl

theorem isBelow_counted (n : Nat) : IsBelow 54 (unpacked (Weights.counted n)) := by
  rw [unpacked_counted]
  by_cases hn : n < 2 ^ 53
  · have hdigits := log2_le_of_lt hn
    rw [if_pos hn]
    rcases Nat.eq_zero_or_pos n with rfl | h0
    · exact .zero rfl
    · refine .finite (whole_eq h0) ?_
      rw [totalExponent, log2_shiftLeft h0]
      omega
  · rw [if_neg hn]
    exact .finite rfl (by decide)

end Counting

/-! ## Vectors -/

namespace SparseVector

variable {v w : SparseVector} {acc : Float} {t : Int}

/-- No weight is negative, infinite or NaN. -/
def Tame (v : SparseVector) : Prop := ∀ e ∈ v, IsBelow 1024 (unpacked e.2)

theorem isNonneg_dotFrom (hv : v.Tame) (hw : w.Tame) (hacc : IsNonneg (unpacked acc)) :
    IsNonneg (unpacked (dotFrom acc v w)) := by
  fun_induction dotFrom acc v w with
  | case1 => exact hacc
  | case2 => exact hacc
  | case3 acc i x v j y w hlt ih => exact ih (List.forall_mem_cons.1 hv).2 hw hacc
  | case4 acc i x v j y w hlt hlt' ih => exact ih hv (List.forall_mem_cons.1 hw).2 hacc
  | case5 acc i x v j y w hlt hlt' ih =>
    obtain ⟨hx, hv⟩ := List.forall_mem_cons.1 hv
    obtain ⟨hy, hw⟩ := List.forall_mem_cons.1 hw
    exact ih hv hw (isNonneg_add hacc (isNonneg_mul hx hy))

/-- `acc` plus the squares of the weights. -/
def squares (acc : Float) (v : SparseVector) : Float :=
  v.foldl (fun (acc : Float) (e : Nat × Float) => acc + e.2 * e.2) acc

theorem isNonneg_squares (hv : v.Tame) (hacc : IsNonneg (unpacked acc)) :
    IsNonneg (unpacked (squares acc v)) := by
  induction v generalizing acc with
  | nil => exact hacc
  | cons e v ih =>
    obtain ⟨he, hv⟩ := List.forall_mem_cons.1 hv
    exact ih hv (isNonneg_add hacc (isNonneg_mul he he))

/-- A sum of squares is as great as each of them. -/
theorem reaches_squares (hv : v.Tame) (hacc : IsNonneg (unpacked acc))
    (h : Reaches t (unpacked acc) ∨ ∃ e ∈ v, Reaches t (unpacked (e.2 * e.2))) :
    Reaches t (unpacked (squares acc v)) := by
  induction v generalizing acc with
  | nil => exact h.resolve_right (by simp)
  | cons e v ih =>
    obtain ⟨he, hv⟩ := List.forall_mem_cons.1 hv
    have hsquare := isNonneg_mul he he
    refine ih hv (isNonneg_add hacc hsquare) ?_
    simp only [List.mem_cons, exists_eq_or_imp] at h
    rcases h with h | h | h
    · exact .inl (reaches_add hacc hsquare (.inl h))
    · exact .inl (reaches_add hacc hsquare (.inr h))
    · exact .inr h

/-- The length of a vector is as great as each of its weights. -/
theorem reaches_norm (hv : v.Tame) (hpos : 0 < norm v) {e : Nat × Float} (he : e ∈ v) {m : Nat}
    {f : Int} {hm : 0 < m} (heq : unpacked e.2 = .finite .positive m f hm) :
    Reaches (totalExponent m f) (unpacked (norm v)) := by
  have hnorm : norm v = (squares 0 v).sqrt := rfl
  have hacc : IsNonneg (unpacked 0) := .zero rfl
  have hsquares : Reaches (2 * totalExponent m f - 1) (unpacked (squares 0 v)) := by
    rcases reaches_mul_self heq with h | h
    · exact reaches_squares hv hacc (.inr ⟨e, he, h⟩)
    -- the square may have been lost, but not all of them were, as there is a length
    · rcases (isNonneg_squares hv hacc).eq_zero_or_reaches with ⟨s, hzero⟩ | hreaches
      · exact absurd (unpacked_sqrt_zero hzero) ((pos_iff.1 hpos).ne_zero s)
      · exact hreaches.mono h
  rw [hnorm]
  exact (reaches_sqrt hsquares).mono (by omega)

/-- **Scaling keeps the weights finite and not negative.** -/
theorem tame_normalized (hv : v.Tame) : (normalized v).Tame := by
  intro e he
  rw [normalized] at he
  split at he
  · next hpos =>
    obtain ⟨e, hmem, rfl⟩ := List.mem_map.1 he
    exact isBelow_div (hv e hmem) (pos_iff.1 hpos) fun m f hm heq => reaches_norm hv hpos hmem heq
  · exact absurd he List.not_mem_nil

end SparseVector

/-! ## Texts -/

namespace Weights

variable {documents : List Text}

/-- What is used of the logarithm: for `n` documents, and for each number of them that may have a
    token, it is between zero and 1024. -/
def LogBounded (n : Nat) : Prop :=
  ∀ d ≤ n, 0 ≤ ((1 + n.toFloat) / (1 + d.toFloat)).log ∧
    ((1 + n.toFloat) / (1 + d.toFloat)).log ≤ 1024

theorem isBelow_termWeight {n d : Nat} (hlog : LogBounded n) (hd : d ≤ n) :
    IsBelow 13 (unpacked (termWeight n d)) := by
  obtain ⟨hlow, hhigh⟩ := hlog d hd
  have hone : IsBelow 11 (unpacked 1) := .finite unpacked_one (by decide)
  exact isBelow_add (isBelow_of_le hlow hhigh) hone (by decide) (by decide)

theorem tame_weigh (hlog : LogBounded documents.length) (ts : List Text) :
    ((fit documents).weigh ts).Tame := by
  have hweight : ∀ x ∈ (fit documents).idf, IsBelow 13 (unpacked x) := by
    rw [idf_fit, List.forall_mem_map]
    exact fun u _ => isBelow_termWeight hlog List.countP_le_length
  obtain ⟨ids, -, -, heq⟩ := (fit documents).exists_weigh_eq ts
  rw [SparseVector.Tame, heq, List.forall_mem_map]
  intro id _
  have hentry := isBelow_mul (isBelow_counted (((ts.filterMap (fit documents).termId?)).count id))
    (hweight _ (List.get_mem _ id)) (by decide) (by decide)
  exact hentry.mono (by decide)

/-- **The similarity of two texts is not negative**, whatever the documents and the texts are. -/
theorem nonneg_dot_vector (hlog : LogBounded documents.length) (t t' : Text) :
    0 ≤ ((fit documents).vector t).dot ((fit documents).vector t') := by
  have htame : ∀ t, ((fit documents).vector t).Tame := fun t =>
    SparseVector.tame_normalized (tame_weigh hlog (tokens t))
  exact nonneg_iff.2 (SparseVector.isNonneg_dotFrom (htame t) (htame t') (.zero rfl))

theorem isNaN_dot_vector (hlog : LogBounded documents.length) (t t' : Text) :
    (((fit documents).vector t).dot ((fit documents).vector t')).isNaN = false :=
  (nonneg_iff.1 (nonneg_dot_vector hlog t t')).isNaN

end Weights

end Retouch
