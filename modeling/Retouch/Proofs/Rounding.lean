/-
  How large the results of floating-point operations are.

  A positive number `m * 2 ^ e` is at least `2 ^ (t - 1)` and below `2 ^ t`, where `t` is its total
  exponent.  An operation computes a mantissa and an exponent that are near enough to the exact result,
  and rounds them.  Rounding drops the digits for which there is no room (`surplus`), goes up to the
  next mantissa or not (`rounded`), and stores the number (`stored`).

  * `rounds_roundWithAccuracy`: the total exponent is never lowered and is raised by one at most, but
    for numbers that are too small or too great to be stored;
  * `rounds_add`, `rounds_mul`, `rounds_div`, `rounds_sqrt`: the total exponents of results;
  * `isNonneg_add`, `isNonneg_mul`, `isBelow_div`: when a result is neither NaN nor negative.
-/
import Mathlib.Algebra.Group.Nat.Defs
import Mathlib.Algebra.Order.Group.Int
import Mathlib.Data.Nat.Sqrt
import Mathlib.Tactic.Common

namespace Retouch.Rounding

open Float.Model (Format UnpackedFloat totalExponent)
open Float.Model.UnpackedFloat (Accuracy ExtendedMantissa Sign packComponents roundWithAccuracy
  unpackExponent unpackExponent_packComponents unpackMantissa unpackMantissa_packComponents unpackSign)

/-! ## Numbers of digits -/

section Digits

variable {a b k : Nat}

theorem log2_le_of_lt (h : a < 2 ^ (k + 1)) : a.log2 ≤ k := by
  rcases Nat.eq_zero_or_pos a with rfl | ha
  · exact Nat.log2_zero ▸ Nat.zero_le k
  · exact Nat.le_of_lt_succ ((Nat.log2_lt ha.ne').2 h)

theorem log2_mono (h : a ≤ b) : a.log2 ≤ b.log2 :=
  log2_le_of_lt (Nat.lt_of_le_of_lt h Nat.lt_log2_self)

theorem le_log2_of_le (h : 2 ^ k ≤ a) : k ≤ a.log2 :=
  (Nat.le_log2 (Nat.ne_of_gt (Nat.lt_of_lt_of_le (Nat.two_pow_pos k) h))).2 h

theorem shiftLeft_pos (ha : 0 < a) (k : Nat) : 0 < a <<< k := by
  rw [Nat.shiftLeft_eq]
  exact Nat.mul_pos ha (Nat.two_pow_pos k)

theorem log2_shiftLeft (ha : 0 < a) (k : Nat) : (a <<< k).log2 = a.log2 + k := by
  have hp := Nat.two_pow_pos k
  rw [Nat.shiftLeft_eq, Nat.log2_eq_iff (Nat.mul_pos ha hp).ne', Nat.add_right_comm, Nat.pow_add,
    Nat.pow_add]
  exact ⟨Nat.mul_le_mul_right _ (Nat.log2_self_le ha.ne'),
    Nat.mul_lt_mul_of_pos_right Nat.lt_log2_self hp⟩

theorem log2_succ_le (ha : 0 < a) : (a + 1).log2 ≤ a.log2 + 1 := by
  rw [← Nat.log2_two_mul ha.ne']
  exact log2_mono (by omega)

theorem log2_add_le (a b : Nat) : (a + b).log2 ≤ max a.log2 b.log2 + 1 := by
  have hlt : ∀ {c}, c.log2 ≤ max a.log2 b.log2 → c < 2 ^ (max a.log2 b.log2 + 1) := fun hc =>
    Nat.lt_of_lt_of_le Nat.lt_log2_self (Nat.pow_le_pow_right (by decide) (Nat.succ_le_succ hc))
  have ha := hlt (le_max_left a.log2 b.log2)
  have hb := hlt (le_max_right a.log2 b.log2)
  refine log2_le_of_lt ?_
  rw [Nat.pow_succ]
  omega

theorem log2_add_le_log2_mul (ha : 0 < a) (hb : 0 < b) : a.log2 + b.log2 ≤ (a * b).log2 := by
  refine le_log2_of_le ?_
  rw [Nat.pow_add]
  exact Nat.mul_le_mul (Nat.log2_self_le ha.ne') (Nat.log2_self_le hb.ne')

theorem log2_mul_le (a b : Nat) : (a * b).log2 ≤ a.log2 + b.log2 + 1 := by
  refine log2_le_of_lt ?_
  rw [show a.log2 + b.log2 + 1 + 1 = (a.log2 + 1) + (b.log2 + 1) by omega, Nat.pow_add]
  exact Nat.mul_lt_mul_of_lt_of_le Nat.lt_log2_self Nat.lt_log2_self.le (Nat.two_pow_pos _)

theorem log2_div_le (hb : 0 < b) : (a / b).log2 ≤ a.log2 - b.log2 := by
  refine log2_le_of_lt ?_
  rw [Nat.div_lt_iff_lt_mul hb]
  calc a < 2 ^ (a.log2 + 1) := Nat.lt_log2_self
    _ ≤ 2 ^ (a.log2 - b.log2 + 1 + b.log2) := Nat.pow_le_pow_right (by decide) (by omega)
    _ = 2 ^ (a.log2 - b.log2 + 1) * 2 ^ b.log2 := Nat.pow_add ..
    _ ≤ 2 ^ (a.log2 - b.log2 + 1) * b := Nat.mul_le_mul_left _ (Nat.log2_self_le hb.ne')

theorem le_log2_div (hb : 0 < b) (h : b.log2 + 1 + k ≤ a.log2) : k ≤ (a / b).log2 := by
  have ha : a ≠ 0 := by
    rintro rfl
    rw [Nat.log2_zero] at h
    omega
  refine le_log2_of_le ?_
  rw [Nat.le_div_iff_mul_le hb]
  calc 2 ^ k * b ≤ 2 ^ k * 2 ^ (b.log2 + 1) := Nat.mul_le_mul_left _ Nat.lt_log2_self.le
    _ = 2 ^ (b.log2 + 1 + k) := by rw [← Nat.pow_add, Nat.add_comm]
    _ ≤ 2 ^ a.log2 := Nat.pow_le_pow_right (by decide) h
    _ ≤ a := Nat.log2_self_le ha

theorem log2_div_two_pow (a k : Nat) : (a / 2 ^ k).log2 = a.log2 - k := by
  have hb := Nat.two_pow_pos k
  refine Nat.le_antisymm ((log2_div_le hb).trans_eq (by rw [Nat.log2_two_pow])) ?_
  rcases Nat.lt_or_ge a.log2 k with h | h
  · omega
  rcases Nat.eq_zero_or_pos a with rfl | ha
  · rw [Nat.log2_zero, Nat.zero_sub]
    exact Nat.zero_le _
  · refine le_log2_of_le ?_
    rw [Nat.le_div_iff_mul_le hb, ← Nat.pow_add, Nat.sub_add_cancel h]
    exact Nat.log2_self_le ha.ne'

theorem le_log2_sqrt (ha : 0 < a) (h : 2 * k ≤ a.log2) : k ≤ a.sqrt.log2 := by
  refine le_log2_of_le ?_
  rw [Nat.le_sqrt, ← Nat.pow_add, ← Nat.two_mul]
  exact (Nat.le_log2 ha.ne').1 h

end Digits

/-! ## Shifted mantissas -/

theorem mantissa_shiftRight (em : ExtendedMantissa) (k : Nat) :
    (em >>> k).mantissa = em.mantissa / 2 ^ k := by
  induction k with
  | zero =>
    rw [Nat.pow_zero, Nat.div_one]
    rfl
  | succ k ih =>
    show (em >>> k).mantissa / 2 = _
    rw [ih, Nat.div_div_eq_div_mul, Nat.pow_succ]

/-- Digits that are zero leave no trace. -/
theorem shiftRight_shiftLeft (m k : Nat) :
    (⟨m <<< k, false, false⟩ : ExtendedMantissa) >>> k = ⟨m, false, false⟩ := by
  induction k generalizing m with
  | zero => rfl
  | succ k ih =>
    show ((⟨m <<< (k + 1), false, false⟩ : ExtendedMantissa) >>> k).shiftRightOne = _
    rw [Nat.shiftLeft_succ_inside, ih]
    simp [ExtendedMantissa.shiftRightOne]

theorem roundedMantissa_mem (em : ExtendedMantissa) :
    em.mantissa ≤ em.roundedMantissa ∧ em.roundedMantissa ≤ em.mantissa + 1 := by
  rcases em with ⟨m, _ | _, _ | _⟩ <;>
    simp only [ExtendedMantissa.roundedMantissa, ExtendedMantissa.accuracy,
      Accuracy.roundToNearestEven] <;> omega

theorem mantissa_ofMantissaAndAccuracy (m : Nat) (acc : Accuracy) :
    (ExtendedMantissa.ofMantissaAndAccuracy m acc).mantissa = m := by
  rcases acc with _ | (_ | _ | _) <;> rfl

/-! ## Rounding -/

section Rounding

variable {s : Sign} {m : Nat} {e : Int}

/-- The number of digits for which there is no room. -/
def surplus (m : Nat) (e : Int) : Nat := (max (totalExponent m e - 53) (-1074) - e).toNat

theorem div_surplus_lt (m : Nat) (e : Int) : m / 2 ^ surplus m e < 2 ^ 53 := by
  have hlog : m.log2 + 1 ≤ 53 + surplus m e := by
    rw [surplus, totalExponent]
    omega
  rw [Nat.div_lt_iff_lt_mul (Nat.two_pow_pos _), ← Nat.pow_add]
  exact Nat.lt_of_lt_of_le Nat.lt_log2_self (Nat.pow_le_pow_right (by decide) hlog)

theorem surplus_eq_zero (hm : m < 2 ^ 53) (he : -1074 ≤ e) : surplus m e = 0 := by
  have := log2_le_of_lt hm
  rw [surplus, totalExponent]
  omega

theorem surplus_two_pow (he : -1074 ≤ e) : surplus (2 ^ 53) e = 1 := by
  rw [surplus, totalExponent, Nat.log2_two_pow]
  omega

/-- A number with a mantissa that may be zero. -/
def ofMantissa (s : Sign) (m : Nat) (e : Int) : UnpackedFloat :=
  if h : m = 0 then .zero s else .finite s m e (Nat.pos_of_ne_zero h)

theorem ofMantissa_pos (h : 0 < m) : ofMantissa s m e = .finite s m e h := dif_neg h.ne'

theorem eq_of_ofMantissa_eq {s' : Sign} {m' : Nat} {e' : Int} {h : 0 < m'}
    (heq : ofMantissa s m e = .finite s' m' e' h) : m = m' ∧ e = e' := by
  rcases Nat.eq_zero_or_pos m with rfl | hm
  · cases heq
  · rw [ofMantissa_pos hm] at heq
    injection heq with _ hm he
    exact ⟨hm, he⟩

/-- A mantissa without its surplus digits, rounded up or down. -/
def rounded (m : Nat) (e : Int) (acc : Accuracy) : Nat :=
  (ExtendedMantissa.ofMantissaAndAccuracy m acc >>> surplus m e).roundedMantissa

theorem rounded_mem (m : Nat) (e : Int) (acc : Accuracy) :
    m / 2 ^ surplus m e ≤ rounded m e acc ∧ rounded m e acc ≤ m / 2 ^ surplus m e + 1 := by
  have h := roundedMantissa_mem (ExtendedMantissa.ofMantissaAndAccuracy m acc >>> surplus m e)
  rwa [mantissa_shiftRight, mantissa_ofMantissaAndAccuracy] at h

theorem rounded_shiftLeft {k : Nat} (hk : surplus (m <<< k) e = k) :
    rounded (m <<< k) e .exact = m := by
  rw [rounded, hk]
  exact congrArg ExtendedMantissa.roundedMantissa (shiftRight_shiftLeft m k)

/-- A mantissa that was rounded up to a power of two has one more surplus digit. -/
theorem roundWithAccuracy_eq (s : Sign) (m : Nat) (e : Int) (acc : Accuracy) :
    roundWithAccuracy Format.binary64 s m e acc =
      ofMantissa s (rounded m e acc / 2 ^ surplus (rounded m e acc) (e + surplus m e))
        (e + surplus m e + surplus (rounded m e acc) (e + surplus m e)) := by
  refine congrArg₂ (ofMantissa s) ?_ rfl
  rw [mantissa_shiftRight, mantissa_ofMantissaAndAccuracy]
  rfl

theorem roundWithAccuracy_cases (s : Sign) (m : Nat) (e : Int) (acc : Accuracy) :
    (roundWithAccuracy Format.binary64 s m e acc = .zero s ∧ m / 2 ^ surplus m e = 0) ∨
    (∃ r h, roundWithAccuracy Format.binary64 s m e acc = .finite s r (e + surplus m e) h ∧
      m / 2 ^ surplus m e ≤ r ∧ r ≤ m / 2 ^ surplus m e + 1 ∧ r < 2 ^ 53) ∨
    (∃ h, roundWithAccuracy Format.binary64 s m e acc =
        .finite s (2 ^ 52) (e + surplus m e + 1) h ∧ m / 2 ^ surplus m e + 1 = 2 ^ 53) := by
  have he : -1074 ≤ e + surplus m e := by
    rw [surplus]
    omega
  have hlt := div_surplus_lt m e
  obtain ⟨hle, hge⟩ := rounded_mem m e acc
  rw [roundWithAccuracy_eq]
  generalize rounded m e acc = r at hle hge
  rcases Nat.lt_or_ge r (2 ^ 53) with hr | hr
  · rw [surplus_eq_zero hr he, Nat.pow_zero, Nat.div_one, Int.natCast_zero, Int.add_zero]
    rcases Nat.eq_zero_or_pos r with rfl | hpos
    · exact .inl ⟨rfl, Nat.le_zero.1 hle⟩
    · exact .inr (.inl ⟨r, hpos, ofMantissa_pos hpos, hle, hge, hr⟩)
  · obtain rfl : r = 2 ^ 53 := by omega
    rw [surplus_two_pow he]
    exact .inr (.inr ⟨by decide, rfl, by omega⟩)

/-- Digits that are zero are dropped without loss. -/
theorem roundWithAccuracy_shiftLeft (hm : 0 < m) (hlog : m.log2 = 52) (he : -1074 ≤ e) (k : Nat) :
    roundWithAccuracy Format.binary64 s (m <<< k) (e - k) .exact = .finite s m e hm := by
  have hlt := ((Nat.log2_eq_iff hm.ne').1 hlog).2
  have hk : surplus (m <<< k) (e - k) = k := by
    rw [surplus, totalExponent, log2_shiftLeft hm]
    omega
  rw [roundWithAccuracy_eq, rounded_shiftLeft hk, hk, Int.sub_add_cancel, surplus_eq_zero hlt he,
    Nat.pow_zero, Nat.div_one, Int.natCast_zero, Int.add_zero, ofMantissa_pos hm]

/-- The exponent is the one with which the number is stored. -/
def Canonical (m : Nat) (e : Int) : Prop := e = max (totalExponent m e - 53) (-1074)

/-- Rounding never lowers the total exponent, and raises it by one at most. -/
theorem roundWithAccuracy_bounds (s : Sign) (acc : Accuracy)
    (he : e ≤ max (totalExponent m e - 53) (-1074)) :
    (roundWithAccuracy Format.binary64 s m e acc = .zero s ∧ totalExponent m e ≤ -1073) ∨
    ∃ m' e' h, roundWithAccuracy Format.binary64 s m e acc = .finite s m' e' h ∧ Canonical m' e' ∧
      totalExponent m e ≤ totalExponent m' e' ∧
      totalExponent m' e' ≤ max (totalExponent m e) (-1074) + 1 := by
  have htarget : e + surplus m e = max (totalExponent m e - 53) (-1074) := by
    rw [surplus]
    omega
  have hlog := log2_div_two_pow m (surplus m e)
  rw [totalExponent] at he htarget
  rcases roundWithAccuracy_cases s m e acc with
    ⟨heq, hq⟩ | ⟨r, hr, heq, hle, hge, hlt⟩ | ⟨h, heq, hq⟩
  · refine .inl ⟨heq, ?_⟩
    rw [totalExponent]
    have hm := (Nat.div_eq_zero_iff.1 hq).resolve_left (Nat.two_pow_pos _).ne'
    rcases Nat.eq_zero_or_pos m with rfl | hpos
    · rw [Nat.log2_zero] at he ⊢
      omega
    · have := (Nat.log2_lt hpos.ne').2 hm
      omega
  · refine .inr ⟨r, _, hr, heq, ?_⟩
    simp only [Canonical, totalExponent]
    have hlower := log2_mono hle
    have hupper := log2_mono hge
    have hdigits := log2_le_of_lt hlt
    -- a mantissa of which nothing is left may have been rounded up to one
    rcases Nat.eq_zero_or_pos (m / 2 ^ surplus m e) with hq | hq
    · rw [hq, Nat.zero_add, show Nat.log2 1 = 0 by decide] at hupper
      rw [hq, Nat.log2_zero] at hlog
      omega
    · have hsucc := log2_succ_le hq
      have hsurplus := log2_mono (Nat.div_pos_iff.1 hq).2
      rw [Nat.log2_two_pow] at hsurplus
      omega
  · refine .inr ⟨_, _, h, heq, ?_⟩
    simp only [Canonical, totalExponent]
    rw [show m / 2 ^ surplus m e = 2 ^ 53 - 1 by omega,
      show Nat.log2 (2 ^ 53 - 1) = 52 by decide] at hlog
    rw [Nat.log2_two_pow]
    omega

end Rounding

/-! ## Stored numbers -/

section Stored

variable {s : Sign} {m : Nat} {e : Int}

/-- What is read of a number that was stored. -/
def stored (v : UnpackedFloat) : UnpackedFloat := (Float.Model.pack v).unpack

/-- The number with a sign, a biased exponent and the digits after the first one. -/
def ofParts (s : Sign) (k : BitVec 11) (f : BitVec 52) : UnpackedFloat :=
  if k = -1#11 then if f = 0#52 then .infinity s else .notANumber
  else if k = 0#11 then ofMantissa s f.toNat (-1074)
  else ofMantissa s (2 ^ 52 + f.toNat) (k.toNat - 1075)

theorem toNat_one_append (f : BitVec 52) : (1#1 ++ f).toNat = 2 ^ 52 + f.toNat := by
  rw [BitVec.toNat_append, ← Nat.shiftLeft_add_eq_or_of_lt f.isLt]
  rfl

theorem unpack_eq (b : BitVec Format.binary64.numBits) :
    UnpackedFloat.unpack Format.binary64 b =
      ofParts (Sign.ofBitVec (unpackSign b)) (unpackExponent b) (unpackMantissa b) := by
  refine if_congr Iff.rfl rfl (dite_congr rfl (fun hk => ?_) fun hk => ?_)
  · by_cases hf : unpackMantissa b = 0#52
    · rw [dif_pos hf, hf]
      rfl
    · rw [dif_neg hf, ← ofMantissa_pos, hk]
      rfl
  · rw [← ofMantissa_pos, toNat_one_append]
    rfl

theorem ofBitVec_unpackSign (s : Sign) (k : BitVec 11) (f : BitVec 52) :
    Sign.ofBitVec (unpackSign (packComponents Format.binary64 s k f)) = s := by
  have h : unpackSign (packComponents Format.binary64 s k f) = s.toBitVec := by
    show (s.toBitVec ++ k ++ f).extractLsb' 63 1 = _
    rw [BitVec.extractLsb'_append_eq_of_le (by decide),
      BitVec.extractLsb'_append_eq_of_le (by decide), BitVec.extractLsb'_eq_self]
  rw [h]
  cases s <;> rfl

theorem unpack_packComponents (s : Sign) (k : BitVec 11) (f : BitVec 52) :
    UnpackedFloat.unpack Format.binary64 (packComponents Format.binary64 s k f) = ofParts s k f := by
  rw [unpack_eq, ofBitVec_unpackSign, unpackExponent_packComponents, unpackMantissa_packComponents]

theorem stored_infinity (s : Sign) : stored (.infinity s) = .infinity s := by
  cases s <;> rfl

theorem stored_zero (s : Sign) : stored (.zero s) = .zero s := by
  cases s <;> rfl

/-- A number is stored without loss, unless its exponent is too great. -/
theorem stored_finite (hc : Canonical m e) (h : 0 < m) :
    stored (.finite s m e h) = if e ≤ 971 then .finite s m e h else .infinity s := by
  rw [Canonical, totalExponent] at hc
  have hlow := Nat.log2_self_le h.ne'
  have hhigh : m < 2 ^ (m.log2 + 1) := Nat.lt_log2_self
  show UnpackedFloat.unpack Format.binary64 (if 2048 ≤ (e + 1023 + 52).toNat + 1 then
      packComponents Format.binary64 s (-1#11) 0#52
    else if m.log2 + 1 = 53 then
      packComponents Format.binary64 s (.ofNat 11 (e + 1023 + 52).toNat) (.ofNat 52 m)
    else packComponents Format.binary64 s 0#11 (.ofNat 52 m)) = _
  by_cases he : e ≤ 971
  · rw [if_neg (by omega), if_pos he, ← ofMantissa_pos h]
    by_cases hlog : m.log2 = 52
    · have hk : (BitVec.ofNat 11 (e + 1023 + 52).toNat).toNat = (e + 1075).toNat := by
        rw [BitVec.toNat_ofNat]
        omega
      have hf : 2 ^ 52 + (BitVec.ofNat 52 m).toNat = m := by
        rw [hlog] at hlow hhigh
        rw [BitVec.toNat_ofNat]
        omega
      rw [if_pos (by omega), unpack_packComponents, ofParts, if_neg, if_neg, hf, hk]
      · congr 1
        omega
      · rw [← BitVec.toNat_inj, hk]
        show (e + 1075).toNat ≠ 0
        omega
      · rw [← BitVec.toNat_inj, hk]
        show (e + 1075).toNat ≠ 2047
        omega
    · have hf : (BitVec.ofNat 52 m).toNat = m := by
        have hlt : m < 2 ^ 52 :=
          Nat.lt_of_lt_of_le hhigh (Nat.pow_le_pow_right (by decide) (by omega))
        rw [BitVec.toNat_ofNat, Nat.mod_eq_of_lt hlt]
      rw [if_neg (by omega), unpack_packComponents, ofParts, if_neg (by decide), if_pos rfl, hf]
      congr 1
      omega
  · rw [if_pos (by omega), if_neg he, unpack_packComponents]
    rfl

theorem canonical_of_ofParts {s' : Sign} {k : BitVec 11} {f : BitVec 52} {h : 0 < m}
    (heq : ofParts s' k f = .finite s m e h) : Canonical m e ∧ e ≤ 971 := by
  have hf := f.isLt
  rw [ofParts] at heq
  rw [Canonical, totalExponent]
  by_cases hmax : k = -1#11
  · rw [if_pos hmax] at heq
    by_cases hzero : f = 0#52
    · rw [if_pos hzero] at heq
      cases heq
    · rw [if_neg hzero] at heq
      cases heq
  · have hk : k.toNat ≠ 2047 := fun h => hmax (BitVec.eq_of_toNat_eq h)
    rw [if_neg hmax] at heq
    by_cases hmin : k = 0#11
    · rw [if_pos hmin] at heq
      obtain ⟨rfl, rfl⟩ := eq_of_ofMantissa_eq heq
      have := log2_le_of_lt (k := 51) hf
      omega
    · have hk' : k.toNat ≠ 0 := fun h => hmin (BitVec.eq_of_toNat_eq h)
      have hlog : (2 ^ 52 + f.toNat).log2 = 52 := (Nat.log2_eq_iff (by omega)).2 (by omega)
      rw [if_neg hmin] at heq
      obtain ⟨rfl, rfl⟩ := eq_of_ofMantissa_eq heq
      rw [hlog]
      omega

/-- `v` may be what is stored of a number with sign `s` and total exponent `t`. -/
inductive Rounds (s : Sign) (t : Int) (v : UnpackedFloat) : Prop
  | zero (hv : v = .zero s) (ht : t ≤ -1073)
  | finite {m : Nat} {e : Int} {h : 0 < m} (hv : v = .finite s m e h) (hle : t ≤ totalExponent m e)
      (hge : totalExponent m e ≤ max t (-1074) + 1)
  | infinity (hv : v = .infinity s) (ht : 1024 ≤ t)

/-- **What is stored of a rounded number** has its total exponent or one more. -/
theorem rounds_roundWithAccuracy (s : Sign) (acc : Accuracy)
    (he : e ≤ max (totalExponent m e - 53) (-1074)) :
    Rounds s (totalExponent m e) (stored (roundWithAccuracy Format.binary64 s m e acc)) := by
  rcases roundWithAccuracy_bounds s acc he with ⟨heq, hzero⟩ | ⟨m', e', h, heq, hc, hle, hge⟩
  · rw [heq, stored_zero]
    exact .zero rfl hzero
  · rw [heq, stored_finite hc]
    by_cases he : e' ≤ 971
    · rw [if_pos he]
      exact .finite rfl hle hge
    · rw [if_neg he]
      rw [Canonical] at hc
      exact .infinity rfl (by omega)

theorem rounds_round (s : Sign) (hm : 0 < m) :
    Rounds s (totalExponent m e) (stored (UnpackedFloat.round Format.binary64 s m e)) := by
  obtain ⟨k, hk⟩ : ∃ k, k = (e - max (totalExponent m e - 53) (-1074)).toNat := ⟨_, rfl⟩
  have htotal : totalExponent (m <<< k) (e - k) = totalExponent m e := by
    rw [totalExponent, log2_shiftLeft hm, totalExponent]
    omega
  have h := rounds_roundWithAccuracy s .exact (m := m <<< k) (e := e - k) (by rw [htotal]; omega)
  rw [htotal] at h
  subst hk
  exact h

theorem round_eq (he : e ≤ max (totalExponent m e - 53) (-1074)) :
    UnpackedFloat.round Format.binary64 s m e = roundWithAccuracy Format.binary64 s m e .exact := by
  have hk : (e - max (totalExponent m e - 53) (-1074)).toNat = 0 := by omega
  show roundWithAccuracy _ s (m <<< (e - max (totalExponent m e - 53) (-1074)).toNat)
    (e - (e - max (totalExponent m e - 53) (-1074)).toNat) .exact = _
  rw [hk, Nat.shiftLeft_zero, Int.natCast_zero, Int.sub_zero]

end Stored

/-! ## Operations on positive numbers -/

/-- The parts of a number. -/
def unpacked (x : Float) : UnpackedFloat := x.toModel.unpack

section Operations

variable {s : Sign} {x y : Float} {m n : Nat} {e f : Int} {hm : 0 < m} {hn : 0 < n}

theorem canonical_of_unpacked (hx : unpacked x = .finite s m e hm) : Canonical m e ∧ e ≤ 971 :=
  canonical_of_ofParts ((unpack_eq _).symm.trans hx)

/-- Storing a number that was read changes nothing. -/
theorem stored_unpacked (x : Float) : stored (unpacked x) = unpacked x := by
  rcases hx : unpacked x with s | _ | s | ⟨s, m, e, hm⟩
  · exact stored_infinity s
  · rfl
  · exact stored_zero s
  · obtain ⟨hc, he⟩ := canonical_of_unpacked hx
    rw [stored_finite hc, if_pos he]

theorem unpacked_add (x y : Float) :
    unpacked (x + y) = stored (UnpackedFloat.add Format.binary64 (unpacked x) (unpacked y)) := rfl

theorem unpacked_mul (x y : Float) :
    unpacked (x * y) = stored (UnpackedFloat.mul Format.binary64 (unpacked x) (unpacked y)) := rfl

theorem unpacked_div (x y : Float) :
    unpacked (x / y) = stored (UnpackedFloat.div Format.binary64 (unpacked x) (unpacked y)) := rfl

theorem unpacked_sqrt (x : Float) :
    unpacked x.sqrt = stored (UnpackedFloat.sqrt Format.binary64 (unpacked x)) := rfl

theorem add_finite : UnpackedFloat.add Format.binary64 (.finite .positive m e hm)
    (.finite .positive n f hn) = UnpackedFloat.round Format.binary64 .positive
      (m <<< (e - min e f).toNat + n <<< (f - min e f).toNat) (min e f) := by
  have hpos := shiftLeft_pos hm (e - min e f).toNat
  show UnpackedFloat.normalize Format.binary64 (((m <<< (e - min e f).toNat : Nat) : Int) +
    ((n <<< (f - min e f).toNat : Nat) : Int)) (min e f) .positive = _
  rw [← Int.natCast_add, UnpackedFloat.normalize,
    Int.compare_eq_gt.2 (Int.natCast_pos.2 (Nat.add_pos_left hpos _))]
  rfl

/-- A sum has the greater total exponent of its terms or one more, and is never too small. -/
theorem rounds_add (hx : unpacked x = .finite .positive m e hm)
    (hy : unpacked y = .finite .positive n f hn) :
    ∃ t, totalExponent m e ≤ t ∧ totalExponent n f ≤ t ∧
      t ≤ max (totalExponent m e) (totalExponent n f) + 1 ∧ -1073 < t ∧
      Rounds .positive t (unpacked (x + y)) := by
  have hce := (canonical_of_unpacked hx).1
  have hcf := (canonical_of_unpacked hy).1
  have hlogm := log2_shiftLeft hm (e - min e f).toNat
  have hlogn := log2_shiftLeft hn (f - min e f).toNat
  have hposm := shiftLeft_pos hm (e - min e f).toNat
  have hposn := shiftLeft_pos hn (f - min e f).toNat
  rw [unpacked_add, hx, hy, add_finite]
  generalize m <<< (e - min e f).toNat = m' at *
  generalize n <<< (f - min e f).toNat = n' at *
  have hm' := log2_mono (Nat.le_add_right m' n')
  have hn' := log2_mono (Nat.le_add_left n' m')
  have hle := log2_add_le m' n'
  have hone : 1 ≤ (m' + n').log2 := le_log2_of_le (by omega)
  simp only [Canonical, totalExponent] at hce hcf
  refine ⟨_, ?_, ?_, ?_, ?_, rounds_round _ (by omega)⟩ <;> simp only [totalExponent] <;> omega

theorem rounds_mul (hx : unpacked x = .finite .positive m e hm)
    (hy : unpacked y = .finite .positive n f hn) :
    ∃ t, totalExponent m e + totalExponent n f - 1 ≤ t ∧
      t ≤ totalExponent m e + totalExponent n f ∧ Rounds .positive t (unpacked (x * y)) := by
  have hce := (canonical_of_unpacked hx).1
  have hcf := (canonical_of_unpacked hy).1
  have hle := log2_add_le_log2_mul hm hn
  have hge := log2_mul_le m n
  rw [unpacked_mul, hx, hy]
  simp only [Canonical, totalExponent] at hce hcf
  refine ⟨totalExponent (m * n) (e + f), ?_, ?_, rounds_roundWithAccuracy _ _ ?_⟩ <;>
    simp only [totalExponent] <;> omega

theorem rounds_div (hx : unpacked x = .finite .positive m e hm)
    (hy : unpacked y = .finite .positive n f hn) :
    ∃ t, t ≤ max (totalExponent m e - totalExponent n f + 1) (-1073) ∧
      Rounds .positive t (unpacked (x / y)) := by
  -- the quotient of the mantissas is computed with this exponent, which gives it 53 digits
  obtain ⟨e', he'⟩ : ∃ e', e' = min (e - f)
    (max (totalExponent m e - totalExponent n f - 53) (-1074)) := ⟨_, rfl⟩
  have hlog := log2_shiftLeft hm (e - f - e').toNat
  have hupper := log2_div_le (a := m <<< (e - f - e').toNat) hn
  have hlower : 53 ≤ m.log2 + (e - f - e').toNat - n.log2 →
      52 ≤ (m <<< (e - f - e').toNat / n).log2 := fun h => le_log2_div hn (by omega)
  have htarget : e' ≤ max (totalExponent (m <<< (e - f - e').toNat / n) e' - 53) (-1074) := by
    simp only [totalExponent] at he' ⊢
    omega
  rw [unpacked_div, hx, hy]
  refine ⟨totalExponent (m <<< (e - f - e').toNat / n) e', ?_, ?_⟩
  · simp only [totalExponent] at he' ⊢
    omega
  · subst he'
    exact rounds_roundWithAccuracy _ _ htarget

theorem rounds_sqrt (hx : unpacked x = .finite .positive m e hm) :
    ∃ t, (totalExponent m e + 1) / 2 ≤ t ∧ Rounds .positive t (unpacked x.sqrt) := by
  obtain ⟨e', he'⟩ : ∃ e', e' = min (e / 2) (max ((totalExponent m e + 1) / 2 - 53) (-1074)) :=
    ⟨_, rfl⟩
  have hlog := log2_shiftLeft hm (e - 2 * e').toNat
  have hroot := le_log2_sqrt (k := (m.log2 + (e - 2 * e').toNat) / 2)
    (shiftLeft_pos hm (e - 2 * e').toNat) (by omega)
  have hle : (totalExponent m e + 1) / 2 ≤ totalExponent (m <<< (e - 2 * e').toNat).sqrt e' := by
    simp only [totalExponent] at he' ⊢
    omega
  rw [unpacked_sqrt, hx]
  refine ⟨_, hle, ?_⟩
  subst he'
  exact rounds_roundWithAccuracy _ _ (by omega)

end Operations

/-! ## Sizes -/

/-- Zero, a positive number or infinity. -/
inductive IsNonneg (v : UnpackedFloat) : Prop
  | zero {s : Sign} (hv : v = .zero s)
  | finite {m : Nat} {e : Int} {h : 0 < m} (hv : v = .finite .positive m e h)
  | infinity (hv : v = .infinity .positive)

/-- Zero, or a positive number with total exponent `t` at most. -/
inductive IsBelow (t : Int) (v : UnpackedFloat) : Prop
  | zero {s : Sign} (hv : v = .zero s)
  | finite {m : Nat} {e : Int} {h : 0 < m} (hv : v = .finite .positive m e h)
      (ht : totalExponent m e ≤ t)

/-- A positive number with total exponent `t` at least, or infinity. -/
inductive Reaches (t : Int) (v : UnpackedFloat) : Prop
  | finite {m : Nat} {e : Int} {h : 0 < m} (hv : v = .finite .positive m e h)
      (ht : t ≤ totalExponent m e)
  | infinity (hv : v = .infinity .positive)

section Sizes

variable {v : UnpackedFloat} {t u : Int} {m : Nat} {e : Int} {hm : 0 < m}

theorem IsNonneg.isNaN (h : IsNonneg v) : v.isNaN = false := by
  rcases h with rfl | rfl | rfl <;> rfl

theorem IsBelow.mono (h : IsBelow t v) (hle : t ≤ u) : IsBelow u v := by
  rcases h with hv | ⟨hv, ht⟩
  · exact .zero hv
  · exact .finite hv (ht.trans hle)

theorem Reaches.isNonneg (h : Reaches t v) : IsNonneg v := by
  rcases h with ⟨hv, -⟩ | hv
  · exact .finite hv
  · exact .infinity hv

theorem Reaches.mono (h : Reaches t v) (hle : u ≤ t) : Reaches u v := by
  rcases h with ⟨hv, ht⟩ | hv
  · exact .finite hv (hle.trans ht)
  · exact .infinity hv

theorem Reaches.le (h : Reaches t v) (hv : v = .finite .positive m e hm) :
    t ≤ totalExponent m e := by
  rcases h with ⟨rfl, ht⟩ | rfl
  · injection hv with _ hm he
    rwa [hm, he] at ht
  · exact nomatch hv

theorem Reaches.ne_zero (h : Reaches t v) (s : Sign) : v ≠ .zero s := by
  rcases h with ⟨rfl, -⟩ | rfl <;> exact nofun

theorem Rounds.isNonneg (h : Rounds .positive t v) : IsNonneg v := by
  rcases h with ⟨hv, -⟩ | ⟨hv, -, -⟩ | ⟨hv, -⟩
  · exact .zero hv
  · exact .finite hv
  · exact .infinity hv

theorem Rounds.isBelow (h : Rounds .positive t v) (htu : max t (-1074) + 1 ≤ u)
    (hu : u ≤ 1024) : IsBelow u v := by
  rcases h with ⟨hv, -⟩ | ⟨hv, -, hge⟩ | ⟨hv, ht⟩
  · exact .zero hv
  · exact .finite hv (hge.trans htu)
  · omega

theorem Rounds.reaches (h : Rounds .positive t v) (hut : u ≤ t) (ht : -1073 < t) :
    Reaches u v := by
  rcases h with ⟨hv, hzero⟩ | ⟨hv, hle, -⟩ | ⟨hv, -⟩
  · omega
  · exact .finite hv (hut.trans hle)
  · exact .infinity hv

end Sizes

section Floats

variable {s : Sign} {x y : Float} {t u : Int} {m : Nat} {e : Int} {hm : 0 < m}

theorem nonneg_iff : 0 ≤ x ↔ IsNonneg (unpacked x) := by
  have h : 0 ≤ x ↔
      Option.any Ordering.isLE (UnpackedFloat.compare (.zero .positive) (unpacked x)) = true :=
    decide_eq_true_iff
  rw [h]
  rcases unpacked x with (_ | _) | _ | _ | ⟨_ | _, m, e, hm⟩
  case infinity.positive => exact iff_of_true rfl (.infinity rfl)
  case zero => exact iff_of_true rfl (.zero rfl)
  case finite.positive => exact iff_of_true rfl (.finite rfl)
  all_goals exact iff_of_false nofun (by rintro (h | h | h) <;> exact nomatch h)

/-- The least positive number has the total exponent -1073. -/
theorem reaches_of_finite (hx : unpacked x = .finite .positive m e hm) :
    Reaches (-1073) (unpacked x) := by
  have hc := (canonical_of_unpacked hx).1
  rw [Canonical, totalExponent] at hc
  refine .finite hx ?_
  rw [totalExponent]
  omega

theorem pos_iff : 0 < x ↔ Reaches (-1073) (unpacked x) := by
  have h : 0 < x ↔ (UnpackedFloat.compare (.zero .positive) (unpacked x) == some .lt) = true :=
    decide_eq_true_iff
  rw [h]
  rcases hx : unpacked x with (_ | _) | _ | _ | ⟨_ | _, m, e, hm⟩
  case infinity.positive => exact iff_of_true rfl (.infinity rfl)
  case finite.positive => exact iff_of_true rfl (hx ▸ reaches_of_finite hx)
  all_goals exact iff_of_false nofun (by rintro (⟨h, -⟩ | h) <;> exact nomatch h)

theorem IsNonneg.eq_zero_or_reaches (h : IsNonneg (unpacked x)) :
    (∃ s, unpacked x = .zero s) ∨ Reaches (-1073) (unpacked x) := by
  rcases h with hx | hx | hx
  · exact .inl ⟨_, hx⟩
  · exact .inr (reaches_of_finite hx)
  · exact .inr (.infinity hx)

theorem isBelow_of_le (hx : 0 ≤ x) (hx' : x ≤ 1024) : IsBelow 11 (unpacked x) := by
  have h : x ≤ 1024 ↔ Option.any Ordering.isLE (UnpackedFloat.compare (unpacked x)
      (.finite .positive (2 ^ 52) (-42) (by decide))) = true :=
    decide_eq_true_iff
  rw [h] at hx'
  rcases nonneg_iff.1 hx with hx | hx | hx
  · exact .zero hx
  · have hc := (canonical_of_unpacked hx).1
    rw [hx] at hx'
    have he := Int.isLE_compare.1 (Ordering.isLE_left_of_isLE_then hx')
    refine .finite hx ?_
    rw [Canonical, totalExponent] at hc
    rw [totalExponent]
    omega
  · rw [hx] at hx'
    exact nomatch hx'

/-! ### Sums -/

theorem unpacked_zero_add (hx : unpacked x = .zero s) (hy : ∀ s, unpacked y ≠ .zero s) :
    unpacked (x + y) = unpacked y := by
  have hadd : UnpackedFloat.add Format.binary64 (unpacked x) (unpacked y) = unpacked y := by
    rw [hx]
    rcases h : unpacked y with s' | _ | s' | ⟨s', m, e, hm⟩
    case zero => exact absurd h (hy s')
    all_goals rfl
  rw [unpacked_add, hadd, stored_unpacked]

theorem add_comm_parts (v w : UnpackedFloat) :
    UnpackedFloat.add Format.binary64 v w = UnpackedFloat.add Format.binary64 w v := by
  rcases v with (_ | _) | _ | (_ | _) | ⟨s, m, e, hm⟩ <;>
    rcases w with (_ | _) | _ | (_ | _) | ⟨s', n, f, hn⟩
  case finite.finite =>
    show UnpackedFloat.normalize Format.binary64 (s.apply (m <<< (e - min e f).toNat : Nat) +
        s'.apply (n <<< (f - min e f).toNat : Nat)) (min e f) .positive =
      UnpackedFloat.normalize Format.binary64 (s'.apply (n <<< (f - min f e).toNat : Nat) +
        s.apply (m <<< (e - min f e).toNat : Nat)) (min f e) .positive
    rw [min_comm f e, Int.add_comm]
  all_goals rfl

theorem unpacked_add_zero (hy : unpacked y = .zero s) (hx : ∀ s, unpacked x ≠ .zero s) :
    unpacked (x + y) = unpacked x := by
  rw [unpacked_add, add_comm_parts, ← unpacked_add, unpacked_zero_add hy hx]

theorem unpacked_zero_add_zero {s' : Sign} (hx : unpacked x = .zero s)
    (hy : unpacked y = .zero s') : ∃ s, unpacked (x + y) = .zero s := by
  rw [unpacked_add, hx, hy]
  cases s <;> cases s' <;> exact ⟨_, rfl⟩

/-- A sum is as great as each of its terms. -/
theorem reaches_add (hx : IsNonneg (unpacked x)) (hy : IsNonneg (unpacked y))
    (h : Reaches t (unpacked x) ∨ Reaches t (unpacked y)) : Reaches t (unpacked (x + y)) := by
  rcases hx with hx | hx | hx
  · have hreaches := h.resolve_left fun h => h.ne_zero _ hx
    rwa [unpacked_zero_add hx hreaches.ne_zero]
  · rcases hy with hy | hy | hy
    · have hreaches := h.resolve_right fun h => h.ne_zero _ hy
      rwa [unpacked_add_zero hy hreaches.ne_zero]
    · obtain ⟨t', hm, hn, -, hlow, hrounds⟩ := rounds_add hx hy
      refine hrounds.reaches ?_ hlow
      rcases h with h | h
      · exact (h.le hx).trans hm
      · exact (h.le hy).trans hn
    · rw [unpacked_add, hx, hy]
      exact .infinity (stored_infinity _)
  · rw [unpacked_add, hx]
    rcases hy with hy | hy | hy <;> rw [hy] <;> exact .infinity (stored_infinity _)

theorem isNonneg_add (hx : IsNonneg (unpacked x)) (hy : IsNonneg (unpacked y)) :
    IsNonneg (unpacked (x + y)) := by
  rcases hx.eq_zero_or_reaches with ⟨s, hzero⟩ | hpos
  · rcases hy.eq_zero_or_reaches with ⟨s', hzero'⟩ | hpos
    · obtain ⟨s'', h⟩ := unpacked_zero_add_zero hzero hzero'
      exact .zero h
    · exact (reaches_add hx hy (.inr hpos)).isNonneg
  · exact (reaches_add hx hy (.inl hpos)).isNonneg

theorem isBelow_add (hx : IsBelow t (unpacked x)) (hy : IsBelow t (unpacked y)) (hlow : -1073 ≤ t)
    (hhigh : t ≤ 1022) : IsBelow (t + 2) (unpacked (x + y)) := by
  rcases hx with hx | ⟨hx, hm⟩
  · rcases hy with hy | ⟨hy, hn⟩
    · obtain ⟨s, h⟩ := unpacked_zero_add_zero hx hy
      exact .zero h
    · rw [unpacked_zero_add hx (reaches_of_finite hy).ne_zero]
      exact .finite hy (by omega)
  · rcases hy with hy | ⟨hy, hn⟩
    · rw [unpacked_add_zero hy (reaches_of_finite hx).ne_zero]
      exact .finite hx (by omega)
    · obtain ⟨t', -, -, hle, -, hrounds⟩ := rounds_add hx hy
      exact hrounds.isBelow (by omega) (by omega)

/-! ### Products, roots and quotients -/

theorem unpacked_mul_cases (hx : IsBelow t (unpacked x)) (hy : IsBelow u (unpacked y)) :
    (∃ s, unpacked (x * y) = .zero s) ∨
      ∃ t', t' ≤ t + u ∧ Rounds .positive t' (unpacked (x * y)) := by
  rcases hx with hx | ⟨hx, hm⟩
  · rw [unpacked_mul, hx]
    rcases hy with hy | ⟨hy, -⟩ <;> rw [hy] <;> exact .inl ⟨_, stored_zero _⟩
  · rcases hy with hy | ⟨hy, hn⟩
    · rw [unpacked_mul, hx, hy]
      exact .inl ⟨_, stored_zero _⟩
    · obtain ⟨t', -, hle, hrounds⟩ := rounds_mul hx hy
      exact .inr ⟨t', by omega, hrounds⟩

theorem isNonneg_mul (hx : IsBelow t (unpacked x)) (hy : IsBelow u (unpacked y)) :
    IsNonneg (unpacked (x * y)) := by
  rcases unpacked_mul_cases hx hy with ⟨s, h⟩ | ⟨t', -, hrounds⟩
  · exact .zero h
  · exact hrounds.isNonneg

theorem isBelow_mul (hx : IsBelow t (unpacked x)) (hy : IsBelow u (unpacked y))
    (hlow : -1074 ≤ t + u) (hhigh : t + u < 1024) : IsBelow (t + u + 1) (unpacked (x * y)) := by
  rcases unpacked_mul_cases hx hy with ⟨s, h⟩ | ⟨t', hle, hrounds⟩
  · exact .zero h
  · exact hrounds.isBelow (by omega) (by omega)

/-- A square may be zero only if it is below all positive numbers. -/
theorem reaches_mul_self (hx : unpacked x = .finite .positive m e hm) :
    Reaches (2 * totalExponent m e - 1) (unpacked (x * x)) ∨
      2 * totalExponent m e - 1 ≤ -1073 := by
  obtain ⟨t, hle, -, hrounds⟩ := rounds_mul hx hx
  rcases Int.lt_or_le (-1073) t with ht | ht
  · exact .inl (hrounds.reaches (by omega) ht)
  · exact .inr (by omega)

theorem unpacked_sqrt_zero (hx : unpacked x = .zero s) : unpacked x.sqrt = .zero s := by
  rw [unpacked_sqrt, hx]
  exact stored_zero s

theorem reaches_sqrt (h : Reaches t (unpacked x)) : Reaches ((t + 1) / 2) (unpacked x.sqrt) := by
  rcases h with ⟨hx, ht⟩ | hx
  · obtain ⟨t', hle, hrounds⟩ := rounds_sqrt hx
    have hlow := (reaches_of_finite hx).le hx
    exact hrounds.reaches (by omega) (by omega)
  · rw [unpacked_sqrt, hx]
    exact .infinity (stored_infinity _)

/-- The quotient by a number that is as great does not overflow. -/
theorem isBelow_div (hx : IsBelow t (unpacked x)) (hy : Reaches u (unpacked y))
    (h : ∀ m e hm, unpacked x = .finite .positive m e hm →
      Reaches (totalExponent m e) (unpacked y)) : IsBelow 1024 (unpacked (x / y)) := by
  rcases hx with hx | ⟨hx, -⟩
  · rw [unpacked_div, hx]
    rcases hy with ⟨hy, -⟩ | hy <;> rw [hy] <;> exact .zero (stored_zero _)
  · rcases h _ _ _ hx with ⟨hy, ht⟩ | hy
    · obtain ⟨t, hle, hrounds⟩ := rounds_div hx hy
      exact hrounds.isBelow (by omega) le_rfl
    · rw [unpacked_div, hx, hy]
      exact .zero (stored_zero _)

end Floats

end Retouch.Rounding
