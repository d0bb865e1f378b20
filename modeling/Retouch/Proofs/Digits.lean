/-
  Digits, word characters, white space and numbers in decimal.

  No digit or other word character is white space, and the digits of a number are read back as its
  value.
-/
import Mathlib.Data.List.Basic
import Retouch.Text.Word

namespace Retouch.Text

/-! ## Characters -/

theorem isBlank_of_isDigit {c : Char} (h : c.isDigit = true) : isBlank c = false := by
  simp only [Char.isDigit, Bool.and_eq_true, decide_eq_true_eq, ge_iff_le,
    UInt32.le_iff_toNat_le] at h
  have hlo : 48 ≤ c.toNat := h.1
  have hhi : c.toNat ≤ 57 := h.2
  simp only [isBlank]
  grind

theorem isDigit_of_isBlank {c : Char} (h : isBlank c = true) : c.isDigit = false := by
  rw [Bool.eq_false_iff]
  intro hd
  rw [isBlank_of_isDigit hd] at h
  exact absurd h (by decide)

theorem isDecimal_of_isDigit {c : Char} (h : c.isDigit = true) : isDecimal c = true := by
  have hlt : c.toNat < 0x80 := by
    simp only [Char.isDigit, Bool.and_eq_true, decide_eq_true_eq, ge_iff_le,
      UInt32.le_iff_toNat_le] at h
    have hhi : c.toNat ≤ 57 := h.2
    omega
  rw [isDecimal, if_pos hlt, h]

/-- The code points of white space beyond ASCII. -/
def wideBlanks : List Nat :=
  [0x85, 0xA0, 0x1680, 0x2000, 0x2001, 0x2002, 0x2003, 0x2004, 0x2005, 0x2006, 0x2007, 0x2008, 0x2009,
    0x200A, 0x2028, 0x2029, 0x202F, 0x205F, 0x3000]

theorem toNat_mem_wideBlanks {c : Char} (h : isBlank c = true) (hge : ¬ c.toNat < 0x80) :
    c.toNat ∈ wideBlanks := by
  simp only [isBlank, Bool.or_eq_true, Bool.and_eq_true, decide_eq_true_eq, beq_iff_eq] at h
  simp only [wideBlanks, List.mem_cons, List.not_mem_nil, or_false]
  omega

/-- White space holds no digit of any script. -/
theorem isDecimal_of_isBlank {c : Char} (h : isBlank c = true) : isDecimal c = false := by
  rw [isDecimal]
  split
  · exact isDigit_of_isBlank h
  · next hge =>
    have hall : ∀ n ∈ wideBlanks, digitRanges.contains n = false := by
      decide +kernel
    exact hall _ (toNat_mem_wideBlanks h hge)

/-- White space holds no word character. -/
theorem isWord_of_isBlank {c : Char} (h : isBlank c = true) : isWord c = false := by
  rw [isWord]
  split
  · next hlt =>
    have hcode : c.toNat ∈ [9, 10, 11, 12, 13, 32] := by
      simp only [isBlank, Bool.or_eq_true, Bool.and_eq_true, decide_eq_true_eq, beq_iff_eq] at h
      simp only [List.mem_cons, List.not_mem_nil, or_false]
      omega
    have hall : ∀ n ∈ [9, 10, 11, 12, 13, 32],
        ((Char.ofNat n).isAlphanum || Char.ofNat n == '_') = false := by
      decide
    have hc := hall _ hcode
    rwa [Char.ofNat_toNat] at hc
  · next hge =>
    have hall : ∀ n ∈ wideBlanks, wordRanges.contains n = false := by
      decide +kernel
    exact hall _ (toNat_mem_wideBlanks h hge)

theorem not_mem_of_isBlank {c : Char} {t : Text} (ht : ∀ d ∈ t, isBlank d = true)
    (hc : isBlank c = false) : c ∉ t := by
  intro hmem
  rw [ht c hmem] at hc
  exact absurd hc (by decide)

/-- What opens an identifier is a word character. -/
theorem isWord_of_isNameStart {c : Char} (h : isNameStart c = true) : isWord c = true := by
  rw [isNameStart, Bool.or_eq_true, beq_iff_eq] at h
  rcases h with h | rfl
  · have hlt : c.toNat < 0x80 := by
      rcases Bool.or_eq_true_iff.1 h with hupper | hlower
      · have hle : c.val ≤ 'Z'.val := (of_decide_eq_true hupper).2
        exact Nat.lt_of_le_of_lt (UInt32.le_iff_toNat_le.1 hle) (by decide)
      · have hle : c.val ≤ 'z'.val := of_decide_eq_true (Bool.and_eq_true_iff.1 hlower).2
        exact Nat.lt_of_le_of_lt (UInt32.le_iff_toNat_le.1 hle) (by decide)
    rw [isWord, if_pos hlt, Char.isAlphanum, h]
    rfl
  · decide

/-! ## Numbers -/

theorem isDigit_of_mem_ofNat {n : Nat} {c : Char} (h : c ∈ ofNat n) : c.isDigit = true :=
  Nat.isDigit_of_mem_toDigits (by omega) (by omega) h

theorem ofNat_ne_nil (n : Nat) : ofNat n ≠ [] := Nat.toDigits_ne_nil

@[simp]
theorem digitsValue_ofNat (n : Nat) : digitsValue (ofNat n) = n := Nat.ofDigitChars_ten_toDigits

/-- A text of digits is read if its value is below the bound. -/
theorem natBelow?_eq_ite (bound : Nat) {t : Text} (hne : t ≠ [])
    (hdigit : ∀ c ∈ t, c.isDigit = true) :
    natBelow? bound t = if digitsValue t < bound then some (digitsValue t) else none := by
  have hall : t.all Char.isDigit = true := List.all_eq_true.2 hdigit
  simp [natBelow?, hne, hall]

/-- The digits of a number are read back if it is below the bound. -/
theorem natBelow?_ofNat (bound n : Nat) :
    natBelow? bound (ofNat n) = if n < bound then some n else none := by
  rw [natBelow?_eq_ite bound (ofNat_ne_nil n) fun _ => isDigit_of_mem_ofNat, digitsValue_ofNat]

end Retouch.Text
