/-
  Texts and their bytes.

  The encoding of a text is that of its characters one after another.  It has as many bytes as
  `byteSize` says, the byte of a newline stands for newlines only, and the bytes of two texts are
  ordered as the texts are (`toBytes_lt_toBytes`): of two characters, the one that comes first has the
  lesser byte at the first place where their encodings differ, and there is such a place.
-/
import Mathlib.Data.Char
import Mathlib.Data.List.Lex
import Mathlib.Tactic.SplitIfs
import Retouch.Text.Bytes

namespace Retouch.Text

open String (utf8EncodeChar)

theorem toBytes_cons (c : Char) (t : Text) : toBytes (c :: t) = utf8EncodeChar c ++ toBytes t :=
  List.flatMap_cons

theorem toBytes_append (t u : Text) : toBytes (t ++ u) = toBytes t ++ toBytes u :=
  List.flatMap_append

/-! ## Sizes -/

theorem byteSize_cons (c : Char) (t : Text) : byteSize (c :: t) = c.utf8Size + byteSize t := rfl

theorem byteSize_append (t u : Text) : byteSize (t ++ u) = byteSize t + byteSize u := by
  induction t with
  | nil => exact (Nat.zero_add _).symm
  | cons c t ih => rw [List.cons_append, byteSize_cons, byteSize_cons, ih, Nat.add_assoc]

@[simp]
theorem length_toBytes (t : Text) : t.toBytes.length = t.byteSize := by
  induction t with
  | nil => rfl
  | cons c t ih =>
    rw [toBytes_cons, List.length_append, String.length_utf8EncodeChar, ih, byteSize_cons]

/-! ## Newlines -/

/-- The byte of a newline. -/
def newlineByte : UInt8 := 0x0A

theorem toNat_lt (c : Char) : c.val.toNat < 0x110000 := by
  rcases c.valid with h | h <;> omega

/-- The bytes of other characters are all different from that of a newline. -/
theorem eq_newline_of_mem_utf8EncodeChar {c : Char} (h : newlineByte ∈ utf8EncodeChar c) :
    c = '\n' := by
  have hc : c.val.toNat = 0x0A := by
    have hlt := toNat_lt c
    rw [utf8EncodeChar] at h
    generalize c.val.toNat = v at h hlt ⊢
    split_ifs at h <;>
      simp only [newlineByte, List.mem_cons, List.not_mem_nil, or_false, ← UInt8.toNat_inj,
        UInt8.toNat_ofNat', UInt8.reduceToNat] at h <;>
      omega
  exact Char.ext (UInt32.toNat_inj.1 hc)

theorem newlineByte_not_mem_toBytes {t : Text} (h : '\n' ∉ t) : newlineByte ∉ t.toBytes := by
  intro hmem
  obtain ⟨c, hc, hbyte⟩ := List.mem_flatMap.1 hmem
  rw [eq_newline_of_mem_utf8EncodeChar hbyte] at hc
  exact h hc

/-! ## Order -/

/-- Characters are told apart by their bytes, and ordered by them, whatever follows. -/
theorem utf8EncodeChar_append_lt {c d : Char} (h : c < d) (t u : List UInt8) :
    utf8EncodeChar c ++ t < utf8EncodeChar d ++ u := by
  have hlt : c.val.toNat < d.val.toNat := h
  have hd := toNat_lt d
  rw [utf8EncodeChar, utf8EncodeChar]
  generalize c.val.toNat = v at hlt ⊢
  generalize d.val.toNat = w at hlt hd ⊢
  -- the digits that the bytes hold, each from the one after it
  have hdigits : ∀ n, n / 4096 = n / 64 / 64 ∧ n / 262144 = n / 64 / 64 / 64 := by
    intro n
    omega
  simp only [hdigits]
  split_ifs <;>
    simp only [List.cons_append, List.nil_append, List.cons_lt_cons_iff, UInt8.lt_iff_toNat_lt,
      ← UInt8.toNat_inj, UInt8.toNat_ofNat'] <;>
    omega

theorem toBytes_lt_toBytes {t u : Text} (h : t < u) : t.toBytes < u.toBytes := by
  induction t generalizing u with
  | nil =>
    cases u with
    | nil => exact absurd h (List.lt_irrefl _)
    | cons d u =>
      obtain ⟨b, more, hd⟩ := List.exists_cons_of_ne_nil (String.utf8EncodeChar_ne_nil (c := d))
      rw [toBytes_cons, hd]
      exact List.nil_lt_cons _ _
  | cons c t ih =>
    cases u with
    | nil => exact absurd h (List.not_lt_nil _)
    | cons d u =>
      rw [toBytes_cons, toBytes_cons]
      rcases List.cons_lt_cons_iff.1 h with hlt | ⟨rfl, htu⟩
      · exact utf8EncodeChar_append_lt hlt _ _
      · exact List.append_left_lt (ih htu)

end Retouch.Text
