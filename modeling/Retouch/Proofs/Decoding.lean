/-
  Bytes and the texts they are shown as.

  A character has one sequence of bytes, and `Completes b more` says that `more` is what follows its
  first byte `b`; `Coded` says it with the bytes as numbers.  Where no character stands, a decoder
  skips a malformed part: the longest front of a character that stands there, or else one byte
  (`Malformed`).  `Shown c p rest` says that the bytes `p`, in front of `rest`, are shown as the
  character `c`.

  * `exists_shown`: at the front of a sequence that is not empty some bytes are shown as a character;
  * `Shown.ofBytesLossy`: the decoder shows them as that character and goes on after them;
  * `ofBytesLossy_eq_iff`: two sequences have one text iff they are `Alike`, part by part shown as
    the same characters;
  * `Alike.eq_toBytes`: what is like a well-formed text without U+FFFD is its encoding.
-/
import Mathlib.Data.List.Basic
import Retouch.Text.Bytes

namespace Retouch.Text

open String (utf8EncodeChar)

/-! ## First bytes and followers -/

/-- What a first byte announces, with bytes as numbers. -/
theorem following?_eq_some_iff {b : UInt8} {n : Nat} {lo hi : UInt8} :
    following? b = some (n, lo, hi) ↔
      (n = 0 ∧ b.toNat < 0x80 ∧ lo.toNat = 0x80 ∧ hi.toNat = 0xBF) ∨
      (n = 1 ∧ 0xC2 ≤ b.toNat ∧ b.toNat < 0xE0 ∧ lo.toNat = 0x80 ∧ hi.toNat = 0xBF) ∨
      (n = 2 ∧ 0xE0 ≤ b.toNat ∧ b.toNat < 0xF0 ∧
        (b.toNat = 0xE0 → lo.toNat = 0xA0) ∧ (b.toNat ≠ 0xE0 → lo.toNat = 0x80) ∧
        (b.toNat = 0xED → hi.toNat = 0x9F) ∧ (b.toNat ≠ 0xED → hi.toNat = 0xBF)) ∨
      (n = 3 ∧ 0xF0 ≤ b.toNat ∧ b.toNat ≤ 0xF4 ∧
        (b.toNat = 0xF0 → lo.toNat = 0x90) ∧ (b.toNat ≠ 0xF0 → lo.toNat = 0x80) ∧
        (b.toNat = 0xF4 → hi.toNat = 0x8F) ∧ (b.toNat ≠ 0xF4 → hi.toNat = 0xBF)) := by
  fun_cases following? b <;>
    simp only [UInt8.lt_iff_toNat_lt, Option.some.injEq, Prod.mk.injEq, ← UInt8.toNat_inj,
      UInt8.reduceToNat, reduceCtorEq, false_iff] at * <;>
    omega

section Followers

variable {n : Nat} {lo hi : UInt8}

@[simp]
theorem followers_nil : followers n lo hi [] = [] := by
  cases n <;> rfl

theorem followers_cons_of_mem {x : UInt8} (h : lo ≤ x ∧ x ≤ hi) (r : List UInt8) :
    followers (n + 1) lo hi (x :: r) = x :: followers n 0x80 0xBF r := by
  rw [followers, if_pos h]

theorem followers_cons_of_not_mem {x : UInt8} (h : ¬ (lo ≤ x ∧ x ≤ hi)) (r : List UInt8) :
    followers n lo hi (x :: r) = [] := by
  cases n with
  | zero => rfl
  | succ n => rw [followers, if_neg h]

/-- When all of a sequence can follow. -/
theorem followers_cons_eq_iff {x : UInt8} {r : List UInt8} :
    followers n lo hi (x :: r) = x :: r ↔
      0 < n ∧ lo.toNat ≤ x.toNat ∧ x.toNat ≤ hi.toNat ∧ followers (n - 1) 0x80 0xBF r = r := by
  by_cases h : lo ≤ x ∧ x ≤ hi
  · have hx := And.imp UInt8.le_iff_toNat_le.1 UInt8.le_iff_toNat_le.1 h
    cases n with
    | zero => simp [followers]
    | succ n => simp [followers_cons_of_mem h, hx]
  · rw [followers_cons_of_not_mem h]
    rw [UInt8.le_iff_toNat_le, UInt8.le_iff_toNat_le] at h
    simp only [List.nil_eq, reduceCtorEq, false_iff]
    exact fun h' => h ⟨h'.2.1, h'.2.2.1⟩

theorem followers_isPrefix (r : List UInt8) : followers n lo hi r <+: r := by
  induction r generalizing n lo hi with
  | nil => simp
  | cons x r ih =>
    cases n with
    | zero => exact List.nil_prefix
    | succ n =>
      rw [followers]
      split
      · exact List.cons_prefix_cons.2 ⟨rfl, ih⟩
      · exact List.nil_prefix

theorem followers_append_drop (r : List UInt8) :
    followers n lo hi r ++ r.drop (followers n lo hi r).length = r :=
  List.prefix_iff_eq_append.1 (followers_isPrefix r)

theorem length_followers_le (r : List UInt8) : (followers n lo hi r).length ≤ n := by
  induction r generalizing n lo hi with
  | nil => simp
  | cons x r ih =>
    cases n with
    | zero => exact Nat.le_refl 0
    | succ n =>
      rw [followers]
      split
      · exact Nat.succ_le_succ ih
      · exact Nat.zero_le _

/-- What can follow, and stands there, is among the followers. -/
theorem isPrefix_followers {m q r : List UInt8} (hm : followers n lo hi m = m) (hq : q <+: m)
    (hr : q <+: r) : q <+: followers n lo hi r := by
  induction q generalizing n lo hi m r with
  | nil => exact List.nil_prefix
  | cons x q ih =>
    obtain ⟨m, rfl⟩ := hq
    obtain ⟨r, rfl⟩ := hr
    cases n with
    | zero => simp [followers] at hm
    | succ n =>
      by_cases hx : lo ≤ x ∧ x ≤ hi
      · simp only [List.cons_append, followers_cons_of_mem hx, List.cons.injEq, true_and] at hm ⊢
        exact List.cons_prefix_cons.2 ⟨rfl, ih hm ⟨m, rfl⟩ ⟨r, rfl⟩⟩
      · rw [List.cons_append, followers_cons_of_not_mem hx] at hm
        exact absurd hm (by simp)

theorem followers_followers (r : List UInt8) :
    followers n lo hi (followers n lo hi r) = followers n lo hi r := by
  induction r generalizing n lo hi with
  | nil => simp
  | cons x r ih =>
    by_cases hx : lo ≤ x ∧ x ≤ hi
    · cases n with
      | zero => rfl
      | succ n => rw [followers_cons_of_mem hx, followers_cons_of_mem hx, ih]
    · rw [followers_cons_of_not_mem hx, followers_nil]

/-- Followers can be made up to the number announced. -/
theorem exists_full_followers {m : List UInt8} (h : lo ≤ hi) (hm : followers n lo hi m = m) :
    ∃ full, m <+: full ∧ followers n lo hi full = full ∧ full.length = n := by
  induction n generalizing lo hi m with
  | zero =>
    obtain rfl : m = [] := by
      have hlen : (followers 0 lo hi m).length ≤ 0 := length_followers_le m
      rw [hm] at hlen
      exact List.length_eq_zero_iff.1 (Nat.le_zero.1 hlen)
    exact ⟨[], List.prefix_rfl, rfl, rfl⟩
  | succ n ih =>
    cases m with
    | nil =>
      obtain ⟨full, -, hfull, hlen⟩ := ih (show (0x80 : UInt8) ≤ 0xBF by decide) followers_nil
      refine ⟨lo :: full, List.nil_prefix, ?_, by simp [hlen]⟩
      rw [followers_cons_of_mem ⟨UInt8.le_refl lo, h⟩, hfull]
    | cons x m =>
      by_cases hx : lo ≤ x ∧ x ≤ hi
      · rw [followers_cons_of_mem hx, List.cons.injEq] at hm
        obtain ⟨full, hpre, hfull, hlen⟩ := ih (by decide) hm.2
        refine ⟨x :: full, List.cons_prefix_cons.2 ⟨rfl, hpre⟩, ?_, by simp [hlen]⟩
        rw [followers_cons_of_mem hx, hfull]
      · rw [followers_cons_of_not_mem hx] at hm
        exact absurd hm (by simp)

end Followers

/-! ## The bytes of a character -/

/-- `more` is all that follows the first byte `b` of a character. -/
def Completes (b : UInt8) (more : List UInt8) : Prop :=
  ∃ n lo hi, following? b = some (n, lo, hi) ∧ followers n lo hi more = more ∧ more.length = n

theorem toNat_ofNat {v : Nat} (h : v.isValidChar) : (Char.ofNat v).toNat = v := by
  rw [Char.ofNat, dif_pos h]
  rfl

/-- The bytes of the character with a given number. -/
theorem utf8EncodeChar_ofNat {v : Nat} (h : v.isValidChar) :
    utf8EncodeChar (Char.ofNat v) =
      if v ≤ 0x7F then [.ofNat v]
      else if v ≤ 0x7FF then [.ofNat (v / 64 % 32 + 0xC0), .ofNat (v % 64 + 0x80)]
      else if v ≤ 0xFFFF then
        [.ofNat (v / 4096 % 16 + 0xE0), .ofNat (v / 64 % 64 + 0x80), .ofNat (v % 64 + 0x80)]
      else [.ofNat (v / 262144 % 8 + 0xF0), .ofNat (v / 4096 % 64 + 0x80),
        .ofNat (v / 64 % 64 + 0x80), .ofNat (v % 64 + 0x80)] := by
  have hv : (Char.ofNat v).val.toNat = v := toNat_ofNat h
  rw [utf8EncodeChar, hv]

/-- A byte that stands behind the first one of a character. -/
def IsTail (b : UInt8) : Prop := 0x80 ≤ b.toNat ∧ b.toNat ≤ 0xBF

theorem IsTail.exists_eq_add {b : UInt8} (h : IsTail b) :
    ∃ k < 64, b.toNat = 0x80 + k ∧ b.toNat % 64 = k := by
  unfold IsTail at h
  exact ⟨b.toNat % 64, by omega, by omega, rfl⟩

theorem isTail_ofNat (n : Nat) : IsTail (.ofNat (n % 64 + 0x80)) := by
  rw [IsTail, UInt8.toNat_ofNat']
  omega

/-- The bytes of a character as numbers: the first one, and those behind it. -/
inductive Coded : UInt8 → List UInt8 → Prop
  | one {b : UInt8} : b.toNat < 0x80 → Coded b []
  | two {b x : UInt8} : 0xC2 ≤ b.toNat → b.toNat < 0xE0 → IsTail x → Coded b [x]
  | three {b x y : UInt8} : 0xE0 ≤ b.toNat → b.toNat < 0xF0 →
      (b.toNat = 0xE0 → 0xA0 ≤ x.toNat) → (b.toNat = 0xED → x.toNat ≤ 0x9F) →
      IsTail x → IsTail y → Coded b [x, y]
  | four {b x y z : UInt8} : 0xF0 ≤ b.toNat → b.toNat ≤ 0xF4 →
      (b.toNat = 0xF0 → 0x90 ≤ x.toNat) → (b.toNat = 0xF4 → x.toNat ≤ 0x8F) →
      IsTail x → IsTail y → IsTail z → Coded b [x, y, z]

theorem Completes.coded {b : UInt8} {more : List UInt8} (h : Completes b more) : Coded b more := by
  obtain ⟨n, lo, hi, hb, hmore, rfl⟩ := h
  rw [following?_eq_some_iff] at hb
  -- one case for each number of followers
  match more with
  | [] =>
    rw [List.length_nil] at hb
    exact .one (by omega)
  | [x] =>
    simp only [List.length_cons, List.length_nil, followers_cons_eq_iff] at hb hmore
    exact .two (by omega) (by omega) ⟨by omega, by omega⟩
  | [x, y] =>
    simp only [List.length_cons, List.length_nil, followers_cons_eq_iff, UInt8.reduceToNat]
      at hb hmore
    exact .three (by omega) (by omega) (by omega) (by omega) ⟨by omega, by omega⟩
      ⟨by omega, by omega⟩
  | [x, y, z] =>
    simp only [List.length_cons, List.length_nil, followers_cons_eq_iff, UInt8.reduceToNat]
      at hb hmore
    exact .four (by omega) (by omega) (by omega) (by omega) ⟨by omega, by omega⟩
      ⟨by omega, by omega⟩ ⟨by omega, by omega⟩
  | _ :: _ :: _ :: _ :: _ =>
    simp only [List.length_cons] at hb
    omega

/-- A byte that is `x` under a condition and `y` otherwise. -/
theorem exists_byte (p : Prop) (x y : UInt8) :
    ∃ b : UInt8, (p → b.toNat = x.toNat) ∧ (¬ p → b.toNat = y.toNat) := by
  by_cases h : p
  · exact ⟨x, fun _ => rfl, fun hn => absurd h hn⟩
  · exact ⟨y, fun hp => absurd hp h, fun _ => rfl⟩

theorem Coded.completes {b : UInt8} {more : List UInt8} (h : Coded b more) : Completes b more := by
  cases h with
  | one hb =>
    exact ⟨0, 0x80, 0xBF, following?_eq_some_iff.2 (.inl ⟨rfl, hb, rfl, rfl⟩), rfl, rfl⟩
  | two hb hb' hx =>
    refine ⟨1, 0x80, 0xBF, following?_eq_some_iff.2 (.inr (.inl ⟨rfl, hb, hb', rfl, rfl⟩)), ?_, rfl⟩
    exact followers_cons_eq_iff.2 ⟨Nat.one_pos, hx.1, hx.2, rfl⟩
  | three hb hb' hlow hhigh hx hy =>
    obtain ⟨lo, hlo, hlo'⟩ := exists_byte (b.toNat = 0xE0) 0xA0 0x80
    obtain ⟨hi, hhi, hhi'⟩ := exists_byte (b.toNat = 0xED) 0x9F 0xBF
    refine ⟨2, lo, hi, following?_eq_some_iff.2 (.inr (.inr (.inl
      ⟨rfl, hb, hb', hlo, hlo', hhi, hhi'⟩))), ?_, rfl⟩
    simp only [followers_cons_eq_iff, followers_nil, and_true, UInt8.reduceToNat, IsTail] at *
    omega
  | four hb hb' hlow hhigh hx hy hz =>
    obtain ⟨lo, hlo, hlo'⟩ := exists_byte (b.toNat = 0xF0) 0x90 0x80
    obtain ⟨hi, hhi, hhi'⟩ := exists_byte (b.toNat = 0xF4) 0x8F 0xBF
    refine ⟨3, lo, hi, following?_eq_some_iff.2 (.inr (.inr (.inr
      ⟨rfl, hb, hb', hlo, hlo', hhi, hhi'⟩))), ?_, rfl⟩
    simp only [followers_cons_eq_iff, followers_nil, and_true, UInt8.reduceToNat, IsTail] at *
    omega

/-- The assembled character has the bytes it is assembled from. -/
theorem Completes.encode_assemble {b : UInt8} {more : List UInt8} (h : Completes b more) :
    utf8EncodeChar (assemble b more) = b :: more := by
  cases h.coded with
  | one hb =>
    have hv : b.toNat.isValidChar := by left; omega
    simp only [assemble, List.foldl, List.length_nil, utf8EncodeChar_ofNat hv]
    rw [if_pos (by omega)]
    simp
  | two hb hb' hx =>
    obtain ⟨i, hi, hbi, hbm⟩ : ∃ i < 32, b.toNat = 0xC0 + i ∧ b.toNat % 32 = i :=
      ⟨b.toNat % 32, by omega, by omega, rfl⟩
    obtain ⟨j, hj, hxj, hxm⟩ := hx.exists_eq_add
    have hv : (i * 64 + j).isValidChar := by left; omega
    simp only [assemble, List.foldl, List.length_cons, List.length_nil, hbm, hxm,
      utf8EncodeChar_ofNat hv]
    rw [if_neg (by omega), if_pos (by omega)]
    simp only [List.cons.injEq, ← UInt8.toNat_inj, UInt8.toNat_ofNat', hbi, hxj, and_true]
    omega
  | three hb hb' hlow hhigh hx hy =>
    obtain ⟨i, hi, hbi, hbm⟩ : ∃ i < 16, b.toNat = 0xE0 + i ∧ b.toNat % 16 = i :=
      ⟨b.toNat % 16, by omega, by omega, rfl⟩
    obtain ⟨j, hj, hxj, hxm⟩ := hx.exists_eq_add
    obtain ⟨k, hk, hyk, hym⟩ := hy.exists_eq_add
    rw [hbi, hxj] at hlow hhigh
    have hv : ((i * 64 + j) * 64 + k).isValidChar := by
      rw [Nat.isValidChar]
      omega
    simp only [assemble, List.foldl, List.length_cons, List.length_nil, hbm, hxm, hym,
      utf8EncodeChar_ofNat hv]
    rw [if_neg (by omega), if_neg (by omega), if_pos (by omega)]
    simp only [List.cons.injEq, ← UInt8.toNat_inj, UInt8.toNat_ofNat', hbi, hxj, hyk, and_true]
    omega
  | four hb hb' hlow hhigh hx hy hz =>
    obtain ⟨i, hi, hbi, hbm⟩ : ∃ i < 5, b.toNat = 0xF0 + i ∧ b.toNat % 8 = i :=
      ⟨b.toNat % 8, by omega, by omega, rfl⟩
    obtain ⟨j, hj, hxj, hxm⟩ := hx.exists_eq_add
    obtain ⟨k, hk, hyk, hym⟩ := hy.exists_eq_add
    obtain ⟨l, hl, hzl, hzm⟩ := hz.exists_eq_add
    rw [hbi, hxj] at hlow hhigh
    have hv : (((i * 64 + j) * 64 + k) * 64 + l).isValidChar := by
      rw [Nat.isValidChar]
      omega
    simp only [assemble, List.foldl, List.length_cons, List.length_nil, hbm, hxm, hym, hzm,
      utf8EncodeChar_ofNat hv]
    rw [if_neg (by omega), if_neg (by omega), if_neg (by omega)]
    simp only [List.cons.injEq, ← UInt8.toNat_inj, UInt8.toNat_ofNat', hbi, hxj, hyk, hzl, and_true]
    omega

/-- The bytes of a character are a first byte and its followers, and they assemble to it. -/
theorem exists_completes (c : Char) :
    ∃ b more, utf8EncodeChar c = b :: more ∧ Completes b more ∧ assemble b more = c := by
  have hvalid : c.val.toNat.isValidChar := c.valid
  have hc : ∀ v, v = c.val.toNat → Char.ofNat v = c := by
    rintro v rfl
    exact Char.ofNat_toNat c
  rw [utf8EncodeChar]
  rw [Nat.isValidChar] at hvalid
  generalize c.val.toNat = v at hvalid hc ⊢
  -- the number decides how many bytes there are, and so which of the four forms they have
  split
  · refine ⟨_, _, rfl, (Coded.one ?_).completes, hc _ (by simp; omega)⟩
    rw [UInt8.toNat_ofNat']
    omega
  · split
    · refine ⟨_, _, rfl, (Coded.two ?_ ?_ (isTail_ofNat v)).completes, hc _ (by simp; omega)⟩ <;>
        rw [UInt8.toNat_ofNat'] <;>
        omega
    · split
      · refine ⟨_, _, rfl, (Coded.three ?_ ?_ ?_ ?_ (isTail_ofNat _) (isTail_ofNat v)).completes,
          hc _ (by simp; omega)⟩ <;>
          simp only [UInt8.toNat_ofNat'] <;>
          omega
      · refine ⟨_, _, rfl, (Coded.four ?_ ?_ ?_ ?_ (isTail_ofNat _) (isTail_ofNat _)
          (isTail_ofNat v)).completes, hc _ (by simp; omega)⟩ <;>
          simp only [UInt8.toNat_ofNat'] <;>
          omega

/-! ## Malformed parts -/

/-- The front of the bytes of a character. -/
def IsFront (p : List UInt8) : Prop := ∃ c, p <+: utf8EncodeChar c

/-- A malformed part `p` in front of `rest`: no character stands there, and `p` is the longest front
    of a character that does, or else one byte. -/
structure Malformed (p rest : List UInt8) : Prop where
  ne_nil : p ≠ []
  no_char : ∀ c, ¬ utf8EncodeChar c <+: p ++ rest
  front : IsFront p ∨ p.length = 1
  longest : ∀ {q}, IsFront q → q <+: p ++ rest → q.length ≤ p.length

/-- A front of a character is a first byte with some of its followers. -/
theorem IsFront.isPrefix_followers {b : UInt8} {q r : List UInt8} (h : IsFront (b :: q))
    (hq : q <+: r) : ∃ n lo hi, following? b = some (n, lo, hi) ∧ q <+: followers n lo hi r := by
  obtain ⟨c, hc⟩ := h
  obtain ⟨b', more, hcode, ⟨n, lo, hi, hb, hmore, -⟩, -⟩ := exists_completes c
  rw [hcode, List.cons_prefix_cons] at hc
  obtain ⟨rfl, hpre⟩ := hc
  exact ⟨n, lo, hi, hb, Text.isPrefix_followers hmore hpre hq⟩

/-- A byte that opens no character is a malformed part. -/
theorem malformed_of_following?_eq_none {b : UInt8} (h : following? b = none) (r : List UInt8) :
    Malformed [b] r := by
  have hno : ∀ q, ¬ IsFront (b :: q) := by
    intro q hq
    obtain ⟨n, lo, hi, hb, -⟩ := hq.isPrefix_followers List.prefix_rfl
    rw [h] at hb
    exact absurd hb (by simp)
  refine ⟨by simp, ?_, .inr rfl, ?_⟩
  · intro c hc
    obtain ⟨b', more, hcode, -, -⟩ := exists_completes c
    rw [hcode, List.singleton_append, List.cons_prefix_cons] at hc
    obtain ⟨rfl, -⟩ := hc
    exact hno more ⟨c, hcode ▸ List.prefix_rfl⟩
  · intro q hq hpre
    cases q with
    | nil => simp
    | cons x q =>
      rw [List.singleton_append, List.cons_prefix_cons] at hpre
      exact absurd (hpre.1 ▸ hq) (hno q)

theorem lo_le_hi {b : UInt8} {n : Nat} {lo hi : UInt8} (h : following? b = some (n, lo, hi)) :
    lo ≤ hi := by
  rw [following?_eq_some_iff] at h
  rw [UInt8.le_iff_toNat_le]
  omega

/-- A first byte with too few followers is a malformed part. -/
theorem malformed_of_length_ne {b : UInt8} {n : Nat} {lo hi : UInt8} {r : List UInt8}
    (hb : following? b = some (n, lo, hi)) (hn : (followers n lo hi r).length ≠ n) :
    Malformed (b :: followers n lo hi r) (r.drop (followers n lo hi r).length) := by
  have hr : b :: followers n lo hi r ++ r.drop (followers n lo hi r).length = b :: r := by
    rw [List.cons_append, followers_append_drop]
  have hlongest : ∀ {q}, IsFront q → q <+: b :: r → q.length ≤ (b :: followers n lo hi r).length := by
    intro q hq hpre
    cases q with
    | nil => simp
    | cons x q =>
      obtain ⟨rfl, hqr⟩ := List.cons_prefix_cons.1 hpre
      obtain ⟨n', lo', hi', hb', hq'⟩ := hq.isPrefix_followers hqr
      obtain ⟨rfl, rfl, rfl⟩ : n' = n ∧ lo' = lo ∧ hi' = hi := by simpa [hb] using hb'.symm
      exact Nat.succ_le_succ hq'.length_le
  refine ⟨by simp, ?_, .inl ?_, by rwa [hr]⟩
  · intro c hc
    rw [hr] at hc
    obtain ⟨b', more, hcode, ⟨n', lo', hi', hb', -, hlen⟩, -⟩ := exists_completes c
    have hle := hlongest ⟨c, List.prefix_rfl⟩ hc
    rw [hcode] at hc hle
    obtain ⟨rfl, -⟩ := List.cons_prefix_cons.1 hc
    obtain ⟨hn', -⟩ : n' = n ∧ lo' = lo ∧ hi' = hi := by simpa [hb] using hb'.symm
    have hshort : (followers n lo hi r).length ≤ n := length_followers_le r
    simp only [List.length_cons] at hle
    omega
  · obtain ⟨full, hpre, hfull, hlen⟩ := exists_full_followers (lo_le_hi hb) (followers_followers r)
    refine ⟨assemble b full, ?_⟩
    rw [Completes.encode_assemble ⟨n, lo, hi, hb, hfull, hlen⟩]
    exact List.cons_prefix_cons.2 ⟨rfl, hpre⟩

/-- A sequence starts with at most one malformed part. -/
theorem Malformed.length_eq {p p' r r' : List UInt8} (h : Malformed p r) (h' : Malformed p' r')
    (heq : p ++ r = p' ++ r') : p.length = p'.length := by
  have hpos : 0 < p.length := List.length_pos_iff.2 h.ne_nil
  have hpos' : 0 < p'.length := List.length_pos_iff.2 h'.ne_nil
  have hle : IsFront p → p.length ≤ p'.length := fun hf => h'.longest hf ⟨r, heq⟩
  have hle' : IsFront p' → p'.length ≤ p.length := fun hf => h.longest hf ⟨r', heq.symm⟩
  rcases h.front with hf | h1 <;> rcases h'.front with hf' | h1'
  · exact Nat.le_antisymm (hle hf) (hle' hf')
  · have := hle hf
    omega
  · have := hle' hf'
    omega
  · rw [h1, h1']

/-! ## What is shown -/

/-- The bytes `p`, in front of `rest`, are shown as `c`. -/
def Shown (c : Char) (p rest : List UInt8) : Prop :=
  p = utf8EncodeChar c ∨ c = replacement ∧ Malformed p rest

theorem Shown.ne_nil {c : Char} {p rest : List UInt8} (h : Shown c p rest) : p ≠ [] := by
  rcases h with rfl | ⟨-, h⟩
  · exact String.utf8EncodeChar_ne_nil
  · exact h.ne_nil

theorem Shown.length_lt {c : Char} {p rest : List UInt8} (h : Shown c p rest) :
    rest.length < (p ++ rest).length := by
  rw [List.length_append]
  exact Nat.lt_add_of_pos_left (List.length_pos_iff.2 h.ne_nil)

/-- What the decoder does at the front of a sequence: it takes a character with all its bytes, or
    skips a malformed part. -/
theorem decode_cons (b : UInt8) (r : List UInt8) :
    (∃ c rest, b :: r = utf8EncodeChar c ++ rest ∧ decode (b :: r) = some c :: decode rest) ∨
      ∃ p rest, b :: r = p ++ rest ∧ Malformed p rest ∧ decode (b :: r) = none :: decode rest := by
  rw [decode]
  split
  · next h => exact .inr ⟨[b], r, rfl, malformed_of_following?_eq_none h r, rfl⟩
  · next n lo hi hb =>
    by_cases hn : (followers n lo hi r).length = n
    · have hfull : Completes b (followers n lo hi r) := ⟨n, lo, hi, hb, followers_followers r, hn⟩
      refine .inl ⟨assemble b (followers n lo hi r), r.drop (followers n lo hi r).length, ?_, ?_⟩
      · rw [hfull.encode_assemble, List.cons_append, followers_append_drop]
      · simp only [if_pos hn]
    · refine .inr ⟨b :: followers n lo hi r, r.drop (followers n lo hi r).length, ?_,
        malformed_of_length_ne hb hn, ?_⟩
      · rw [List.cons_append, followers_append_drop]
      · simp only [if_neg hn]

/-- The decoder takes a character with all its bytes. -/
theorem decode_utf8EncodeChar_append (c : Char) (rest : List UInt8) :
    decode (utf8EncodeChar c ++ rest) = some c :: decode rest := by
  obtain ⟨b, more, hcode, ⟨n, lo, hi, hb, hmore, hn⟩, rfl⟩ := exists_completes c
  have hpre : more <+: followers n lo hi (more ++ rest) :=
    isPrefix_followers hmore List.prefix_rfl (List.prefix_append _ _)
  have hfollow : followers n lo hi (more ++ rest) = more :=
    (hpre.eq_of_length_le (by rw [hn]; exact length_followers_le _)).symm
  rw [hcode, List.cons_append, decode, hb]
  simp only [hfollow, if_pos hn, List.drop_left]

/-- The decoder skips a malformed part. -/
theorem Malformed.decode {p rest : List UInt8} (h : Malformed p rest) :
    Text.decode (p ++ rest) = none :: Text.decode rest := by
  obtain ⟨b, r, hbr⟩ := List.exists_cons_of_ne_nil (List.append_ne_nil_of_left_ne_nil h.ne_nil rest)
  rcases decode_cons b r with ⟨c, rest', heq, -⟩ | ⟨p', rest', heq, h', hdec⟩
  · exact absurd ⟨rest', by rw [hbr, heq]⟩ (h.no_char c)
  · rw [← hbr] at heq hdec
    obtain ⟨rfl, rfl⟩ := List.append_inj heq (h.length_eq h' heq)
    exact hdec

/-- At the front of a sequence that is not empty some bytes are shown as a character. -/
theorem exists_shown {o : List UInt8} (h : o ≠ []) : ∃ c p rest, o = p ++ rest ∧ Shown c p rest := by
  obtain ⟨b, r, rfl⟩ := List.exists_cons_of_ne_nil h
  rcases decode_cons b r with ⟨c, rest, heq, -⟩ | ⟨p, rest, heq, hp, -⟩
  · exact ⟨c, _, rest, heq, .inl rfl⟩
  · exact ⟨replacement, p, rest, heq, .inr ⟨rfl, hp⟩⟩

/-- Induction along what is shown: at the front of a sequence some bytes are shown as a character. -/
@[elab_as_elim]
theorem shownInduction {motive : List UInt8 → Prop} (nil : motive [])
    (part : ∀ c p rest, Shown c p rest → motive rest → motive (p ++ rest)) (o : List UInt8) :
    motive o := by
  by_cases hne : o = []
  · exact hne ▸ nil
  · obtain ⟨c, p, rest, rfl, hs⟩ := exists_shown hne
    have hlt := hs.length_lt
    exact part c p rest hs (shownInduction nil part rest)
termination_by o.length

/-- What is shown at the front of a sequence comes first in its text. -/
theorem Shown.ofBytesLossy {c : Char} {p rest : List UInt8} (h : Shown c p rest) :
    Text.ofBytesLossy (p ++ rest) = c :: Text.ofBytesLossy rest := by
  rcases h with rfl | ⟨rfl, h⟩
  · rw [Text.ofBytesLossy, decode_utf8EncodeChar_append]
    rfl
  · rw [Text.ofBytesLossy, h.decode]
    rfl

@[simp]
theorem ofBytesLossy_nil : ofBytesLossy [] = [] := by
  rw [ofBytesLossy, decode]
  rfl

theorem ofBytesLossy_eq_nil_iff {o : List UInt8} : ofBytesLossy o = [] ↔ o = [] := by
  refine ⟨fun h => ?_, fun h => h ▸ ofBytesLossy_nil⟩
  by_contra hne
  obtain ⟨c, p, rest, rfl, hs⟩ := exists_shown hne
  rw [hs.ofBytesLossy] at h
  exact absurd h (by simp)

/-- **A well-formed sequence decodes to the text it encodes.** -/
theorem ofBytesLossy_toBytes (t : Text) : ofBytesLossy t.toBytes = t := by
  induction t with
  | nil => exact ofBytesLossy_nil
  | cons c t ih =>
    have hs : Shown c (utf8EncodeChar c) (toBytes t) := .inl rfl
    rw [toBytes, List.flatMap_cons, ← toBytes, hs.ofBytesLossy, ih]

/-- **A text without U+FFFD has one sequence of bytes.** -/
theorem toBytes_ofBytesLossy (o : List UInt8) (h : replacement ∉ ofBytesLossy o) :
    toBytes (ofBytesLossy o) = o := by
  induction o using shownInduction with
  | nil =>
    rw [ofBytesLossy_nil]
    rfl
  | part c p rest hs ih =>
    rw [hs.ofBytesLossy, List.mem_cons, not_or] at h
    rw [hs.ofBytesLossy, toBytes, List.flatMap_cons, ← toBytes, ih h.2]
    rcases hs with rfl | ⟨rfl, -⟩
    · rfl
    · exact absurd rfl h.1

/-! ## Bytes that are characters alone -/

/-- A byte that is a character alone follows no other byte. -/
theorem followers_append_of_lt {n : Nat} {lo hi b : UInt8} (hlo : 0x80 ≤ lo.toNat)
    (hb : b.toNat < 0x80) (r s : List UInt8) :
    followers n lo hi (r ++ b :: s) = followers n lo hi r := by
  induction r generalizing n lo hi with
  | nil =>
    rw [List.nil_append, followers_nil, followers_cons_of_not_mem]
    rw [UInt8.le_iff_toNat_le]
    omega
  | cons x r ih =>
    by_cases hx : lo ≤ x ∧ x ≤ hi
    · cases n with
      | zero => rfl
      | succ n =>
        rw [List.cons_append, followers_cons_of_mem hx, followers_cons_of_mem hx, ih (by decide)]
    · rw [List.cons_append, followers_cons_of_not_mem hx, followers_cons_of_not_mem hx]

theorem le_lo {b : UInt8} {n : Nat} {lo hi : UInt8} (h : following? b = some (n, lo, hi)) :
    0x80 ≤ lo.toNat := by
  rw [following?_eq_some_iff] at h
  omega

/-- The decoder starts anew at every byte that is a character alone. -/
theorem decode_append {b : UInt8} (hb : b.toNat < 0x80) (a r : List UInt8) :
    decode (a ++ b :: r) = decode a ++ decode (b :: r) := by
  fun_induction decode a with
  | case1 => rfl
  | case2 x a h ih =>
    rw [List.cons_append, decode, h, ih]
    rfl
  | case3 x a n lo hi h more ih =>
    have hmore : followers n lo hi (a ++ b :: r) = more := followers_append_of_lt (le_lo h) hb a r
    have hlen : more.length ≤ a.length := (followers_isPrefix a).length_le
    rw [List.cons_append, decode, h]
    simp only [hmore]
    rw [List.drop_append_of_le_length hlen, ih]
    rfl

theorem ofBytesLossy_append {b : UInt8} (hb : b.toNat < 0x80) (a r : List UInt8) :
    ofBytesLossy (a ++ b :: r) = ofBytesLossy a ++ ofBytesLossy (b :: r) := by
  rw [ofBytesLossy, decode_append hb, List.map_append]
  rfl

/-! ## Sequences with one text -/

/-- Two sequences that are shown as the same characters, part by part. -/
inductive Alike : List UInt8 → List UInt8 → Prop
  | nil : Alike [] []
  | part {c p q r s} : Shown c p r → Shown c q s → Alike r s → Alike (p ++ r) (q ++ s)

/-- **Two sequences have one text iff they are alike.** -/
theorem ofBytesLossy_eq_iff {a b : List UInt8} : ofBytesLossy a = ofBytesLossy b ↔ Alike a b := by
  constructor
  · intro h
    induction a using shownInduction generalizing b with
    | nil =>
      rw [ofBytesLossy_nil] at h
      rw [ofBytesLossy_eq_nil_iff.1 h.symm]
      exact .nil
    | part c p r hp ih =>
      rw [hp.ofBytesLossy] at h
      have hb : b ≠ [] := by
        rintro rfl
        exact absurd h (by simp)
      obtain ⟨c', q, s, rfl, hq⟩ := exists_shown hb
      rw [hq.ofBytesLossy, List.cons.injEq] at h
      obtain ⟨rfl, h⟩ := h
      exact .part hp hq (ih h)
  · intro h
    induction h with
    | nil => rfl
    | part hp hq _ ih => rw [hp.ofBytesLossy, hq.ofBytesLossy, ih]

theorem Alike.refl (a : List UInt8) : Alike a a := ofBytesLossy_eq_iff.1 rfl

theorem Alike.symm {a b : List UInt8} (h : Alike a b) : Alike b a :=
  ofBytesLossy_eq_iff.1 (ofBytesLossy_eq_iff.2 h).symm

/-- What is like a well-formed text without U+FFFD is its encoding. -/
theorem Alike.eq_toBytes {t : Text} {b : List UInt8} (ht : replacement ∉ t) (h : Alike t.toBytes b) :
    b = t.toBytes := by
  have htext : ofBytesLossy b = t := by rw [← ofBytesLossy_eq_iff.2 h, ofBytesLossy_toBytes]
  have hb := toBytes_ofBytesLossy b (htext ▸ ht)
  rw [← hb, htext]

/-- Well-formed sequences that are alike are equal. -/
theorem Alike.toBytes_inj {t u : Text} (h : Alike t.toBytes u.toBytes) : t.toBytes = u.toBytes := by
  have := ofBytesLossy_eq_iff.2 h
  rw [ofBytesLossy_toBytes, ofBytesLossy_toBytes] at this
  rw [this]

end Retouch.Text
