/-
  Chains of sums, and what folding makes of them.

  A `SumChain` is a sequence of literals with a plus sign between any two, and any white space around
  the signs.  One scan folds its first literal with the second, the third with the fourth and so on
  (`folded`): a pair whose sum fits becomes one literal, and any other pair stays as it is.

  * `foldSums_text`: folding the text of a chain gives the text of the folded chain;
  * `total_folded`: the total stays the same;
  * `length_folded`: where the total fits, one scan halves the number of literals;
  * `constantFolding_sumChain`: so that repeated folding ends in the total.
-/
import Mathlib.Logic.Function.Conjugate
import Mathlib.Logic.Function.Iterate
import Retouch.Proofs.Expressions

namespace Retouch

open Text Pass

/-! ## Literals and signs -/

/-- An unsigned literal: ASCII digits, at least one, with any zeros at the front. -/
structure Literal where
  digits : Text
  ne_nil : digits ≠ []
  isDigit : ∀ c ∈ digits, c.isDigit = true

namespace Literal

/-- The number that a literal stands for. -/
def value (a : Literal) : Nat := digitsValue a.digits

/-- The shortest literal of a number. -/
def ofNat (n : Nat) : Literal := ⟨Text.ofNat n, ofNat_ne_nil n, fun _ => isDigit_of_mem_ofNat⟩

@[simp]
theorem value_ofNat (n : Nat) : (ofNat n).value = n := digitsValue_ofNat n

end Literal

/-- A plus sign with white space around it. -/
structure PlusSign where
  front : Text
  back : Text
  isBlank_front : ∀ c ∈ front, isBlank c = true
  isBlank_back : ∀ c ∈ back, isBlank c = true

namespace PlusSign

/-- The characters of a sign. -/
def text (s : PlusSign) : Text := s.front ++ '+' :: s.back

theorem isDigit_of_mem_text (s : PlusSign) {c : Char} (hc : c ∈ s.text) : c.isDigit = false := by
  rw [text, List.mem_append, List.mem_cons] at hc
  rcases hc with hc | rfl | hc
  · exact isDigit_of_isBlank (s.isBlank_front c hc)
  · decide
  · exact isDigit_of_isBlank (s.isBlank_back c hc)

theorem text_ne_nil (s : PlusSign) : s.text ≠ [] := by
  simp [text]

end PlusSign

/-! ## Chains -/

/-- Literals with plus signs between them. -/
inductive SumChain where
  | last (a : Literal)
  | cons (a : Literal) (s : PlusSign) (rest : SumChain)

namespace SumChain

/-- The characters of a chain. -/
def text : SumChain → Text
  | last a => a.digits
  | cons a s rest => a.digits ++ (s.text ++ rest.text)

/-- The number of literals. -/
def length : SumChain → Nat
  | last _ => 1
  | cons _ _ rest => rest.length + 1

/-- The sum of all literals. -/
def total : SumChain → Nat
  | last a => a.value
  | cons a _ rest => a.value + rest.total

/-- A chain, a sign and another chain. -/
def join : SumChain → PlusSign → SumChain → SumChain
  | last a, s, d => cons a s d
  | cons a s' rest, s, d => cons a s' (rest.join s d)

/-- Two literals as one, if they and their sum fit. -/
def pair (a : Literal) (s : PlusSign) (b : Literal) : SumChain :=
  if a.value < sumBound ∧ b.value < sumBound ∧ a.value + b.value < sumBound
    then last (.ofNat (a.value + b.value))
    else cons a s (last b)

/-- The chain with its literals taken in pairs: the first two, the next two and so on.  A literal
    without a partner stays at the end. -/
def folded : SumChain → SumChain
  | last a => last a
  | cons a s (last b) => pair a s b
  | cons a s (cons b s' rest) => (pair a s b).join s' rest.folded

theorem text_join (c : SumChain) (s : PlusSign) (d : SumChain) :
    (c.join s d).text = c.text ++ (s.text ++ d.text) := by
  induction c with
  | last a => rfl
  | cons a s' rest ih => simp [join, text, ih]

theorem total_join (c : SumChain) (s : PlusSign) (d : SumChain) :
    (c.join s d).total = c.total + d.total := by
  induction c with
  | last a => rfl
  | cons a s' rest ih => simp [join, total, ih, Nat.add_assoc]

theorem total_pair (a : Literal) (s : PlusSign) (b : Literal) :
    (pair a s b).total = a.value + b.value := by
  unfold pair
  split
  · simp [total]
  · rfl

/-- A pair folds as soon as its sum fits. -/
theorem pair_of_lt {a b : Literal} (h : a.value + b.value < sumBound) (s : PlusSign) :
    pair a s b = last (.ofNat (a.value + b.value)) := by
  unfold pair
  rw [if_pos ⟨by omega, by omega, h⟩]

/-- **Folding keeps the total.** -/
theorem total_folded (c : SumChain) : c.folded.total = c.total := by
  fun_induction folded c with
  | case1 a => rfl
  | case2 a s b => rw [total_pair, total, total]
  | case3 a s b s' rest ih =>
    rw [total_join, total_pair, ih, total, total]
    omega

/-! ## One scan -/

theorem foldSums_nil : foldSums [] = [] := Matcher.replaceAll_nil

/-- The scan copies a sign. -/
theorem foldSums_sign (s : PlusSign) (t : Text) : foldSums (s.text ++ t) = s.text ++ foldSums t := by
  have hcopy : ∀ u : Text, (∀ c ∈ u, c.isDigit = false) → foldSums (u ++ t) = u ++ foldSums t := by
    intro u hu
    induction u with
    | nil => rfl
    | cons c u ih =>
      rw [List.forall_mem_cons] at hu
      rw [List.cons_append, Arithmetic.foldSums_eq_writeSums, Arithmetic.writeSums_cons hu.1,
        ← Arithmetic.foldSums_eq_writeSums, ih hu.2, List.cons_append]
  exact hcopy s.text fun _ => s.isDigit_of_mem_text

/-- The scan takes two literals as a pair. -/
theorem foldSums_pair (a : Literal) (s : PlusSign) (b : Literal) {t : Text}
    (ht : ∀ c ∈ t.head?, c.isDigit = false) :
    foldSums (a.digits ++ (s.text ++ (b.digits ++ t))) = (pair a s b).text ++ foldSums t := by
  have hmatch := Arithmetic.writeSums_match (g := fun _ n => Text.ofNat n) a.ne_nil a.isDigit
    s.isBlank_front s.isBlank_back b.ne_nil b.isDigit ht
  have htext : a.digits ++ (s.text ++ (b.digits ++ t)) =
      a.digits ++ (s.front ++ ('+' :: (s.back ++ (b.digits ++ t)))) := by
    simp [PlusSign.text]
  rw [htext, Arithmetic.foldSums_eq_writeSums, hmatch, ← Arithmetic.foldSums_eq_writeSums,
    ← Literal.value, ← Literal.value]
  by_cases hfits : a.value + b.value < sumBound
  · rw [pair_of_lt hfits, if_pos hfits]
    rfl
  · rw [if_neg hfits, pair, if_neg fun h => hfits h.2.2]
    simp [Match.text, text, PlusSign.text]

/-- **Folding the text of a chain is folding the chain.** -/
theorem foldSums_text (c : SumChain) : foldSums c.text = c.folded.text := by
  fun_induction folded c with
  | case1 a =>
    have hgo : ¬ GoesOn [] := by
      rintro ⟨b₁, b₂, d, r, h, -⟩
      simp at h
    have hcopy := Arithmetic.writeSums_digits (g := fun _ n => Text.ofNat n) a.isDigit (t := [])
      (by simp) hgo
    rwa [← Arithmetic.foldSums_eq_writeSums, ← Arithmetic.foldSums_eq_writeSums, foldSums_nil,
      List.append_nil] at hcopy
  | case2 a s b =>
    have hpair := foldSums_pair a s b (t := []) (by simp)
    rwa [foldSums_nil, List.append_nil, List.append_nil] at hpair
  | case3 a s b s' rest ih =>
    have hhead : ∀ c ∈ (s'.text ++ rest.text).head?, c.isDigit = false := by
      intro c hc
      rw [List.head?_append_of_ne_nil _ s'.text_ne_nil] at hc
      exact s'.isDigit_of_mem_text (List.mem_of_head? hc)
    rw [text, text, foldSums_pair a s b hhead, foldSums_sign, ih, text_join]

/-! ## Repeated scans -/

theorem length_pos (c : SumChain) : 0 < c.length := by
  cases c <;> simp [length]

/-- Where the total fits, every pair becomes one literal. -/
theorem length_folded {c : SumChain} (h : c.total < sumBound) :
    c.folded.length = (c.length + 1) / 2 := by
  fun_induction folded c with
  | case1 a => simp [length]
  | case2 a s b =>
    rw [total, total] at h
    rw [pair_of_lt h]
    simp [length]
  | case3 a s b s' rest ih =>
    rw [total, total] at h
    rw [pair_of_lt (by omega), join, length, ih (by omega), length, length]
    omega

/-- Two literals become the one of the total. -/
theorem folded_of_length_eq_two {c : SumChain} (hc : c.length = 2) (h : c.total < sumBound) :
    c.folded = last (.ofNat c.total) := by
  cases c with
  | last a => simp [length] at hc
  | cons a s rest =>
    cases rest with
    | last b => exact pair_of_lt h s
    | cons b s' rest =>
      have := rest.length_pos
      simp only [length] at hc
      omega

/-- Where the total fits, `n` scans are enough for `2 ^ n` literals. -/
theorem iterate_folded {c : SumChain} {n : Nat} (hc : 2 ≤ c.length) (h : c.total < sumBound)
    (hn : c.length ≤ 2 ^ n) : folded^[n] c = last (.ofNat c.total) := by
  induction n generalizing c with
  | zero =>
    rw [Nat.pow_zero] at hn
    omega
  | succ n ih =>
    rw [Function.iterate_succ_apply]
    by_cases htwo : c.length = 2
    · rw [folded_of_length_eq_two htwo h]
      exact Function.iterate_fixed rfl n
    · have hlength := length_folded h
      rw [Nat.pow_succ] at hn
      rw [ih (by omega) (by rwa [total_folded]) (by omega), total_folded]

/-- The scans of the text of a chain are the texts of the scanned chains. -/
theorem iterate_foldSums_text (c : SumChain) (n : Nat) :
    foldSums^[n] c.text = (folded^[n] c).text := by
  have hstep : Function.Semiconj text folded foldSums := fun d => (foldSums_text d).symm
  exact ((hstep.iterate_right n) c).symm

/-- **Chains of sums.**  One scan folds the literals of a chain in pairs, as far as these fit, and
    leaves a chain of the same total.  If a chain of two literals or more has a total that fits,
    repeated scans end in the shortest literal of the total: `n` of them for up to `2 ^ n` literals. -/
theorem constantFolding_sumChain (c : SumChain) :
    constantFolding.apply c.text = c.folded.text ∧ c.folded.total = c.total ∧
      (2 ≤ c.length → c.total < sumBound → ∀ n, c.length ≤ 2 ^ n →
        constantFolding.apply^[n] c.text = Text.ofNat c.total) := by
  refine ⟨foldSums_text c, total_folded c, ?_⟩
  intro hc h n hn
  have hiterate := iterate_foldSums_text c n
  rw [iterate_folded hc h hn] at hiterate
  exact hiterate

/-- Three literals, two of them with zeros at the front. -/
theorem constantFolding_sumChain_leading_zeros :
    ∃ c : SumChain, c.text = "007 +\t8+ 09".toList ∧ 2 ≤ c.length ∧ c.total < sumBound ∧
      c.length ≤ 2 ^ 2 ∧ constantFolding.apply c.text = "15+ 09".toList ∧
      constantFolding.apply^[2] c.text = "24".toList := by
  let a : Literal := ⟨"007".toList, by decide, List.all_eq_true.1 (by decide)⟩
  let b : Literal := ⟨['8'], by decide, List.all_eq_true.1 (by decide)⟩
  let d : Literal := ⟨"09".toList, by decide, List.all_eq_true.1 (by decide)⟩
  let s : PlusSign :=
    ⟨[' '], ['\t'], List.all_eq_true.1 (by decide), List.all_eq_true.1 (by decide)⟩
  let s' : PlusSign := ⟨[], [' '], by simp, List.all_eq_true.1 (by decide)⟩
  have hmain := constantFolding_sumChain (.cons a s (.cons b s' (.last d)))
  refine ⟨.cons a s (.cons b s' (.last d)), rfl, by decide, by decide, by decide, ?_, ?_⟩
  · exact hmain.1.trans (by decide)
  · exact (hmain.2.2 (by decide) (by decide) 2 (by decide)).trans (by decide)

end SumChain

end Retouch
