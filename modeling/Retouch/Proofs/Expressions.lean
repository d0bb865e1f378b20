/-
  The meaning of expressions of literals, and what folding sums does to it.

  An expression text spells a list of tokens, with spaces anywhere between them (`Spelled`).  `Denotes`
  is the grammar of expressions with the usual precedence, each form with its value; a `Calculator`
  reads the tokens from left to right and computes the value, and it accepts exactly the expressions
  (`value?_eq_some_iff`), so that an expression has one value.

  Folding looks at two literals with a plus sign between them and at nothing around them.  It leaves an
  expression, which has the value of the text with parentheses around every pair that is folded; that
  is the value of the text itself if every such pair stands apart from `-` and `*` (`SumsApart`).

  * `spelled_writeSums`: rewriting the sums of a text is rewriting the sums of its tokens;
  * `evaluates_constantFolding`: what folding does to the value of an expression;
  * `not_evaluates_constantFolding`: a product before a sum, where folding changes the value.
-/
import Mathlib.Algebra.Ring.Int.Defs
import Mathlib.Tactic.Ring
import Retouch.Proofs.Sums

namespace Retouch.Arithmetic

open Text Pass

/-! ## Tokens -/

/-- A token of an expression. -/
inductive Token where
  | number (n : Nat)
  | plus
  | minus
  | times
  | opening
  | closing
deriving Repr, DecidableEq

namespace Token

/-- The token as it is written; a number has no zeros in front. -/
def text : Token → Text
  | number n => ofNat n
  | plus => ['+']
  | minus => ['-']
  | times => ['*']
  | opening => ['(']
  | closing => [')']

/-- Whether the token is a number. -/
def isNumber : Token → Bool
  | number _ => true
  | _ => false

theorem exists_text_eq_of_not_isNumber {k : Token} (h : k.isNumber = false) :
    ∃ c, k.text = [c] ∧ c.isDigit = false ∧ isBlank c = false := by
  cases k with
  | number n => exact absurd h (by simp [isNumber])
  | plus => exact ⟨'+', rfl, by decide, by decide⟩
  | minus => exact ⟨'-', rfl, by decide, by decide⟩
  | times => exact ⟨'*', rfl, by decide, by decide⟩
  | opening => exact ⟨'(', rfl, by decide, by decide⟩
  | closing => exact ⟨')', rfl, by decide, by decide⟩

/-- The token that is written with one character. -/
def ofSign? : Char → Option Token
  | '+' => some plus
  | '-' => some minus
  | '*' => some times
  | '(' => some opening
  | ')' => some closing
  | _ => none

theorem ofSign?_of_text {k : Token} {c : Char} (h : k.isNumber = false) (hc : k.text = [c]) :
    ofSign? c = some k := by
  cases k with
  | number n => exact absurd h (by simp [isNumber])
  | _ =>
    obtain rfl := (List.cons.inj hc).1
    rfl

theorem text_ne_nil (k : Token) : k.text ≠ [] := by
  cases k with
  | number n => exact ofNat_ne_nil n
  | _ => exact List.cons_ne_nil _ _

theorem isBlank_of_mem_text {k : Token} {c : Char} (hc : c ∈ k.text) : isBlank c = false := by
  cases k with
  | number n => exact isBlank_of_isDigit (isDigit_of_mem_ofNat hc)
  | _ =>
    obtain rfl := List.mem_singleton.1 hc
    decide

theorem text_append_ne_space (k : Token) (t u : Text) : k.text ++ t ≠ ' ' :: u := by
  intro h
  obtain ⟨c, r, hk⟩ := List.exists_cons_of_ne_nil k.text_ne_nil
  rw [hk] at h
  obtain rfl := (List.cons.inj h).1
  have hblank : isBlank ' ' = false := isBlank_of_mem_text (k := k) (by rw [hk]; simp)
  exact absurd hblank (by decide)

/-- A token ends where its characters end. -/
theorem text_append_inj {k k' : Token} {t u : Text}
    (ht : k.isNumber = true → ∀ c ∈ t.head?, c.isDigit = false)
    (hu : k'.isNumber = true → ∀ c ∈ u.head?, c.isDigit = false) (h : k.text ++ t = k'.text ++ u) :
    k = k' ∧ t = u := by
  have hnumber : ∀ {n : Nat} {k : Token} {t u : Text}, k.isNumber = false →
      ofNat n ++ t ≠ k.text ++ u := by
    intro n k t u hk heq
    obtain ⟨c, hc, hdigit, -⟩ := exists_text_eq_of_not_isNumber hk
    obtain ⟨d, ds, hd⟩ := List.exists_cons_of_ne_nil (ofNat_ne_nil n)
    rw [hc, hd] at heq
    obtain rfl := (List.cons.inj heq).1
    rw [isDigit_of_mem_ofNat (n := n) (by rw [hd]; simp)] at hdigit
    exact absurd hdigit (by decide)
  cases hk : k.isNumber with
  | false =>
    cases hk' : k'.isNumber with
    | false =>
      obtain ⟨c, hc, -⟩ := exists_text_eq_of_not_isNumber hk
      obtain ⟨c', hc', -⟩ := exists_text_eq_of_not_isNumber hk'
      rw [hc, hc'] at h
      obtain ⟨rfl, htail⟩ := List.cons.inj h
      refine ⟨Option.some.inj ?_, htail⟩
      rw [← ofSign?_of_text hk hc, ofSign?_of_text hk' hc']
    | true =>
      cases k' with
      | number n => exact absurd h.symm (hnumber hk)
      | _ => exact absurd hk' (by decide)
  | true =>
    cases k with
    | number m =>
      cases hk' : k'.isNumber with
      | false => exact absurd h (hnumber hk')
      | true =>
        cases k' with
        | number n =>
          obtain ⟨hdigits, rfl⟩ := digits_append_inj (fun _ => isDigit_of_mem_ofNat)
            (fun _ => isDigit_of_mem_ofNat) (ht hk) (hu hk') h
          refine ⟨?_, rfl⟩
          rw [← digitsValue_ofNat m, hdigits, digitsValue_ofNat]
        | _ => exact absurd hk' (by decide)
    | _ => exact absurd hk (by decide)

end Token

/-- A text spells some tokens: they stand in order, with spaces anywhere between them, and a number
    ends where its digits end. -/
inductive Spelled : List Token → Text → Prop
  | nil : Spelled [] []
  | space {ts : List Token} {t : Text} : Spelled ts t → Spelled ts (' ' :: t)
  | token {k : Token} {ts : List Token} {t : Text} :
      (k.isNumber = true → ∀ c ∈ t.head?, c.isDigit = false) → Spelled ts t →
      Spelled (k :: ts) (k.text ++ t)

/-- The tokens with spaces between them. -/
def spaced (ts : List Token) : Text := [' '].intercalate (ts.map Token.text)

theorem spelled_spaced (ts : List Token) : Spelled ts (spaced ts) := by
  induction ts with
  | nil => exact .nil
  | cons k ts ih =>
    cases ts with
    | nil =>
      have hlast : Spelled [k] (k.text ++ []) := .token (by simp) .nil
      simpa [spaced, List.intercalate] using hlast
    | cons k' ts =>
      have hnext : Spelled (k :: k' :: ts) (k.text ++ (' ' :: spaced (k' :: ts))) :=
        .token (by simp) (.space ih)
      simpa [spaced, List.intercalate] using hnext

/-- The characters of a text other than white space. -/
def marks (t : Text) : Text := t.filter fun c => !isBlank c

theorem marks_append (t u : Text) : marks (t ++ u) = marks t ++ marks u := List.filter_append t u

theorem marks_of_isBlank {t : Text} (h : ∀ c ∈ t, isBlank c = true) : marks t = [] := by
  rw [marks, List.filter_eq_nil_iff]
  intro c hc
  simp [h c hc]

theorem marks_text (k : Token) : marks k.text = k.text := by
  rw [marks, List.filter_eq_self]
  intro c hc
  simp [Token.isBlank_of_mem_text hc]

namespace Spelled

variable {k : Token} {ts us : List Token} {t : Text}

theorem spaces (h : Spelled ts t) (n : Nat) : Spelled ts (List.replicate n ' ' ++ t) := by
  induction n with
  | zero => exact h
  | succ n ih => exact .space ih

theorem exists_of_cons (h : Spelled (k :: ts) t) :
    ∃ n u, t = List.replicate n ' ' ++ (k.text ++ u) ∧
      (k.isNumber = true → ∀ c ∈ u.head?, c.isDigit = false) ∧ Spelled ts u := by
  generalize hks : k :: ts = ks at h
  induction h with
  | nil => exact absurd hks (by simp)
  | space _ ih =>
    obtain ⟨n, u, rfl, hu, hspelled⟩ := ih hks
    exact ⟨n + 1, u, rfl, hu, hspelled⟩
  | token hhead hspelled _ =>
    obtain ⟨rfl, rfl⟩ := List.cons.inj hks
    exact ⟨0, _, rfl, hhead, hspelled⟩

theorem marks_eq (h : Spelled ts t) : marks t = ts.flatMap Token.text := by
  induction h with
  | nil => rfl
  | space _ ih =>
    rw [← List.singleton_append, marks_append, ih]
    rfl
  | token _ _ ih => rw [marks_append, marks_text, ih, List.flatMap_cons]

theorem of_space (h : Spelled ts (' ' :: t)) : Spelled ts t := by
  generalize hu : ' ' :: t = u at h
  cases h with
  | nil => exact absurd hu (by simp)
  | space h => rwa [(List.cons.inj hu).2]
  | @token k => exact absurd hu.symm (k.text_append_ne_space _ _)

/-- A text spells one list of tokens only. -/
theorem unique (h : Spelled ts t) (h' : Spelled us t) : ts = us := by
  induction h generalizing us with
  | nil =>
    cases us with
    | nil => rfl
    | cons k us =>
      have hmarks := h'.marks_eq
      rw [List.flatMap_cons] at hmarks
      exact absurd (List.append_eq_nil_iff.1 hmarks.symm).1 k.text_ne_nil
  | space _ ih => exact ih h'.of_space
  | @token k ts t hhead _ ih =>
    cases us with
    | nil =>
      have hmarks := h'.marks_eq
      rw [marks_append, marks_text] at hmarks
      exact absurd (List.append_eq_nil_iff.1 hmarks).1 k.text_ne_nil
    | cons k' us =>
      obtain ⟨n, u, heq, hhead', hu⟩ := h'.exists_of_cons
      cases n with
      | zero =>
        obtain ⟨rfl, rfl⟩ := Token.text_append_inj hhead hhead' heq
        rw [ih hu]
      | succ n => exact absurd heq (k.text_append_ne_space _ _)

end Spelled

/-! ## The grammar -/

/-- The classes of expressions, from the tightest. -/
inductive Level where
  | factor
  | product
  | sum
deriving Repr, DecidableEq

/-- The expressions and their values: multiplication binds tighter than addition and subtraction, and
    all operators group to the left. -/
inductive Denotes : Level → List Token → Int → Prop
  | number (n : Nat) : Denotes .factor [.number n] n
  | group {ts : List Token} {v : Int} : Denotes .sum ts v →
      Denotes .factor (.opening :: (ts ++ [.closing])) v
  | factor {ts : List Token} {v : Int} : Denotes .factor ts v → Denotes .product ts v
  | mul {ts us : List Token} {v w : Int} : Denotes .product ts v → Denotes .factor us w →
      Denotes .product (ts ++ .times :: us) (v * w)
  | product {ts : List Token} {v : Int} : Denotes .product ts v → Denotes .sum ts v
  | add {ts us : List Token} {v w : Int} : Denotes .sum ts v → Denotes .product us w →
      Denotes .sum (ts ++ .plus :: us) (v + w)
  | sub {ts us : List Token} {v w : Int} : Denotes .sum ts v → Denotes .product us w →
      Denotes .sum (ts ++ .minus :: us) (v - w)

/-- The text is an expression with the value `v`. -/
def Evaluates (t : Text) (v : Int) : Prop := ∃ ts, Spelled ts t ∧ Denotes .sum ts v

/-! ## Calculating -/

/-- A calculator reads an expression from left to right.  Within the innermost open parenthesis it has
    a total of the terms before the current one, and the current term as far as it goes.  `outer` keeps
    total and factor of the parentheses around it. -/
inductive Calculator where
  /-- An operand comes next; `factor` is what it is to be multiplied by, with its sign. -/
  | due (outer : List (Int × Int)) (total factor : Int)
  /-- An operand has been read; `term` is the product so far, with its sign. -/
  | done (outer : List (Int × Int)) (total term : Int)

namespace Calculator

/-- Reads a token. -/
def step : Calculator → Token → Option Calculator
  | due outer total factor, .number n => some (done outer total (factor * n))
  | due outer total factor, .opening => some (due ((total, factor) :: outer) 0 1)
  | done outer total term, .plus => some (due outer (total + term) 1)
  | done outer total term, .minus => some (due outer (total + term) (-1))
  | done outer total term, .times => some (due outer total term)
  | done ((total', factor) :: outer) total term, .closing =>
    some (done outer total' (factor * (total + term)))
  | _, _ => none

/-- The value at the end, if no parenthesis is open and no operand is missing. -/
def result? : Calculator → Option Int
  | done [] total term => some (total + term)
  | _ => none

/-- The value after some more tokens. -/
def run : Calculator → List Token → Option Int
  | c, [] => c.result?
  | c, k :: ts => (c.step k).bind (run · ts)

theorem run_nil (c : Calculator) : c.run [] = c.result? := by rw [run]

theorem run_cons (c : Calculator) (k : Token) (ts : List Token) :
    c.run (k :: ts) = (c.step k).bind (run · ts) := by rw [run]

variable {outer : List (Int × Int)} {total factor term : Int}

@[simp]
theorem run_number (n : Nat) (ts : List Token) :
    (due outer total factor).run (.number n :: ts) = (done outer total (factor * n)).run ts := by
  rw [run_cons]
  rfl

@[simp]
theorem run_opening (ts : List Token) :
    (due outer total factor).run (.opening :: ts) =
      (due ((total, factor) :: outer) 0 1).run ts := by
  rw [run_cons]
  rfl

@[simp]
theorem run_plus (ts : List Token) :
    (done outer total term).run (.plus :: ts) = (due outer (total + term) 1).run ts := by
  rw [run_cons]
  rfl

@[simp]
theorem run_minus (ts : List Token) :
    (done outer total term).run (.minus :: ts) = (due outer (total + term) (-1)).run ts := by
  rw [run_cons]
  rfl

@[simp]
theorem run_times (ts : List Token) :
    (done outer total term).run (.times :: ts) = (due outer total term).run ts := by
  rw [run_cons]
  rfl

@[simp]
theorem run_closing (total' : Int) (ts : List Token) :
    (done ((total', factor) :: outer) total term).run (.closing :: ts) =
      (done outer total' (factor * (total + term))).run ts := by
  rw [run_cons]
  rfl

end Calculator

/-- The value of some tokens, if they are an expression. -/
def value? (ts : List Token) : Option Int := (Calculator.due [] 0 1).run ts

/-! ## A calculator computes the value -/

/-- What a calculator does with an expression of each class. -/
def Computes (ts : List Token) (v : Int) : Level → Prop
  | .sum => ∀ outer, ∃ total term, total + term = v ∧
      ∀ rest, (Calculator.due outer 0 1).run (ts ++ rest) = (Calculator.done outer total term).run rest
  | _ => ∀ outer total factor rest, (Calculator.due outer total factor).run (ts ++ rest) =
      (Calculator.done outer total (factor * v)).run rest

theorem Denotes.computes {l : Level} {ts : List Token} {v : Int} (h : Denotes l ts v) :
    Computes ts v l := by
  induction h with
  | number n =>
    intro outer total factor rest
    exact Calculator.run_number n rest
  | group _ ih =>
    intro outer total factor rest
    obtain ⟨total', term, rfl, hrun⟩ := ih ((total, factor) :: outer)
    rw [List.cons_append, Calculator.run_opening, List.append_assoc, hrun, List.singleton_append,
      Calculator.run_closing]
  | factor _ ih => exact ih
  | mul _ _ ihv ihw =>
    intro outer total factor rest
    rw [List.append_assoc, ihv, List.cons_append, Calculator.run_times, ihw, mul_assoc]
  | product _ ih =>
    intro outer
    refine ⟨0, _, zero_add _, fun rest => ?_⟩
    rw [ih, one_mul]
  | add _ _ ihv ihw =>
    intro outer
    obtain ⟨total, term, rfl, hrun⟩ := ihv outer
    refine ⟨total + term, _, rfl, fun rest => ?_⟩
    rw [List.append_assoc, hrun, List.cons_append, Calculator.run_plus, ihw, one_mul]
  | @sub _ _ _ w _ _ ihv ihw =>
    intro outer
    obtain ⟨total, term, rfl, hrun⟩ := ihv outer
    refine ⟨total + term, -w, rfl, fun rest => ?_⟩
    rw [List.append_assoc, hrun, List.cons_append, Calculator.run_minus, ihw, neg_one_mul]

theorem value?_of_denotes {ts : List Token} {v : Int} (h : Denotes .sum ts v) :
    value? ts = some v := by
  obtain ⟨total, term, rfl, hrun⟩ := h.computes []
  have hend := hrun []
  rw [List.append_nil] at hend
  rw [value?, hend, Calculator.run_nil]
  rfl

/-! ## A calculator accepts expressions only -/

/-- Tokens after which a term may start: the total of the terms before it, and its sign. -/
inductive Opens : List Token → Int → Int → Prop
  | start : Opens [] 0 1
  | plus {ts : List Token} {v : Int} : Denotes .sum ts v → Opens (ts ++ [.plus]) v 1
  | minus {ts : List Token} {v : Int} : Denotes .sum ts v → Opens (ts ++ [.minus]) v (-1)

/-- Tokens that end with an operand. -/
def Ends (ts : List Token) (total term : Int) : Prop :=
  ∃ us vs sign v, ts = us ++ vs ∧ Opens us total sign ∧ Denotes .product vs v ∧ term = sign * v

/-- Tokens after which an operand is due. -/
inductive Awaits : List Token → Int → Int → Prop
  | term {ts : List Token} {total sign : Int} : Opens ts total sign → Awaits ts total sign
  | times {ts : List Token} {total term : Int} : Ends ts total term →
      Awaits (ts ++ [.times]) total term

theorem Ends.denotes {ts : List Token} {total term : Int} (h : Ends ts total term) :
    Denotes .sum ts (total + term) := by
  obtain ⟨us, vs, sign, v, rfl, hopens, hv, rfl⟩ := h
  cases hopens with
  | start => simpa using hv.product
  | plus hu => simpa using hu.add hv
  | minus hu => simpa [sub_eq_add_neg] using hu.sub hv

theorem Awaits.operand {ts us : List Token} {total factor v : Int} (h : Awaits ts total factor)
    (hv : Denotes .factor us v) : Ends (ts ++ us) total (factor * v) := by
  cases h with
  | term hopens => exact ⟨ts, us, factor, v, rfl, hopens, hv.factor, rfl⟩
  | times hends =>
    obtain ⟨us', vs, sign, w, rfl, hopens, hw, rfl⟩ := hends
    exact ⟨us', vs ++ .times :: us, sign, w * v, by simp, hopens, hw.mul hv, mul_assoc _ _ _⟩

/-- Tokens that leave some parentheses open. -/
inductive Nested : List (Int × Int) → List Token → Prop
  | nil : Nested [] []
  | cons {outer : List (Int × Int)} {pre ts : List Token} {total factor : Int} : Nested outer pre →
      Awaits ts total factor → Nested ((total, factor) :: outer) (pre ++ ts ++ [.opening])

/-- What a calculator has read. -/
inductive Follows : List Token → Calculator → Prop
  | due {outer : List (Int × Int)} {pre ts : List Token} {total factor : Int} : Nested outer pre →
      Awaits ts total factor → Follows (pre ++ ts) (.due outer total factor)
  | done {outer : List (Int × Int)} {pre ts : List Token} {total term : Int} : Nested outer pre →
      Ends ts total term → Follows (pre ++ ts) (.done outer total term)

theorem Follows.step {pre : List Token} {c c' : Calculator} {k : Token} (h : Follows pre c)
    (hstep : c.step k = some c') : Follows (pre ++ [k]) c' := by
  cases h with
  | due hnested hawaits =>
    cases k with
    | number n =>
      obtain rfl := Option.some.inj hstep
      rw [List.append_assoc]
      exact .done hnested (hawaits.operand (.number n))
    | opening =>
      obtain rfl := Option.some.inj hstep
      simpa using Follows.due (.cons hnested hawaits) (.term .start)
    | _ => exact absurd hstep (by simp [Calculator.step])
  | done hnested hends =>
    cases k with
    | plus =>
      obtain rfl := Option.some.inj hstep
      rw [List.append_assoc]
      exact .due hnested (.term (.plus hends.denotes))
    | minus =>
      obtain rfl := Option.some.inj hstep
      rw [List.append_assoc]
      exact .due hnested (.term (.minus hends.denotes))
    | times =>
      obtain rfl := Option.some.inj hstep
      rw [List.append_assoc]
      exact .due hnested (.times hends)
    | closing =>
      cases hnested with
      | nil => exact absurd hstep (by simp [Calculator.step])
      | cons houter hawaits =>
        obtain rfl := Option.some.inj hstep
        simpa using Follows.done houter (hawaits.operand hends.denotes.group)
    | _ => exact absurd hstep (by simp [Calculator.step])

theorem Follows.run {pre ts : List Token} {c : Calculator} {v : Int} (h : Follows pre c)
    (hrun : c.run ts = some v) : Denotes .sum (pre ++ ts) v := by
  induction ts generalizing pre c with
  | nil =>
    rw [Calculator.run_nil] at hrun
    cases h with
    | due => exact absurd hrun (by simp [Calculator.result?])
    | done hnested hends =>
      cases hnested with
      | nil =>
        obtain rfl := Option.some.inj hrun
        simpa using hends.denotes
      | cons => exact absurd hrun (by simp [Calculator.result?])
  | cons k ts ih =>
    rw [Calculator.run_cons] at hrun
    obtain ⟨c', hstep, hrun⟩ := Option.bind_eq_some_iff.1 hrun
    simpa using ih (h.step hstep) hrun

/-- **A calculator accepts exactly the expressions**, and gives their values. -/
theorem value?_eq_some_iff {ts : List Token} {v : Int} :
    value? ts = some v ↔ Denotes .sum ts v :=
  ⟨fun h => (Follows.due .nil (.term .start)).run h, value?_of_denotes⟩

/-- An expression has one value. -/
theorem Evaluates.unique {t : Text} {v w : Int} (h : Evaluates t v) (h' : Evaluates t w) : v = w := by
  obtain ⟨ts, hts, hv⟩ := h
  obtain ⟨us, hus, hw⟩ := h'
  obtain rfl := hts.unique hus
  rw [← value?_eq_some_iff] at hv hw
  exact Option.some.inj (hv.symm.trans hw)

/-! ## The scan of an expression -/

/-- A spelled text as the scan for sums goes through it. -/
inductive Scanned : List Token → Text → Prop
  | nil : Scanned [] []
  | space {ts : List Token} {t : Text} : Scanned ts t → Scanned ts (' ' :: t)
  | sign {k : Token} {c : Char} {ts : List Token} {t : Text} : k.isNumber = false → k.text = [c] →
      c.isDigit = false → Scanned ts t → Scanned (k :: ts) (c :: t)
  /-- A number that starts no sum. -/
  | number {n : Nat} {ts : List Token} {t : Text} : (∀ c ∈ t.head?, c.isDigit = false) →
      ¬ GoesOn t → (∀ b us, ts ≠ .plus :: .number b :: us) → Scanned ts t →
      Scanned (.number n :: ts) (ofNat n ++ t)
  | sum {a b m n : Nat} {ts : List Token} {t : Text} : (∀ c ∈ t.head?, c.isDigit = false) →
      Scanned ts t → Scanned (.number a :: .plus :: .number b :: ts)
        (ofNat a ++ (List.replicate m ' ' ++ ('+' :: (List.replicate n ' ' ++ (ofNat b ++ t)))))

theorem isBlank_of_mem_spaces {n : Nat} : ∀ c ∈ List.replicate n ' ', isBlank c = true := by
  intro c hc
  rw [List.eq_of_mem_replicate hc]
  decide

/-- The first character of a token tells a number from the other tokens. -/
theorem isNumber_eq_isDigit {k : Token} {c : Char} {r : Text} (h : k.text = c :: r) :
    k.isNumber = c.isDigit := by
  cases hk : k.isNumber with
  | false =>
    obtain ⟨d, hd, hdigit, -⟩ := k.exists_text_eq_of_not_isNumber hk
    rw [h] at hd
    obtain rfl := (List.cons.inj hd).1
    exact hdigit.symm
  | true =>
    cases k with
    | number n => exact (isDigit_of_mem_ofNat (n := n) (by rw [← Token.text, h]; simp)).symm
    | _ => exact absurd hk (by decide)

theorem exists_of_flatMap_text {ts : List Token} {c : Char} {r : Text}
    (h : ts.flatMap Token.text = c :: r) :
    ∃ k us s, ts = k :: us ∧ k.text = c :: s ∧ s ++ us.flatMap Token.text = r := by
  cases ts with
  | nil => exact absurd h (by simp)
  | cons k us =>
    obtain ⟨d, s, hk⟩ := List.exists_cons_of_ne_nil k.text_ne_nil
    rw [List.flatMap_cons, hk] at h
    obtain ⟨rfl, hr⟩ := List.cons.inj h
    exact ⟨k, us, s, rfl, hk, hr⟩

/-- The tokens show whether a sum starts. -/
theorem Spelled.exists_of_goesOn {ts : List Token} {t : Text} (h : Spelled ts t) (hgo : GoesOn t) :
    ∃ b us, ts = .plus :: .number b :: us := by
  obtain ⟨b₁, b₂, d, r, rfl, hb₁, hb₂, hd⟩ := hgo
  have hmarks : ts.flatMap Token.text = '+' :: d :: marks r := by
    have hplus : marks ('+' :: (b₂ ++ (d :: r))) = '+' :: marks (b₂ ++ (d :: r)) := rfl
    have hdigit : marks (d :: r) = d :: marks r := by simp [marks, isBlank_of_isDigit hd]
    rw [← h.marks_eq, marks_append, marks_of_isBlank hb₁, hplus, marks_append,
      marks_of_isBlank hb₂, hdigit]
    rfl
  obtain ⟨k, us, s, rfl, hk, hrest⟩ := exists_of_flatMap_text hmarks
  obtain rfl : k = .plus := by
    have hnumber := isNumber_eq_isDigit hk
    cases k with
    | plus => rfl
    | number n => exact absurd hnumber (by simp [Token.isNumber])
    | _ => exact absurd (List.cons.inj hk).1 (by decide)
  obtain rfl : s = [] := (List.cons.inj hk).2.symm
  obtain ⟨k, us, s, rfl, hk, -⟩ := exists_of_flatMap_text hrest
  have hnumber := isNumber_eq_isDigit hk
  rw [hd] at hnumber
  cases k with
  | number b => exact ⟨b, us, rfl⟩
  | _ => exact absurd hnumber (by decide)

theorem Spelled.scanned {ts : List Token} {t : Text} (h : Spelled ts t) : Scanned ts t := by
  induction hlen : ts.length using Nat.strong_induction_on generalizing ts t with
  | _ n ih =>
  induction h with
  | nil => exact .nil
  | space _ ih' => exact .space (ih' hlen)
  | @token k ts t hhead hspelled _ =>
    have hscanned : Scanned ts t := ih ts.length (by simp [← hlen]) hspelled rfl
    cases hk : k.isNumber with
    | false =>
      obtain ⟨c, hc, hdigit, -⟩ := k.exists_text_eq_of_not_isNumber hk
      rw [hc]
      exact .sign hk hc hdigit hscanned
    | true =>
      cases k with
      | number a =>
        by_cases hsum : ∃ b us, ts = .plus :: .number b :: us
        · obtain ⟨b, us, rfl⟩ := hsum
          obtain ⟨m, u, rfl, -, hu⟩ := hspelled.exists_of_cons
          obtain ⟨n, u, rfl, hhead', hu⟩ := hu.exists_of_cons
          exact .sum (hhead' rfl) (ih us.length (by simp [← hlen]; omega) hu rfl)
        · refine .number (hhead rfl) (fun hgo => hsum (hspelled.exists_of_goesOn hgo)) ?_ hscanned
          rintro b us rfl
          exact hsum ⟨b, us, rfl⟩
      | _ => exact absurd hk (by decide)

/-! ## Rewriting sums -/

/-- The text with something in place of each sum that the scan folds. -/
def writeSums (g : Match → Nat → Text) (t : Text) : Text :=
  Matcher.replaceAll sumPattern.read?
    (fun m => match sum? (m.piece 0) (m.piece 4) with
      | some n => g m n
      | none => m.text) t

/-- The text with parentheses around each sum that the scan folds. -/
def bracketSums (t : Text) : Text := writeSums (fun m _ => '(' :: (m.text ++ [')'])) t

theorem foldSums_eq_writeSums (t : Text) : foldSums t = writeSums (fun _ n => ofNat n) t := rfl

/-- The tokens with something in place of each sum that fits. -/
def rewriteSums (g : Nat → Nat → List Token) : List Token → List Token
  | .number a :: .plus :: .number b :: ts =>
    (if a + b < sumBound then g a b else [.number a, .plus, .number b]) ++ rewriteSums g ts
  | k :: ts => k :: rewriteSums g ts
  | [] => []

/-- A sum as one number. -/
def foldedSum (a b : Nat) : List Token := [.number (a + b)]

/-- A sum between parentheses. -/
def bracketedSum (a b : Nat) : List Token := [.opening, .number a, .plus, .number b, .closing]

section Rewrite

variable {g : Match → Nat → Text} {gs : Nat → Nat → List Token}

theorem writeSums_eq_flatMap (t : Text) :
    writeSums g t = (sumSegments t).flatMap fun
      | .plain c => [c]
      | .hit m => match sum? (m.piece 0) (m.piece 4) with
        | some n => g m n
        | none => m.text := rfl

theorem writeSums_cons {c : Char} (hc : c.isDigit = false) (t : Text) :
    writeSums g (c :: t) = c :: writeSums g t := by
  rw [writeSums_eq_flatMap, sumSegments_cons hc]
  rfl

theorem head?_writeSums {t : Text} (h : ∀ c ∈ t.head?, c.isDigit = false) :
    ∀ c ∈ (writeSums g t).head?, c.isDigit = false := by
  cases t with
  | nil =>
    rw [writeSums_eq_flatMap, sumSegments_nil]
    simp
  | cons c t =>
    rw [writeSums_cons (h c rfl)]
    exact h

theorem writeSums_digits {ds t : Text} (hdigit : ∀ c ∈ ds, c.isDigit = true)
    (ht : ∀ c ∈ t.head?, c.isDigit = false) (hgo : ¬ GoesOn t) :
    writeSums g (ds ++ t) = ds ++ writeSums g t := by
  rw [writeSums_eq_flatMap, sumSegments_digits hdigit ht hgo, List.flatMap_append,
    List.flatMap_map]
  simp [writeSums_eq_flatMap]

/-- A sum is written if it fits, and copied otherwise. -/
theorem writeSums_match {ds b₁ b₂ es t : Text} (hds : ds ≠ []) (hdigit : ∀ c ∈ ds, c.isDigit = true)
    (hb₁ : ∀ c ∈ b₁, isBlank c = true) (hb₂ : ∀ c ∈ b₂, isBlank c = true) (hes : es ≠ [])
    (hdigit' : ∀ c ∈ es, c.isDigit = true) (ht : ∀ c ∈ t.head?, c.isDigit = false) :
    writeSums g (ds ++ (b₁ ++ ('+' :: (b₂ ++ (es ++ t))))) =
      (if digitsValue ds + digitsValue es < sumBound
        then g ⟨[ds, b₁, ['+'], b₂, es], t⟩ (digitsValue ds + digitsValue es)
        else Match.text ⟨[ds, b₁, ['+'], b₂, es], t⟩) ++ writeSums g t := by
  rw [writeSums_eq_flatMap, sumSegments_sum hds hdigit hb₁ hb₂ hes hdigit' ht, List.flatMap_cons,
    ← writeSums_eq_flatMap]
  have hsum := sum?_eq_ite hds hdigit hes hdigit'
  simp only [Match.piece, List.getD_cons_zero, List.getD_cons_succ, hsum]
  by_cases hfits : digitsValue ds + digitsValue es < sumBound
  · rw [if_pos hfits, if_pos hfits]
  · rw [if_neg hfits, if_neg hfits]

/-- The match of a sum, with `m` and `n` spaces around its sign. -/
def sumMatch (a m n b : Nat) (rest : Text) : Match :=
  ⟨[ofNat a, List.replicate m ' ', ['+'], List.replicate n ' ', ofNat b], rest⟩

theorem writeSums_sum (a m n b : Nat) {t : Text} (ht : ∀ c ∈ t.head?, c.isDigit = false) :
    writeSums g (ofNat a ++ (List.replicate m ' ' ++
        ('+' :: (List.replicate n ' ' ++ (ofNat b ++ t))))) =
      (if a + b < sumBound then g (sumMatch a m n b t) (a + b) else (sumMatch a m n b t).text) ++
        writeSums g t := by
  have hmatch := writeSums_match (g := g) (ofNat_ne_nil a) (fun _ => isDigit_of_mem_ofNat)
    (isBlank_of_mem_spaces (n := m)) (isBlank_of_mem_spaces (n := n)) (ofNat_ne_nil b)
    (fun _ => isDigit_of_mem_ofNat) ht
  rwa [digitsValue_ofNat, digitsValue_ofNat] at hmatch

theorem rewriteSums_cons {k : Token} {ts : List Token}
    (h : ∀ a b us, k = .number a → ts ≠ .plus :: .number b :: us) :
    rewriteSums gs (k :: ts) = k :: rewriteSums gs ts := by
  rw [rewriteSums]
  exact h

theorem Spelled.sum {ts : List Token} {t : Text} (h : Spelled ts t)
    (ht : ∀ c ∈ t.head?, c.isDigit = false) (a m n b : Nat) (rest : Text) :
    Spelled (.number a :: .plus :: .number b :: ts) ((sumMatch a m n b rest).text ++ t) := by
  have hb : Spelled (.number b :: ts) (ofNat b ++ t) := .token (k := .number b) (fun _ => ht) h
  have hplus : Spelled (.plus :: .number b :: ts)
      ('+' :: (List.replicate n ' ' ++ (ofNat b ++ t))) :=
    .token (k := .plus) (by simp [Token.isNumber]) (hb.spaces n)
  have hafter : ∀ c ∈ (List.replicate m ' ' ++
      ('+' :: (List.replicate n ' ' ++ (ofNat b ++ t)))).head?, c.isDigit = false := by
    cases m with
    | zero => simp
    | succ m => simp [List.replicate_succ]
  have ha := Spelled.token (k := .number a) (fun _ => hafter) (hplus.spaces m)
  simpa [sumMatch, Match.text, Token.text] using ha

/-- **Rewriting the sums of a text is rewriting the sums of its tokens**, if what is written for a sum
    spells what stands for it. -/
theorem spelled_writeSums
    (hg : ∀ {ts t}, Spelled ts t → (∀ c ∈ t.head?, c.isDigit = false) → ∀ a m n b rest,
      Spelled (gs a b ++ ts) (g (sumMatch a m n b rest) (a + b) ++ t))
    {ts : List Token} {t : Text} (h : Scanned ts t) :
    Spelled (rewriteSums gs ts) (writeSums g t) := by
  induction h with
  | nil =>
    rw [writeSums_eq_flatMap, sumSegments_nil, rewriteSums]
    exact .nil
  | space _ ih =>
    rw [writeSums_cons (by decide)]
    exact .space ih
  | @sign k c ts t hk hc hdigit _ ih =>
    have hspelled := Spelled.token (k := k) (by simp [hk]) ih
    rw [hc] at hspelled
    have hcons : rewriteSums gs (k :: ts) = k :: rewriteSums gs ts := by
      refine rewriteSums_cons ?_
      rintro a b us rfl
      exact absurd hk (by simp [Token.isNumber])
    rw [writeSums_cons hdigit, hcons]
    exact hspelled
  | number ht hgo hne _ ih =>
    rw [writeSums_digits (fun _ => isDigit_of_mem_ofNat) ht hgo,
      rewriteSums_cons fun _ b us _ => hne b us]
    exact .token (fun _ => head?_writeSums ht) ih
  | sum ht _ ih =>
    rw [writeSums_sum _ _ _ _ ht, rewriteSums]
    split
    · exact hg ih (head?_writeSums ht) _ _ _ _ _
    · exact ih.sum (head?_writeSums ht) _ _ _ _ _

end Rewrite

theorem spelled_foldSums {ts : List Token} {t : Text} (h : Spelled ts t) :
    Spelled (rewriteSums foldedSum ts) (foldSums t) := by
  rw [foldSums_eq_writeSums]
  refine spelled_writeSums ?_ h.scanned
  intro ts t hts ht a m n b rest
  exact .token (k := .number (a + b)) (fun _ => ht) hts

theorem spelled_bracketSums {ts : List Token} {t : Text} (h : Spelled ts t) :
    Spelled (rewriteSums bracketedSum ts) (bracketSums t) := by
  refine spelled_writeSums ?_ h.scanned
  intro ts t hts ht a m n b rest
  have hclosing : Spelled (.closing :: ts) (')' :: t) :=
    .token (k := .closing) (by simp [Token.isNumber]) hts
  have hopening := Spelled.token (k := .opening) (by simp [Token.isNumber])
    (hclosing.sum (by simp) a m n b rest)
  simpa [bracketedSum, Token.text] using hopening

/-! ## The value of the result -/

namespace Calculator

theorem run_append_congr {ts us : List Token} (h : ∀ c : Calculator, c.run ts = c.run us)
    (pre : List Token) (c : Calculator) : c.run (pre ++ ts) = c.run (pre ++ us) := by
  induction pre generalizing c with
  | nil => exact h c
  | cons k pre ih =>
    rw [List.cons_append, List.cons_append, run_cons, run_cons]
    exact Option.bind_congr fun c' _ => ih c'

/-- A folded sum counts as one between parentheses. -/
theorem run_foldedSum (c : Calculator) (a b : Nat) (ts : List Token) :
    c.run (foldedSum a b ++ ts) = c.run (bracketedSum a b ++ ts) := by
  cases c with
  | due outer total factor => simp [foldedSum, bracketedSum]
  | done outer total term =>
    rw [foldedSum, bracketedSum, List.cons_append, List.cons_append, run_cons, run_cons]
    rfl

theorem run_rewriteSums_foldedSum (c : Calculator) (ts : List Token) :
    c.run (rewriteSums foldedSum ts) = c.run (rewriteSums bracketedSum ts) := by
  induction ts using rewriteSums.induct generalizing c with
  | case1 a b ts ih =>
    rw [rewriteSums, rewriteSums]
    split
    · rw [run_foldedSum]
      exact run_append_congr ih _ c
    · exact run_append_congr ih _ c
  | case2 k ts hne ih =>
    rw [rewriteSums_cons hne, rewriteSums_cons hne]
    exact run_append_congr ih [k] c
  | case3 => rfl

/-- Two calculators that wait for the same kind of token within as many parentheses. -/
inductive Alike : Calculator → Calculator → Prop
  | due {outer outer' : List (Int × Int)} (total total' factor factor' : Int) :
      outer.length = outer'.length → Alike (.due outer total factor) (.due outer' total' factor')
  | done {outer outer' : List (Int × Int)} (total total' term term' : Int) :
      outer.length = outer'.length → Alike (.done outer total term) (.done outer' total' term')

/-- What a calculator accepts does not hang on the numbers it has seen. -/
theorem Alike.isSome_run {c c' : Calculator} (h : Alike c c') (ts : List Token) :
    (c.run ts).isSome = (c'.run ts).isSome := by
  induction ts generalizing c c' with
  | nil =>
    rw [run_nil, run_nil]
    cases h with
    | due => rfl
    | @done outer outer' total total' term term' hlen =>
      cases outer <;> cases outer' <;> simp_all [result?]
  | cons k ts ih =>
    rw [run_cons, run_cons]
    cases h with
    | due _ _ _ _ hlen =>
      cases k with
      | number n => exact ih (.done _ _ _ _ hlen)
      | opening => exact ih (.due _ _ _ _ (by simp [hlen]))
      | _ => rfl
    | @done outer outer' _ _ _ _ hlen =>
      cases k with
      | plus => exact ih (.due _ _ _ _ hlen)
      | minus => exact ih (.due _ _ _ _ hlen)
      | times => exact ih (.due _ _ _ _ hlen)
      | closing =>
        cases outer with
        | nil =>
          obtain rfl := List.eq_nil_of_length_eq_zero hlen.symm
          rfl
        | cons p outer =>
          obtain ⟨p', outer', rfl⟩ := List.exists_cons_of_length_eq_add_one hlen.symm
          exact ih (.done _ _ _ _ (by simpa using hlen))
      | _ => rfl

/-- Only the sum of total and term counts if no factor follows. -/
theorem run_done_congr {outer : List (Int × Int)} {total term total' term' : Int} {ts : List Token}
    (h : total + term = total' + term') (hts : ts.head? ≠ some .times) :
    (done outer total term).run ts = (done outer total' term').run ts := by
  cases ts with
  | nil => cases outer <;> simp [run_nil, result?, h]
  | cons k ts =>
    rw [run_cons, run_cons]
    cases k with
    | times => exact absurd rfl hts
    | plus => simp [step, h]
    | minus => simp [step, h]
    | closing => cases outer <;> simp [step, h]
    | _ => rfl

/-- Folding neither makes nor breaks an expression. -/
theorem isSome_run_rewriteSums (c : Calculator) (ts : List Token) :
    (c.run (rewriteSums foldedSum ts)).isSome = (c.run ts).isSome := by
  induction ts using rewriteSums.induct generalizing c with
  | case1 a b ts ih =>
    cases c with
    | due outer total factor =>
      rw [rewriteSums]
      split
      · simp only [foldedSum, List.singleton_append, run_number, run_plus]
        rw [ih]
        exact (Alike.done _ _ _ _ rfl).isSome_run ts
      · simp only [List.cons_append, List.nil_append, run_number, run_plus]
        exact ih _
    | done outer total term =>
      rw [rewriteSums]
      split <;> rfl
  | case2 k ts hne ih =>
    rw [rewriteSums_cons hne, run_cons, run_cons]
    cases c.step k with
    | none => rfl
    | some c' => exact ih c'
  | case3 => rfl

/-- The next operand is to be added if the last token is not `-` or `*`. -/
def IsPlain (last : Option Token) : Calculator → Prop
  | due _ _ factor => last ≠ some .minus → last ≠ some .times → factor = 1
  | done _ _ _ => True

theorem isPlain_step {c c' : Calculator} {k : Token} (h : c.step k = some c') :
    c'.IsPlain (some k) := by
  cases c with
  | due outer total factor =>
    cases k with
    | number n => obtain rfl := Option.some.inj h; trivial
    | opening => obtain rfl := Option.some.inj h; exact fun _ _ => rfl
    | _ => exact absurd h (by simp [step])
  | done outer total term =>
    cases k with
    | plus => obtain rfl := Option.some.inj h; exact fun _ _ => rfl
    | minus => obtain rfl := Option.some.inj h; exact fun hminus => absurd rfl hminus
    | times => obtain rfl := Option.some.inj h; exact fun _ htimes => absurd rfl htimes
    | closing =>
      cases outer with
      | nil => exact absurd h (by simp [step])
      | cons p outer => obtain rfl := Option.some.inj h; trivial
    | _ => exact absurd h (by simp [step])

end Calculator

/-- No sum that the scan folds stands directly after `-` or `*`, or before `*`; `last` is the token
    before. -/
def Apart : Option Token → List Token → Prop
  | last, .number a :: .plus :: .number b :: ts =>
    (a + b < sumBound → last ≠ some .minus ∧ last ≠ some .times ∧ ts.head? ≠ some .times) ∧
      Apart (some (.number b)) ts
  | _, k :: ts => Apart (some k) ts
  | _, [] => True

/-- Folding sums that stand apart keeps the value. -/
theorem Calculator.run_rewriteSums_of_apart {last : Option Token} {ts : List Token}
    (h : Apart last ts) {c : Calculator} (hc : c.IsPlain last) :
    c.run (rewriteSums foldedSum ts) = c.run ts := by
  induction last, ts using Apart.induct generalizing c with
  | case1 last a b ts ih =>
    obtain ⟨hapart, hrest⟩ := h
    cases c with
    | due outer total factor =>
      rw [rewriteSums]
      split
      · next hfits =>
        obtain ⟨hminus, htimes, hnext⟩ := hapart hfits
        obtain rfl : factor = 1 := hc hminus htimes
        simp only [foldedSum, List.singleton_append, run_number, run_plus]
        refine (ih hrest (show IsPlain _ (done outer total _) from trivial)).trans ?_
        exact run_done_congr (by push_cast; ring) hnext
      · simp only [List.cons_append, List.nil_append, run_number, run_plus]
        exact ih hrest trivial
    | done outer total term =>
      rw [rewriteSums]
      split <;> rfl
  | case2 last k ts hne ih =>
    rw [Apart] at h
    · rw [rewriteSums_cons hne, run_cons, run_cons]
      refine Option.bind_congr fun c' hstep => ih h (isPlain_step hstep)
    · exact hne
  | case3 => rfl

/-- No sum of the text that is folded stands directly after `-` or `*`, or before `*`. -/
def SumsApart (t : Text) : Prop := ∃ ts, Spelled ts t ∧ Apart none ts

/-- **What folding does to the value of an expression.**  The result is an expression, with one value.
    It is the value of the text with parentheses around each sum that is folded, and the value of the
    text itself if these sums stand apart from `-` and `*`. -/
theorem evaluates_constantFolding {t : Text} {v : Int} (h : Evaluates t v) :
    ∃ w, Evaluates (constantFolding.apply t) w ∧
      (∀ w', Evaluates (constantFolding.apply t) w' → w' = w) ∧ Evaluates (bracketSums t) w ∧
      (SumsApart t → w = v) := by
  obtain ⟨ts, hts, hv⟩ := h
  rw [← value?_eq_some_iff] at hv
  obtain ⟨w, hw⟩ : ∃ w, value? (rewriteSums foldedSum ts) = some w := by
    rw [← Option.isSome_iff_exists, value?, Calculator.isSome_run_rewriteSums, ← value?, hv]
    rfl
  have hfolded : Evaluates (constantFolding.apply t) w :=
    ⟨_, spelled_foldSums hts, value?_eq_some_iff.1 hw⟩
  refine ⟨w, hfolded, fun w' h' => h'.unique hfolded, ?_, ?_⟩
  · refine ⟨_, spelled_bracketSums hts, value?_eq_some_iff.1 ?_⟩
    rw [value?, ← Calculator.run_rewriteSums_foldedSum]
    exact hw
  · rintro ⟨us, hus, hapart⟩
    obtain rfl := hts.unique hus
    have hsame := Calculator.run_rewriteSums_of_apart (c := .due [] 0 1) hapart fun _ _ => rfl
    rw [value?, hsame] at hw
    exact Option.some.inj (hw.symm.trans hv)

/-- Sums between parentheses and at the end of a chain. -/
theorem evaluates_constantFolding_chain :
    ∃ t, t = "7 - ( 2 + 3 ) + 4 + 5".toList ∧ Evaluates t 11 ∧ SumsApart t ∧
      constantFolding.apply t = "7 - ( 5 ) + 9".toList ∧ Evaluates (constantFolding.apply t) 11 := by
  have hspelled : Spelled _ "7 - ( 2 + 3 ) + 4 + 5".toList :=
    spelled_spaced [.number 7, .minus, .opening, .number 2, .plus, .number 3, .closing, .plus,
      .number 4, .plus, .number 5]
  have hvalue : Evaluates "7 - ( 2 + 3 ) + 4 + 5".toList 11 :=
    ⟨_, hspelled, value?_eq_some_iff.1 (by decide)⟩
  have hapart : SumsApart "7 - ( 2 + 3 ) + 4 + 5".toList :=
    ⟨_, hspelled, by simp [Apart]⟩
  obtain ⟨w, hw, -, -, hsame⟩ := evaluates_constantFolding hvalue
  obtain rfl := hsame hapart
  exact ⟨_, rfl, hvalue, hapart, by decide +kernel, hw⟩

/-- After a product, folding changes the value: `2 * 3 + 4` is ten, and becomes `2 * 7`. -/
theorem not_evaluates_constantFolding :
    ∃ t, t = "2 * 3 + 4".toList ∧ Evaluates t 10 ∧ constantFolding.apply t = "2 * 7".toList ∧
      Evaluates (constantFolding.apply t) 14 ∧ ¬ Evaluates (constantFolding.apply t) 10 := by
  have hspelled : Spelled _ "2 * 3 + 4".toList :=
    spelled_spaced [.number 2, .times, .number 3, .plus, .number 4]
  have hfolded : Evaluates (constantFolding.apply "2 * 3 + 4".toList) 14 :=
    ⟨_, spelled_foldSums hspelled, value?_eq_some_iff.1 (by decide +kernel)⟩
  refine ⟨_, rfl, ⟨_, hspelled, value?_eq_some_iff.1 (by decide)⟩, by decide +kernel, hfolded, ?_⟩
  intro h
  exact absurd (h.unique hfolded) (by decide)

end Retouch.Arithmetic
