/-
  Searches that go back.

  A pattern reads each piece in one way.  A search tries all fronts of the text that a piece can take,
  in the order in which it prefers them, and goes back to an earlier piece where a later one cannot be
  read: a run takes all it can at first and then gives back one character after another
  (`Piece.fronts`, `Pattern.search?`).

  Giving back leads nowhere if the rest of the pattern is refused in front of every character that the
  run could take (`Refuses`), or at least inside of such a run (`RefusesInside`).  A pattern is firm if
  this holds of each of its pieces but the last one.

  * `take?_eq_head?_fronts`: what a piece takes is the front that a search prefers;
  * `holds_run` and `holds_run_of_pos`: a run before what it cannot feed gives nothing back;
  * `Firm.search?_eq_read?`: a search for a firm pattern finds what the pattern reads;
  * `search?_eq_read?_of_mem_library`: so it is with every pattern of the passes, of the diagnostics
    and of the tokens.
-/
import Mathlib.Data.List.Find
import Mathlib.Data.List.Induction
import Mathlib.Data.List.Infix
import Retouch.Diagnostic.Basic
import Retouch.Pass.Catalog
import Retouch.Proofs.Digits
import Retouch.Proofs.Scanning
import Retouch.Retrieval.Tokens

namespace Retouch

open Text

/-! ## Fronts -/

section Inits

variable {α : Type} {q : List α → Bool} {l u : List α}

theorem reverse_inits_concat (l : List α) (a : α) :
    (l ++ [a]).inits.reverse = (l ++ [a]) :: l.inits.reverse := by
  simp [List.inits_append]

/-- Behind the first of some fronts, from the longest on, there are only shorter ones. -/
theorem of_mem_tail_reverse_inits (h : u ∈ (l.inits.reverse.filter q).tail) :
    q u = true ∧ ∃ c v, l = u ++ c :: v := by
  rcases List.eq_nil_or_concat l with rfl | ⟨l, a, rfl⟩
  · cases hq : q [] <;> simp [hq] at h
  · rw [List.concat_eq_append, reverse_inits_concat] at h
    have hmem : u ∈ l.inits.reverse.filter q := by
      rw [List.filter_cons] at h
      split at h
      · exact h
      · exact List.mem_of_mem_tail h
    rw [List.mem_filter, List.mem_reverse, List.mem_inits] at hmem
    obtain ⟨⟨v, rfl⟩, hq⟩ := hmem
    refine ⟨hq, ?_⟩
    rw [List.concat_eq_append, List.append_assoc]
    cases v with
    | nil => exact ⟨a, [], rfl⟩
    | cons c v => exact ⟨c, v ++ [a], rfl⟩

theorem head?_reverse_inits_of_pos (h : q l = true) :
    (l.inits.reverse.filter q).head? = some l := by
  rcases List.eq_nil_or_concat l with rfl | ⟨l, a, rfl⟩
  · simp [h]
  · rw [List.concat_eq_append] at h ⊢
    rw [reverse_inits_concat, List.filter_cons_of_pos h, List.head?_cons]

end Inits

namespace Piece

variable {before : Option Char} {t : Text}

/-- The fronts of `t` that a piece can take, in the order in which a search tries them.  A run starts
    with the longest one and gives back; `through` starts with the shortest one and goes on. -/
def fronts (before : Option Char) (t : Text) : Piece → List Text
  | word w => [w].filter (·.isPrefixOf t)
  | oneOf ws => ws.filter (·.isPrefixOf t)
  | maybe w => [w, []].filter (·.isPrefixOf t)
  | run least p => (t.takeWhile p).inits.reverse.filter (least ≤ ·.length)
  | runTo p c => (t.takeWhile p).inits.reverse.filter (·.getLast? = some c)
  | through w => t.inits.filter (w.isSuffixOf ·)
  | name => (t.takeWhile isWord).inits.reverse.filter (·.head?.any isNameStart)
  | edge => if before.any isWord != t.head?.any isWord then [[]] else []
  | lineEnd => if t.head?.all (· == '\n') then [[]] else []

theorem drop_takeWhile (p : Char → Bool) (t : Text) :
    t.drop (t.takeWhile p).length = t.dropWhile p := by
  have hsplit := List.prefix_iff_eq_append.1 (List.takeWhile_prefix (l := t) p)
  exact List.append_cancel_left (hsplit.trans List.takeWhile_append_dropWhile.symm)

theorem head?_fronts_run (least : Nat) (p : Char → Bool) (before : Option Char) (t : Text) :
    ((run least p).fronts before t).head? =
      if least ≤ (t.takeWhile p).length then some (t.takeWhile p) else none := by
  rw [fronts]
  split
  · next h => exact head?_reverse_inits_of_pos (by simpa using h)
  · next h =>
    rw [List.head?_eq_none_iff, List.filter_eq_nil_iff]
    intro u hu
    rw [List.mem_reverse, List.mem_inits] at hu
    have := hu.length_le
    simp only [decide_eq_true_eq]
    omega

theorem head?_fronts_runTo (p : Char → Bool) (c : Char) (before : Option Char) (t : Text) :
    ((runTo p c).fronts before t).head? =
      if (dropEndWhile (· != c) (t.takeWhile p)).isEmpty then none
      else some (dropEndWhile (· != c) (t.takeWhile p)) := by
  rw [fronts]
  induction t.takeWhile p using List.reverseRecOn with
  | nil => rfl
  | append_singleton u d ih =>
    rw [reverse_inits_concat]
    by_cases hd : d = c
    · rw [List.filter_cons_of_pos (by simp [hd])]
      simp [dropEndWhile, hd]
    · rw [List.filter_cons_of_neg (by simp [hd]), ih]
      simp [dropEndWhile, hd]

/-- The shortest front of a text that ends in a word. -/
theorem find?_inits_isSuffixOf (w t : Text) :
    t.inits.find? (w.isSuffixOf ·) = (through? w t).map Prod.fst := by
  induction t with
  | nil => cases w <;> simp [through?, List.isSuffixOf]
  | cons c t ih =>
    rw [through?]
    split
    · next h =>
      -- no shorter front has room for the word
      have htake : (c :: t).take w.length = w :=
        (List.prefix_iff_eq_take.1 (List.isPrefixOf_iff_prefix.1 h)).symm
      refine List.find?_eq_some_iff_getElem.2 ⟨by simp, w.length, ?_, ?_, fun j hj => ?_⟩
      · have := (List.isPrefixOf_iff_prefix.1 h).length_le
        rw [List.length_inits]
        omega
      · rw [List.getElem_inits, htake]
      · rw [List.getElem_inits, Bool.not_eq_true', Bool.eq_false_iff]
        intro hsuffix
        have hle := (List.isSuffixOf_iff_suffix.1 hsuffix).length_le
        rw [List.length_take] at hle
        omega
    · next h =>
      have hne : w ≠ [] := fun hw => h (by rw [hw]; rfl)
      have hlater : ∀ u ∈ t.inits, w.isSuffixOf (c :: u) = w.isSuffixOf u := by
        intro u hu
        rw [Bool.eq_iff_iff, List.isSuffixOf_iff_suffix, List.isSuffixOf_iff_suffix,
          List.suffix_cons_iff, or_iff_right]
        rintro rfl
        exact h (List.isPrefixOf_iff_prefix.2
          (List.cons_prefix_cons.2 ⟨rfl, (List.mem_inits _ _).1 hu⟩))
      rw [List.inits_cons, List.find?_cons_of_neg (by simpa [List.isSuffixOf] using hne),
        List.find?_map, Function.comp_def, List.find?_congr hlater, ih, Option.map_map, Option.map_map]
      rfl

/-- A name is refused in front of a character that opens none. -/
theorem fronts_name_eq_nil {c : Char} (h : isNameStart c = false) :
    name.fronts before (c :: t) = [] := by
  rw [fronts, List.filter_eq_nil_iff]
  intro u hu
  rw [List.mem_reverse, List.mem_inits] at hu
  rcases List.prefix_cons_iff.1 (hu.trans (List.takeWhile_prefix isWord)) with rfl | ⟨u, rfl, -⟩
  · simp
  · simpa using h

/-- What a piece takes is the front that a search tries first. -/
theorem take?_eq_head?_fronts (p : Piece) (before : Option Char) (t : Text) :
    p.take? before t = (p.fronts before t).head?.map fun u => (u, t.drop u.length) := by
  cases p with
  | word w =>
    rw [take?, fronts, List.head?_filter]
    split <;> simp [*]
  | oneOf ws => rw [take?, fronts, List.head?_filter]
  | maybe w =>
    rw [take?, fronts, List.head?_filter]
    split <;> simp [*]
  | run least p =>
    rw [take?, head?_fronts_run]
    split
    · rw [Option.map_some, drop_takeWhile]
    · rfl
  | runTo p c =>
    rw [take?, head?_fronts_runTo]
    split <;> rfl
  | through w =>
    rw [take?, fronts, List.head?_filter, find?_inits_isSuffixOf, Option.map_map]
    cases h : through? w t with
    | none => rfl
    | some taken =>
      have hsplit : taken.1 ++ taken.2 = t := append_through? h
      simp [← hsplit]
  | name =>
    cases t with
    | nil => rfl
    | cons c r =>
      by_cases hc : isNameStart c = true
      · have hrun : (c :: r).takeWhile isWord = c :: r.takeWhile isWord :=
          List.takeWhile_cons_of_pos (isWord_of_isNameStart hc)
        rw [fronts, hrun, head?_reverse_inits_of_pos (by simpa using hc)]
        simp [take?, hc, drop_takeWhile]
      · rw [fronts_name_eq_nil (by simpa using hc)]
        simp [take?, hc]
  | edge =>
    rw [take?, fronts]
    split <;> rfl
  | lineEnd =>
    rw [take?, fronts]
    split <;> rfl

end Piece

/-! ## Searches -/

namespace Pattern

/-- The ways to read a pattern at the front of a text, in the order in which a search tries them. -/
def readings : Pattern → Option Char → Text → List Match
  | [], _, t => [⟨[], t⟩]
  | p :: ps, before, t =>
    (p.fronts before t).flatMap fun u =>
      (readings ps (u.getLast?.or before) (t.drop u.length)).map fun m => ⟨u :: m.pieces, m.rest⟩

/-- The match that a search finds: it goes back to the last piece that can take another front where
    the pattern does not go on. -/
def search? (ps : Pattern) : Matcher := fun before t => (ps.readings before t).head?

/-- The rest `ps` of a pattern cannot be read in front of a character with `p`. -/
def Refuses (ps : Pattern) (p : Char → Bool) : Prop :=
  ∀ before c t, p c = true → ps.readings before (c :: t) = []

/-- The rest `ps` of a pattern cannot be read between two characters with `p`. -/
def RefusesInside (ps : Pattern) (p : Char → Bool) : Prop :=
  ∀ b c t, p b = true → p c = true → ps.readings (some b) (c :: t) = []

/-- After another front than the first one of the piece `p`, the rest `ps` cannot be read. -/
def Holds (p : Piece) (ps : Pattern) : Prop :=
  ∀ before t, ∀ u ∈ (p.fronts before t).tail,
    ps.readings (u.getLast?.or before) (t.drop u.length) = []

/-- No piece of the pattern but the last one can give back what it has taken. -/
inductive Firm : Pattern → Prop
  | nil : Firm []
  | single (p) : Firm [p]
  | cons {p ps} : Holds p ps → Firm ps → Firm (p :: ps)

variable {p : Char → Bool} {ps : Pattern}

/-- A search that cannot go back takes the front that the piece takes. -/
theorem search?_cons {q : Piece} (h : Holds q ps) (hps : ps.search? = ps.read?) :
    search? (q :: ps) = read? (q :: ps) := by
  funext before t
  have hfirst := q.take?_eq_head?_fronts before t
  have hdead := h before t
  rw [search?, readings, read?]
  cases hfronts : q.fronts before t with
  | nil =>
    rw [hfronts] at hfirst
    rw [hfirst]
    rfl
  | cons u us =>
    rw [hfronts] at hfirst hdead
    have hnil : us.flatMap (fun u => (ps.readings (u.getLast?.or before) (t.drop u.length)).map
        fun m => (⟨u :: m.pieces, m.rest⟩ : Match)) = [] := by
      rw [List.flatMap_eq_nil_iff]
      intro v hv
      rw [hdead v hv, List.map_nil]
    have hsearch := congrFun (congrFun hps (u.getLast?.or before)) (t.drop u.length)
    rw [search?] at hsearch
    rw [List.flatMap_cons, hnil, List.append_nil, List.head?_map, hsearch, hfirst]
    simp only [List.head?_cons, Option.map_some]
    cases ps.read? (u.getLast?.or before) (t.drop u.length) <;> rfl

/-- The last piece takes its first front. -/
theorem search?_singleton (q : Piece) : search? [q] = read? [q] := by
  funext before t
  have hfirst := q.take?_eq_head?_fronts before t
  rw [search?, readings, read?, hfirst]
  cases q.fronts before t <;> rfl

/-- **A search for a firm pattern finds what the pattern reads.** -/
theorem Firm.search?_eq_read? (h : Firm ps) : ps.search? = ps.read? := by
  induction h with
  | nil => rfl
  | single q => exact search?_singleton q
  | cons hq _ ih => exact search?_cons hq ih

/-! ## What is refused -/

theorem Refuses.inside (h : Refuses ps p) : RefusesInside ps p := fun b c t _ hc => h (some b) c t hc

theorem readings_eq_nil {q : Piece} {before : Option Char} {t : Text} (h : q.fronts before t = []) :
    readings (q :: ps) before t = [] := by
  rw [readings, h, List.flatMap_nil]

theorem isPrefixOf_cons_eq_false {w : Text} {c : Char} (hw : w.head?.any (fun d => !p d) = true)
    (hc : p c = true) (t : Text) : w.isPrefixOf (c :: t) = false := by
  cases w with
  | nil => exact absurd hw (by simp)
  | cons d w =>
    have hd : p d = false := by simpa using hw
    have hne : d ≠ c := by
      rintro rfl
      rw [hc] at hd
      exact absurd hd (by decide)
    rw [List.isPrefixOf_cons_cons, beq_false_of_ne hne]
    rfl

theorem refuses_oneOf {ws : List Text} (h : ∀ w ∈ ws, w.head?.any (fun d => !p d) = true) :
    Refuses (.oneOf ws :: ps) p := by
  intro before c t hc
  refine readings_eq_nil ?_
  rw [Piece.fronts, List.filter_eq_nil_iff]
  intro w hw
  rw [isPrefixOf_cons_eq_false (h w hw) hc]
  decide

theorem refuses_word {w : Text} (h : w.head?.any (fun d => !p d) = true) :
    Refuses (.word w :: ps) p := by
  intro before c t hc
  refine readings_eq_nil ?_
  rw [Piece.fronts, List.filter_cons_of_neg (by rw [isPrefixOf_cons_eq_false h hc]; decide)]
  rfl

/-- A run of other characters is empty, so that the pattern must go on behind it. -/
theorem refuses_run {least : Nat} {q : Char → Bool} (h : ∀ c, p c = true → q c = false)
    (hps : least = 0 → Refuses ps p) : Refuses (.run least q :: ps) p := by
  intro before c t hc
  have hempty : (c :: t).takeWhile q = [] := by simp [h c hc]
  rw [readings, Piece.fronts, hempty]
  cases least with
  | zero => simpa using hps rfl before c t hc
  | succ least => rfl

theorem refuses_name (h : ∀ c, p c = true → isNameStart c = false) : Refuses (.name :: ps) p :=
  fun _ c _ hc => readings_eq_nil (Piece.fronts_name_eq_nil (h c hc))

theorem refuses_lineEnd (h : p '\n' = false) : Refuses (.lineEnd :: ps) p := by
  intro before c t hc
  have hne : c ≠ '\n' := by
    rintro rfl
    rw [h] at hc
    exact absurd hc (by decide)
  exact readings_eq_nil (by simp [Piece.fronts, hne])

/-- Inside a run of word characters there is no edge. -/
theorem refusesInside_edge : RefusesInside (.edge :: ps) isWord := by
  intro b c t hb hc
  exact readings_eq_nil (by simp [Piece.fronts, hb, hc])

/-! ## What holds -/

theorem holds_word (w : Text) (ps : Pattern) : Holds (.word w) ps := by
  intro before t u hu
  rw [Piece.fronts] at hu
  cases hw : w.isPrefixOf t <;> simp [hw] at hu

theorem holds_edge (ps : Pattern) : Holds .edge ps := by
  intro before t u hu
  rw [Piece.fronts] at hu
  split at hu <;> simp at hu

/-- Of words that do not start each other, at most one can be taken. -/
theorem holds_oneOf {ws : List Text}
    (h : ws.Pairwise fun v w => v.isPrefixOf w = false ∧ w.isPrefixOf v = false) :
    Holds (.oneOf ws) ps := by
  intro before t u hu
  rw [Piece.fronts] at hu
  have hpairwise := h.filter (·.isPrefixOf t)
  cases hfronts : ws.filter (·.isPrefixOf t) with
  | nil => rw [hfronts] at hu; exact absurd hu List.not_mem_nil
  | cons v us =>
    rw [hfronts] at hu hpairwise
    have hmem : ∀ w ∈ v :: us, w <+: t := by
      intro w hw
      rw [← hfronts, List.mem_filter] at hw
      exact List.isPrefixOf_iff_prefix.1 hw.2
    obtain ⟨hvu, huv⟩ := (List.pairwise_cons.1 hpairwise).1 u hu
    rcases List.prefix_or_prefix_of_prefix (hmem v List.mem_cons_self)
      (hmem u (List.mem_cons_of_mem _ hu)) with hpre | hpre
    · rw [List.isPrefixOf_iff_prefix.2 hpre] at hvu
      exact absurd hvu (by decide)
    · rw [List.isPrefixOf_iff_prefix.2 hpre] at huv
      exact absurd huv (by decide)

/-- What may be left out is taken if the pattern does not go on in front of it. -/
theorem holds_maybe {d : Char} {w : Text} (h : Refuses ps (· == d)) : Holds (.maybe (d :: w)) ps := by
  intro before t u hu
  rw [Piece.fronts] at hu
  cases hw : (d :: w).isPrefixOf t with
  | false => simp [hw] at hu
  | true =>
    obtain rfl : u = [] := by simpa [hw] using hu
    obtain ⟨r, rfl⟩ := List.isPrefixOf_iff_prefix.1 hw
    exact h _ d _ (beq_self_eq_true d)

/-- A part of a run that is given back starts with a character of the run. -/
theorem of_mem_tail_fronts {q : Text → Bool} {t u : Text}
    (h : u ∈ ((t.takeWhile p).inits.reverse.filter q).tail) :
    q u = true ∧ (∀ b ∈ u, p b = true) ∧ ∃ c v, p c = true ∧ t.drop u.length = c :: v := by
  obtain ⟨hq, c, v, hrun⟩ := of_mem_tail_reverse_inits h
  have hall : ∀ b ∈ t.takeWhile p, p b = true := List.all_eq_true.1 List.all_takeWhile
  have ht : t = u ++ c :: (v ++ t.dropWhile p) := by
    conv => lhs; rw [← List.takeWhile_append_dropWhile (p := p) (l := t), hrun]
    simp
  rw [hrun] at hall
  refine ⟨hq, fun b hb => hall b (List.mem_append_left _ hb), c, v ++ t.dropWhile p,
    hall c (by simp), ?_⟩
  conv => lhs; rw [ht]
  simp

/-- **A run before what it cannot feed gives nothing back.** -/
theorem holds_run {least : Nat} (h : Refuses ps p) : Holds (.run least p) ps := by
  intro before t u hu
  obtain ⟨-, -, c, v, hc, hdrop⟩ := of_mem_tail_fronts hu
  rw [hdrop]
  exact h _ c v hc

/-- What is refused inside a run cannot be read behind a part of it that is kept. -/
theorem RefusesInside.readings_eq_nil {q : Text → Bool} {t u : Text} (h : RefusesInside ps p)
    (hq : ∀ u, q u = true → u ≠ []) (hu : u ∈ ((t.takeWhile p).inits.reverse.filter q).tail)
    (before : Option Char) : ps.readings (u.getLast?.or before) (t.drop u.length) = [] := by
  obtain ⟨hkept, hall, c, v, hc, hdrop⟩ := of_mem_tail_fronts hu
  obtain ⟨b, hb⟩ := Option.isSome_iff_exists.1 (List.getLast?_isSome.2 (hq u hkept))
  rw [hb, Option.some_or, hdrop]
  exact h b c v (hall b (List.mem_of_getLast? hb)) hc

/-- A run that keeps a character gives nothing back before what is refused inside of it. -/
theorem holds_run_of_pos {least : Nat} (hleast : 0 < least) (h : RefusesInside ps p) :
    Holds (.run least p) ps := by
  intro before t u hu
  refine h.readings_eq_nil (fun u hlength => ?_) hu before
  exact List.ne_nil_of_length_pos (Nat.lt_of_lt_of_le hleast (by simpa using hlength))

theorem holds_name (h : RefusesInside ps isWord) : Holds .name ps := by
  intro before t u hu
  refine h.readings_eq_nil (fun u hstart => ?_) hu before
  rintro rfl
  exact absurd hstart (by simp)

/-! ## The patterns of the library -/

open Pass Diagnostic

/-- White space before a word that starts with something else. -/
theorem holds_blanks_word {least : Nat} {w : Text} (h : w.head?.any (fun d => !isBlank d) = true) :
    Holds (.run least isBlank) (.word w :: ps) :=
  holds_run (refuses_word h)

theorem isBlank_of_isWord {c : Char} (h : isWord c = true) : isBlank c = false := by
  rw [Bool.eq_false_iff]
  intro hblank
  rw [isWord_of_isBlank hblank] at h
  exact absurd h (by decide)

theorem isNameStart_of_isBlank {c : Char} (h : isBlank c = true) : isNameStart c = false := by
  rw [Bool.eq_false_iff]
  intro hstart
  rw [isBlank_of_isWord (isWord_of_isNameStart hstart)] at h
  exact absurd h (by decide)

/-- White space before a name. -/
theorem holds_blanks_name {least : Nat} : Holds (.run least isBlank) (.name :: ps) :=
  holds_run (refuses_name fun _ => isNameStart_of_isBlank)

/-- A name before white space and a word that starts with a sign. -/
theorem holds_name_blanks {w : Text} (h : w.head?.any (fun d => !isWord d) = true) :
    Holds .name (.blanks :: .word w :: ps) :=
  holds_name (refuses_run (fun _ => isBlank_of_isWord) fun _ => refuses_word h).inside

/-- Digits before white space and a word that starts with a sign. -/
theorem holds_digits_blanks {w : Text} (h : w.head?.any (fun d => !d.isDigit) = true) :
    Holds .digits (.blanks :: .word w :: ps) :=
  holds_run (refuses_run (fun _ => isBlank_of_isDigit) fun _ => refuses_word h)

theorem firm_lineComment : Firm lineComment := .cons (holds_word _ _) (.single _)

theorem firm_blockComment : Firm blockComment := .cons (holds_word _ _) (.single _)

theorem firm_trailingPadding : Firm trailingPadding :=
  .cons (holds_run (refuses_lineEnd (by decide))) (.single _)

theorem firm_blankLinesPattern : Firm blankLinesPattern := .cons (holds_word _ _) (.single _)

theorem firm_deadBranchPattern : Firm deadBranchPattern :=
  .cons (holds_word _ _) <| .cons (holds_blanks_word (by decide)) <| .cons (holds_word _ _) <|
  .cons (holds_blanks_word (by decide)) <| .cons (holds_word _ _) <| .single _

theorem firm_stepPattern : Firm stepPattern :=
  .cons (holds_edge _) <| .cons (holds_name_blanks (by decide)) <|
  .cons (holds_blanks_word (by decide)) <| .cons (holds_word _ _) <| .cons holds_blanks_name <|
  .cons (holds_name (refuses_run (fun _ => isBlank_of_isWord) fun _ =>
    refuses_oneOf (by decide)).inside) <|
  .cons (holds_run (refuses_oneOf (by decide))) <| .cons (holds_oneOf (by decide)) <|
  .cons (holds_blanks_word (by decide)) <| .cons (holds_word _ _) <|
  .cons (holds_blanks_word (by decide)) <| .single _

theorem firm_countingLoopPattern : Firm countingLoopPattern :=
  .cons (holds_edge _) <| .cons (holds_word _ _) <| .cons (holds_blanks_word (by decide)) <|
  .cons (holds_word _ _) <| .cons (holds_run (refuses_word (by decide))) <|
  .cons (holds_word _ _) <| .cons (holds_blanks_word (by decide)) <| .cons (holds_word _ _) <|
  .cons holds_blanks_name <| .cons (holds_name (refuses_word (by decide)).inside) <| .single _

theorem firm_sumPattern : Firm sumPattern :=
  .cons (holds_digits_blanks (by decide)) <| .cons (holds_blanks_word (by decide)) <|
  .cons (holds_word _ _) <|
  .cons (holds_run (refuses_run (fun _ => isDigit_of_isBlank) fun h => absurd h (by decide))) <|
  .single _

theorem firm_wholeWord (s : String) : Firm (wholeWord s) :=
  .cons (holds_edge _) <| .cons (holds_word _ _) <| .single _

theorem firm_squareDefinition : Firm squareDefinition :=
  .cons (holds_word _ _) <| .cons (holds_blanks_word (by decide)) <| .cons (holds_word _ _) <|
  .cons (holds_blanks_word (by decide)) <| .cons (holds_word _ _) <|
  .cons (holds_blanks_word (by decide)) <| .cons (holds_word _ _) <|
  .cons (holds_run (refuses_run (fun _ => isWord_of_isBlank) fun h => absurd h (by decide))) <|
  .cons (holds_run (refuses_word (by decide))) <| .cons (holds_word _ _) <|
  .cons (holds_blanks_word (by decide)) <| .cons (holds_word _ _) <|
  .cons (holds_run (refuses_word (by decide))) <| .single _

theorem firm_squareCall : Firm squareCall :=
  .cons (holds_word _ _) <| .cons (holds_blanks_word (by decide)) <| .cons (holds_word _ _) <|
  .cons (holds_run (refuses_run (fun _ => isDigit_of_isBlank) fun h => absurd h (by decide))) <|
  .cons (holds_digits_blanks (by decide)) <| .cons (holds_blanks_word (by decide)) <| .single _

theorem firm_modifierPattern : Firm modifierPattern := .cons (holds_oneOf (by decide)) (.single _)

theorem firm_zeroPattern : Firm zeroPattern :=
  .cons (holds_oneOf (by decide)) <| .cons holds_blanks_name <|
  .cons (holds_name_blanks (by decide)) <| .cons (holds_blanks_word (by decide)) <|
  .cons (holds_word _ _) <| .cons (holds_blanks_word (by decide)) <| .cons (holds_word _ _) <|
  .cons (holds_maybe (refuses_run (fun c hc => by rw [beq_iff_eq.1 hc]; decide) fun _ =>
    refuses_word (by decide))) <|
  .cons (holds_blanks_word (by decide)) <| .single _

theorem firm_identifierPattern : Firm identifierPattern :=
  .cons (holds_edge _) <| .cons (holds_name refusesInside_edge) <| .single _

theorem firm_tokenPattern : Firm tokenPattern :=
  .cons (holds_edge _) <| .cons (holds_run_of_pos (by decide) refusesInside_edge) <| .single _

theorem firm_placePattern : Firm placePattern :=
  .cons (holds_run (refuses_word (by decide))) <| .cons (holds_word _ _) <|
  .cons (holds_run (refuses_word (by decide))) <| .single _

theorem firm_columnPattern : Firm columnPattern :=
  .cons (holds_run (refuses_word (by decide))) <| .single _

theorem firm_kindPattern : Firm kindPattern :=
  .cons (holds_run (refuses_oneOf (by decide))) <| .cons (holds_oneOf (by decide)) <| .single _

/-- The patterns of the passes, of the diagnostics and of the tokens. -/
def library : List Pattern :=
  [lineComment, blockComment, trailingPadding, blankLinesPattern, deadBranchPattern, stepPattern,
    countingLoopPattern, sumPattern, wholeWord "std::map", wholeWord "std::set", squareDefinition,
    squareCall, modifierPattern, zeroPattern, identifierPattern, placePattern, columnPattern,
    kindPattern, tokenPattern]

theorem firm_of_mem_library : ∀ ps ∈ library, Firm ps := by
  simp only [library, List.forall_mem_cons]
  exact ⟨firm_lineComment, firm_blockComment, firm_trailingPadding, firm_blankLinesPattern,
    firm_deadBranchPattern, firm_stepPattern, firm_countingLoopPattern, firm_sumPattern,
    firm_wholeWord _, firm_wholeWord _, firm_squareDefinition, firm_squareCall,
    firm_modifierPattern, firm_zeroPattern, firm_identifierPattern, firm_placePattern,
    firm_columnPattern, firm_kindPattern, firm_tokenPattern, List.forall_mem_nil _⟩

/-- **No pattern of the library has to be searched for**: giving back what a piece has taken finds
    nothing else. -/
theorem search?_eq_read?_of_mem_library : ∀ ps ∈ library, ps.search? = ps.read? :=
  fun ps hps => (firm_of_mem_library ps hps).search?_eq_read?

/-- A line cannot be read on without its column, where it has one. -/
theorem read?_kindPattern_of_columnPattern {before before' : Option Char} {t : Text} {m : Match}
    (h : columnPattern.read? before t = some m) : kindPattern.read? before' t = none := by
  have hrefuses : Refuses kindPattern isDecimal := by
    refine refuses_run (fun c hc => ?_) fun _ => refuses_oneOf (by decide)
    rw [Bool.eq_false_iff]
    intro hblank
    rw [isDecimal_of_isBlank hblank] at hc
    exact absurd hc (by decide)
  rw [← firm_kindPattern.search?_eq_read?, search?]
  cases t with
  | nil => exact absurd h (by simp [columnPattern, read?, Piece.take?])
  | cons c t =>
    by_cases hc : isDecimal c = true
    · rw [hrefuses before' c t hc]
      rfl
    · exact absurd h (by simp [columnPattern, read?, Piece.take?, hc])

end Pattern

end Retouch
