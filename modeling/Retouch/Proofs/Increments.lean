/-
  Steps of variables, and their short forms.

  A step such as `i = i + 1;` has one equals sign and ends with its only semicolon, in front of which
  stands a one or white space (`IsStep`).  A short form such as `i++;` ends with a sign and a
  semicolon, so that it is never the end of a step.  A step from one name to another is kept.  It
  starts with a whole name, so that no other step starts inside it.

  * `isolated_shortenSteps`: what is written for steps stands apart from all steps, but for the ones
    that are kept;
  * `stepFree_shortenSteps`: no step of a name is left.
-/
import Retouch.Pass.Increment
import Retouch.Proofs.Junctions

namespace Retouch.Pass

open Text

/-! ## Texts that end at a character -/

/-- The character `c` stands at the end of `w` and nowhere else. -/
def EndsAt (c : Char) (w : Text) : Prop := ∃ body, w = body ++ [c] ∧ c ∉ body

theorem EndsAt.of_append {c : Char} {x y : Text} (h : EndsAt c (x ++ y)) (hy : y ≠ []) :
    EndsAt c y := by
  obtain ⟨body, heq, hbody⟩ := h
  obtain ⟨y, d, rfl⟩ := List.eq_nil_or_concat y |>.resolve_left hy
  rw [List.concat_eq_append, ← List.append_assoc] at heq
  obtain ⟨rfl, hd⟩ := List.append_inj' heq rfl
  refine ⟨y, by rw [List.concat_eq_append, hd], fun hmem => hbody (List.mem_append_right x hmem)⟩

/-- Texts that end at their first `c` are found to be the same where both stand. -/
theorem EndsAt.eq_of_append_eq {c : Char} {u v x y : Text} (hu : EndsAt c u) (hv : EndsAt c v)
    (h : u ++ x = v ++ y) : u = v := by
  obtain ⟨p, rfl, hp⟩ := hu
  obtain ⟨q, rfl, hq⟩ := hv
  have htake : ∀ {p : Text} (x : Text), c ∉ p → (p ++ [c] ++ x).takeWhile (· != c) = p := by
    intro p x hp
    rw [List.append_assoc]
    refine takeWhile_append_of_head? (fun d hd => ?_) (by simp)
    rw [bne_iff_ne]
    rintro rfl
    exact hp hd
  rw [← htake x hp, h, htake y hq]

/-! ## The parts of a step -/

/-- The texts of the pieces of a step. -/
structure StepParts (m : Match) where
  name : Text
  other : Text
  sign : Char
  (blanks₁ blanks₂ blanks₃ blanks₄ blanks₅ : Text)
  pieces_eq : m.pieces = [[], name, blanks₁, ['='], blanks₂, other, blanks₃, [sign], blanks₄, ['1'],
    blanks₅, [';']]
  takes_name : Piece.name.Takes name
  takes_other : Piece.name.Takes other
  sign_eq : sign = '+' ∨ sign = '-'
  isBlank₁ : ∀ c ∈ blanks₁, isBlank c = true
  isBlank₂ : ∀ c ∈ blanks₂, isBlank c = true
  isBlank₃ : ∀ c ∈ blanks₃, isBlank c = true
  isBlank₄ : ∀ c ∈ blanks₄, isBlank c = true
  isBlank₅ : ∀ c ∈ blanks₅, isBlank c = true

theorem nonempty_stepParts {before : Option Char} {t : Text} {m : Match}
    (h : stepPattern.read? before t = some m) : Nonempty (StepParts m) := by
  have hall := Pattern.forall₂_takes h
  simp only [stepPattern, Piece.lit, Piece.blanks, List.forall₂_cons_left_iff,
    List.forall₂_nil_left_iff, Piece.takes_word_iff, Piece.takes_run_iff] at hall
  obtain ⟨_, _, hedge, ⟨name, _, hname, ⟨b₁, _, ⟨-, hb₁⟩, ⟨_, _, rfl, ⟨b₂, _, ⟨-, hb₂⟩,
    ⟨other, _, hother, ⟨b₃, _, ⟨-, hb₃⟩, ⟨sign, _, hsign, ⟨b₄, _, ⟨-, hb₄⟩, ⟨_, _, rfl,
    ⟨b₅, _, ⟨-, hb₅⟩, ⟨_, _, rfl, rfl, rfl⟩, rfl⟩, rfl⟩, rfl⟩, rfl⟩, rfl⟩, rfl⟩, rfl⟩, rfl⟩, rfl⟩,
    rfl⟩, hm⟩ := hall
  obtain rfl := Piece.eq_nil_of_takes_edge hedge
  have hsign' : sign = ['+'] ∨ sign = ['-'] := by simpa using Piece.mem_of_takes_oneOf hsign
  rcases hsign' with rfl | rfl
  · exact ⟨name, other, '+', b₁, b₂, b₃, b₄, b₅, hm, hname, hother, .inl rfl, hb₁, hb₂, hb₃, hb₄, hb₅⟩
  · exact ⟨name, other, '-', b₁, b₂, b₃, b₄, b₅, hm, hname, hother, .inr rfl, hb₁, hb₂, hb₃, hb₄, hb₅⟩

namespace StepParts

variable {m : Match} (p : StepParts m) {c : Char}

/-- What is assigned. -/
def value : Text := p.blanks₂ ++ p.other ++ p.blanks₃ ++ [p.sign] ++ p.blanks₄ ++ ['1']

theorem text_eq : m.text = p.name ++ p.blanks₁ ++ '=' :: (p.value ++ p.blanks₅ ++ [';']) := by
  simp [Match.text, p.pieces_eq, value]

theorem not_mem_front (hword : isWord c = false) (hblank : isBlank c = false) :
    c ∉ p.name ++ p.blanks₁ := by
  rw [List.mem_append, not_or]
  exact ⟨Piece.not_mem_of_takes_name p.takes_name hword, not_mem_of_isBlank p.isBlank₁ hblank⟩

theorem not_mem_value (hword : isWord c = false) (hblank : isBlank c = false) (hplus : c ≠ '+')
    (hminus : c ≠ '-') : c ∉ p.value ++ p.blanks₅ := by
  have hsign : c ≠ p.sign := by
    rcases p.sign_eq with heq | heq
    · rwa [heq]
    · rwa [heq]
  have hone : c ≠ '1' := by
    rintro rfl
    exact absurd hword (by decide)
  simp only [value, List.mem_append, List.mem_singleton, not_or]
  exact ⟨⟨⟨⟨⟨⟨not_mem_of_isBlank p.isBlank₂ hblank,
    Piece.not_mem_of_takes_name p.takes_other hword⟩, not_mem_of_isBlank p.isBlank₃ hblank⟩, hsign⟩,
    not_mem_of_isBlank p.isBlank₄ hblank⟩, hone⟩, not_mem_of_isBlank p.isBlank₅ hblank⟩

/-- A step ends with its only semicolon. -/
theorem endsAt (p : StepParts m) : EndsAt ';' m.text := by
  refine ⟨p.name ++ p.blanks₁ ++ '=' :: (p.value ++ p.blanks₅), ?_, ?_⟩
  · rw [p.text_eq]
    simp
  · rw [List.mem_append, not_or]
    refine ⟨p.not_mem_front (by decide) (by decide), ?_⟩
    rw [List.mem_cons, not_or]
    exact ⟨by decide, p.not_mem_value (by decide) (by decide) (by decide) (by decide)⟩

/-- In front of the semicolon stands a one or white space. -/
theorem exists_back (p : StepParts m) : ∃ body k, m.text = body ++ [k, ';'] ∧ k ≠ '+' ∧ k ≠ '-' := by
  have htext := p.text_eq
  rcases List.eq_nil_or_concat p.blanks₅ with hnil | ⟨b, k, hb⟩
  · refine ⟨p.name ++ p.blanks₁ ++ '=' ::
      (p.blanks₂ ++ p.other ++ p.blanks₃ ++ [p.sign] ++ p.blanks₄), '1', ?_, by decide, by decide⟩
    rw [htext, hnil, value]
    simp
  · have hk : isBlank k = true := p.isBlank₅ k (by rw [hb]; simp)
    refine ⟨p.name ++ p.blanks₁ ++ '=' :: (p.value ++ b), k, ?_, ?_, ?_⟩
    · rw [htext, hb]
      simp
    · rintro rfl
      exact absurd hk (by decide)
    · rintro rfl
      exact absurd hk (by decide)

end StepParts

/-- How a step is written: a name up to the only equals sign, and a one or white space in front of the
    semicolon at its end. -/
structure IsStep (m : Match) : Prop where
  front : ∃ c w b tail, m.text = c :: (w ++ b) ++ '=' :: tail ∧ m.piece 1 = c :: w ∧
    isNameStart c = true ∧ (∀ d ∈ w, isWord d = true) ∧ (∀ d ∈ b, isBlank d = true) ∧ '=' ∉ tail
  back : ∃ body k, m.text = body ++ [k, ';'] ∧ k ≠ '+' ∧ k ≠ '-'
  endsAt : EndsAt ';' m.text
  sign : m.piece 7 = ['+'] ∨ m.piece 7 = ['-']

theorem isStep_of_stepPattern {before : Option Char} {t : Text} {m : Match}
    (h : stepPattern.read? before t = some m) : IsStep m := by
  obtain ⟨p⟩ := nonempty_stepParts h
  refine ⟨?_, p.exists_back, p.endsAt, ?_⟩
  · obtain ⟨c, w, hname, hc, hw⟩ := Piece.exists_of_takes_name p.takes_name
    refine ⟨c, w, p.blanks₁, p.value ++ p.blanks₅ ++ [';'], ?_, ?_, hc, hw, p.isBlank₁, ?_⟩
    · rw [p.text_eq, hname]
      simp
    · rw [Match.piece, p.pieces_eq, ← hname]
      rfl
    · rw [List.mem_append, not_or]
      exact ⟨p.not_mem_value (by decide) (by decide) (by decide) (by decide), by decide⟩
  · rw [Match.piece, p.pieces_eq]
    rcases p.sign_eq with heq | heq
    · exact .inl (by rw [heq]; rfl)
    · exact .inr (by rw [heq]; rfl)

theorem before_of_stepPattern {before : Option Char} {t : Text} {m : Match}
    (h : stepPattern.read? before t = some m) : before.any isWord = false := by
  obtain ⟨c, w, b, tail, htext, -, hc, -, -, -⟩ := (isStep_of_stepPattern h).front
  have hsplit := Pattern.append_read? h
  rw [stepPattern, Pattern.read?_edge] at h
  split at h
  · exact absurd h (by simp)
  · next hne =>
    have hhead : t.head?.any isWord = true := by
      rw [← hsplit, htext]
      simpa using isWord_of_isNameStart hc
    rw [hhead] at hne
    simpa using hne

theorem isNear_stepPattern : ∀ p ∈ stepPattern.dropLast, p.IsNear := by
  simp [stepPattern, Piece.IsNear, Piece.lit, Piece.blanks]

theorem isWordwise_stepPattern : Matcher.IsWordwise stepPattern.read? :=
  Matcher.isWordwise_of_word stepPattern.dropLast (w := [';']) isNear_stepPattern (by decide)

/-- A step is read in the same way whatever follows it. -/
theorem read?_stepPattern_text_append {before : Option Char} {t : Text} {m : Match}
    (h : stepPattern.read? before t = some m) (rest : Text) :
    stepPattern.read? before (m.text ++ rest) = some ⟨m.pieces, rest⟩ :=
  Pattern.read?_text_append_of_word stepPattern.dropLast isNear_stepPattern
    (List.cons_ne_nil ';' []) h rest

/-- A step starts with a whole name, so that the end of a step is none. -/
theorem IsStep.not_append {m m' : Match} (h : IsStep m) (h' : IsStep m') {x : Text}
    (hlast : x.getLast?.any isWord = false) (hx : x ≠ []) : m.text ≠ x ++ m'.text := by
  intro heq
  obtain ⟨c, w, b, tail, htext, -, hc, hw, hb, htail⟩ := h.front
  obtain ⟨c', w', b', tail', htext', -, hc', -, -, -⟩ := h'.front
  obtain ⟨x, k, rfl⟩ := List.eq_nil_or_concat x |>.resolve_left hx
  have hname : ∀ d ∈ c :: w, isWord d = true := List.forall_mem_cons.2 ⟨isWord_of_isNameStart hc, hw⟩
  have hequals : '=' ∉ c :: (w ++ b) := by
    rw [← List.cons_append, List.mem_append, not_or]
    exact ⟨fun hmem => absurd (hname _ hmem) (by decide), not_mem_of_isBlank hb (by decide)⟩
  have hsplit : (c :: (w ++ b)) ++ '=' :: tail = (x ++ k :: c' :: (w' ++ b')) ++ '=' :: tail' := by
    rw [← htext, heq, htext']
    simp
  have hstart : (c :: w) ++ b = x ++ k :: c' :: (w' ++ b') :=
    ((List.append_cons_inj_of_notMem hequals htail).1 hsplit).1
  have hblank : c' ∉ b := fun hmem => by
    have hword := isWord_of_isBlank (hb c' hmem)
    rw [isWord_of_isNameStart hc'] at hword
    exact absurd hword (by decide)
  rcases List.append_eq_append_iff.1 hstart with ⟨x₁, -, rfl⟩ | ⟨y₁, hy₁, hrest⟩
  · exact hblank (by simp)
  · cases y₁ with
    | nil =>
      rw [List.nil_append] at hrest
      exact hblank (by rw [← hrest]; simp)
    | cons d y₁ =>
      obtain rfl := (List.cons.inj hrest).1
      have hword := hname k (by rw [hy₁]; simp)
      simp [hword] at hlast

/-! ## Short forms -/

/-- A step stays, or becomes its short form. -/
theorem shortenStep_cases {m : Match} (h : IsStep m) :
    (m.piece 1 ≠ m.piece 5 ∧ shortenStep m = m.text) ∨
      ∃ c w s, shortenStep m = c :: w ++ [s, s, ';'] ∧ m.text.head? = some c ∧
        (∀ d ∈ c :: w, isWord d = true) ∧ (s = '+' ∨ s = '-') := by
  rw [shortenStep]
  split
  · right
    obtain ⟨c, w, b, tail, htext, hname, hc, hw, -, -⟩ := h.front
    have hall : ∀ d ∈ c :: w, isWord d = true :=
      List.forall_mem_cons.2 ⟨isWord_of_isNameStart hc, hw⟩
    have hhead : m.text.head? = some c := by
      rw [htext]
      rfl
    rcases h.sign with hs | hs
    · exact ⟨c, w, '+', by simp [hname, hs], hhead, hall, .inl rfl⟩
    · exact ⟨c, w, '-', by simp [hname, hs], hhead, hall, .inr rfl⟩
  · next hne => exact .inl ⟨hne, rfl⟩

theorem endsAt_shortenStep {m : Match} (h : IsStep m) : EndsAt ';' (shortenStep m) := by
  rcases shortenStep_cases h with ⟨-, heq⟩ | ⟨c, w, s, heq, -, hw, hs⟩
  · rw [heq]
    exact h.endsAt
  · refine ⟨c :: w ++ [s, s], by rw [heq]; simp, ?_⟩
    rw [List.mem_append, not_or]
    refine ⟨fun hmem => absurd (hw _ hmem) (by decide), ?_⟩
    rcases hs with rfl | rfl <;> decide

/-- No step ends like a short form. -/
theorem IsStep.append_text_ne {m : Match} (h : IsStep m) {s : Char} (hs : s = '+' ∨ s = '-')
    (x u : Text) : x ++ m.text ≠ u ++ [s, ';'] := by
  intro heq
  obtain ⟨body, k, htext, hplus, hminus⟩ := h.back
  rw [htext, ← List.append_assoc] at heq
  obtain ⟨-, hk⟩ := List.append_inj' heq rfl
  obtain rfl := (List.cons.inj hk).1
  rcases hs with rfl | rfl
  · exact hplus rfl
  · exact hminus rfl

theorem isolated_shortenSteps :
    Matcher.Isolated stepPattern.read? shortenStep stepPattern.read?
      fun m => m.piece 1 ≠ m.piece 5 where
  ne_nil h := by
    obtain ⟨body, heq, -⟩ := endsAt_shortenStep (isStep_of_stepPattern h)
    simp [heq]
  head_eq h := by
    rcases shortenStep_cases (isStep_of_stepPattern h) with ⟨-, heq⟩ | ⟨c, w, s, heq, hhead, -, -⟩
    · rw [heq]
    · rw [heq, hhead]
      rfl
  getLast_eq {before t m} h := by
    have hstep := isStep_of_stepPattern h
    obtain ⟨body, heq, -⟩ := hstep.endsAt
    obtain ⟨body', heq', -⟩ := endsAt_shortenStep hstep
    simp [heq, heq']
  front {before t s₁ m m' x y u v} h hxy hx hy h' heq := by
    have hstep := isStep_of_stepPattern h
    have hstep' := isStep_of_stepPattern h'
    obtain rfl : shortenStep m' = y :=
      (endsAt_shortenStep hstep').eq_of_append_eq ((hxy ▸ hstep.endsAt).of_append hy) heq
    rcases shortenStep_cases hstep' with ⟨-, hkept⟩ | ⟨c, w, s, hshort, -, -, hs⟩
    · rw [hkept] at hxy
      exact hstep.not_append hstep' (before_of_stepPattern h') hx hxy
    · refine hstep.append_text_ne hs [] (x ++ (c :: w ++ [s])) ?_
      rw [hxy, hshort]
      simp
  inner {before t m m' x y u} h' hxy hy h := by
    have hstep := isStep_of_stepPattern h
    have hstep' := isStep_of_stepPattern h'
    obtain rfl : m.text = y :=
      hstep.endsAt.eq_of_append_eq ((hxy ▸ endsAt_shortenStep hstep').of_append hy)
        (Pattern.append_read? h)
    rcases shortenStep_cases hstep' with ⟨hne, hkept⟩ | ⟨c, w, s, hshort, -, -, hs⟩
    · by_cases hx : x = []
      · -- the match that stayed is found again
        subst hx
        rw [hkept, List.nil_append] at hxy
        have hagain := read?_stepPattern_text_append h' u
        rw [hxy] at hagain
        obtain rfl := Option.some.inj (h.symm.trans hagain)
        exact hne
      · have hlast := before_of_stepPattern h
        rw [List.getLast?_eq_some_getLast hx, Option.some_or,
          ← List.getLast?_eq_some_getLast hx] at hlast
        exact absurd (hkept.symm.trans hxy) (hstep'.not_append hstep hlast hx)
    · refine absurd ?_ (hstep.append_text_ne hs x (c :: w ++ [s]))
      rw [← hxy, hshort]
      simp

/-- No name is assigned itself plus or minus one. -/
def StepFree (t : Text) : Prop :=
  ∀ a b m, t = a ++ b → stepPattern.read? a.getLast? b = some m → m.piece 1 ≠ m.piece 5

/-- **All steps go**, but for those from one name to another. -/
theorem stepFree_shortenSteps (t : Text) : StepFree (shortenSteps t) :=
  fun _ _ _ hab hm => isolated_shortenSteps.ok_of_replaceAll isWordwise_stepPattern hab hm

theorem shortenSteps_eq_self {t : Text} (h : StepFree t) : shortenSteps t = t :=
  Matcher.replaceAll_eq_self isWordwise_stepPattern fun a b m hab hm => if_neg (h a b m hab hm)

end Retouch.Pass
