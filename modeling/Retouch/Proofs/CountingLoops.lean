/-
  Counting loops, and the heads that are written for them.

  A counting loop has one opening parenthesis, with nothing but the keyword `while` and white space in
  front of it, and ends with a semicolon (`IsLoop`).  Its new head has one opening parenthesis too,
  but after `for`, and ends with a brace.  So neither can run into the other.

  * `isolated_moveSteps`: the new heads stand apart from all counting loops;
  * `loopFree_moveSteps`: no counting loop is left.
-/
import Retouch.Pass.CountingLoop
import Retouch.Proofs.Junctions

namespace Retouch.Pass

open Text

/-- How a match of a counting loop is written: one opening parenthesis, with only white space between
    it and the keyword, and a semicolon at the end. -/
structure IsLoop (m : Match) : Prop where
  exists_parts : ∃ b tail, m.text = ['w', 'h', 'i', 'l', 'e'] ++ b ++ '(' :: tail ∧
    (∀ c ∈ b, isBlank c = true) ∧ '(' ∉ tail
  getLast_eq : m.text.getLast? = some ';'
  condition : '(' ∉ m.piece 4
  name : '(' ∉ m.piece 9

theorem isLoop_of_countingLoopPattern {before : Option Char} {t : Text} {m : Match}
    (h : countingLoopPattern.read? before t = some m) : IsLoop m := by
  have hall := Pattern.forall₂_takes h
  simp only [countingLoopPattern, Piece.lit, Piece.blanks, List.forall₂_cons_left_iff,
    List.forall₂_nil_left_iff, Piece.takes_word_iff, Piece.takes_run_iff] at hall
  obtain ⟨_, _, hedge, ⟨_, _, rfl, ⟨b₁, _, ⟨-, hb₁⟩, ⟨_, _, rfl, ⟨cond, _, ⟨-, hcond⟩, ⟨_, _, rfl,
    ⟨b₂, _, ⟨-, hb₂⟩, ⟨_, _, rfl, ⟨b₃, _, ⟨-, hb₃⟩, ⟨v, _, hname, ⟨_, _, rfl, rfl, rfl⟩, rfl⟩, rfl⟩,
    rfl⟩, rfl⟩, rfl⟩, rfl⟩, rfl⟩, rfl⟩, rfl⟩, hm⟩ := hall
  obtain rfl := Piece.eq_nil_of_takes_edge hedge
  have hparen : '(' ∉ v := Piece.not_mem_of_takes_name hname (by decide)
  have hcond' : '(' ∉ cond := by
    intro hmem
    exact absurd (hcond _ hmem) (by decide)
  constructor
  · refine ⟨b₁, cond ++ (")".toList ++ (b₂ ++ ("\x7b".toList ++ (b₃ ++ (v ++ "++;".toList))))),
      by simp [Match.text, hm], hb₁, ?_⟩
    simp only [List.mem_append, not_or]
    exact ⟨hcond', by decide, not_mem_of_isBlank hb₂ (by decide), by decide,
      not_mem_of_isBlank hb₃ (by decide), hparen, by decide⟩
  · simp [Match.text, hm, List.getLast?_cons]
  · simpa [Match.piece, hm] using hcond'
  · simpa [Match.piece, hm] using hparen

theorem isWordwise_countingLoopPattern : Matcher.IsWordwise countingLoopPattern.read? :=
  Matcher.isWordwise_of_word countingLoopPattern.dropLast (w := "++;".toList)
    (by simp [countingLoopPattern, Piece.IsNear, Piece.lit, Piece.blanks]) (by decide)

/-- The new head of a loop has one opening parenthesis, after the keyword. -/
theorem exists_countingLoopHead {m : Match} (h : IsLoop m) :
    ∃ tail, countingLoopHead m = ['f', 'o', 'r', ' ', '('] ++ tail ∧ '(' ∉ tail ∧
      tail.getLast? = some '\x7b' := by
  have hhead : countingLoopHead m = ['f', 'o', 'r', ' ', '(', ';', ' '] ++ m.piece 4 ++ [';', ' '] ++
      m.piece 9 ++ ['+', '+', ')', ' ', '\x7b'] := rfl
  refine ⟨[';', ' '] ++ m.piece 4 ++ [';', ' '] ++ m.piece 9 ++ ['+', '+', ')', ' ', '\x7b'],
    ?_, ?_, ?_⟩
  · rw [hhead]
    simp
  · simp [h.condition, h.name]
  · rw [List.getLast?_append]
    rfl

/-- A loop that has started does not go on into a new head. -/
theorem IsLoop.append_ne {m m' : Match} (h : IsLoop m) (h' : IsLoop m') {x y : Text}
    (hxy : m.text = x ++ y) (hy : y ≠ []) (u v : Text) : countingLoopHead m' ++ u ≠ y ++ v := by
  intro heq
  obtain ⟨b, tail, htext, hb, htail⟩ := h.exists_parts
  obtain ⟨tail', htext', -, -⟩ := exists_countingLoopHead h'
  rw [htext', List.append_assoc] at heq
  rcases List.append_eq_append_iff.1 heq with ⟨y', rfl, -⟩ | ⟨y', hfor, -⟩
  · -- the parenthesis would have another keyword in front
    have hwhile : '(' ∉ ['w', 'h', 'i', 'l', 'e'] ++ b := by
      rw [List.mem_append, not_or]
      exact ⟨by decide, not_mem_of_isBlank hb (by decide)⟩
    have hsplit : ['w', 'h', 'i', 'l', 'e'] ++ b ++ '(' :: tail =
        x ++ ['f', 'o', 'r', ' '] ++ '(' :: y' := by
      rw [← htext, hxy]
      simp
    have hsame := ((List.append_cons_inj_of_notMem hwhile htail).1 hsplit).1
    have hmem : 'f' ∈ ['w', 'h', 'i', 'l', 'e'] ++ b := by
      rw [hsame]
      simp
    rw [List.mem_append] at hmem
    rcases hmem with hmem | hmem
    · exact absurd hmem (by decide)
    · exact not_mem_of_isBlank hb (by decide) hmem
  · -- the loop would end in the keyword
    have hlast : y.getLast? = some ';' := by
      rw [← h.getLast_eq, hxy, List.getLast?_append, List.getLast?_eq_some_getLast hy]
      rfl
    have hmem : ';' ∈ ['f', 'o', 'r', ' ', '('] := by
      rw [hfor]
      exact List.mem_append_left y' (List.mem_of_getLast? hlast)
    exact absurd hmem (by decide)

/-- A text without a parenthesis does not start a loop if it ends with a brace. -/
theorem IsLoop.append_ne_of_brace {m : Match} (h : IsLoop m) {y : Text} (hparen : '(' ∉ y)
    (hlast : y.getLast? = some '\x7b') (u v : Text) : m.text ++ v ≠ y ++ u := by
  intro heq
  obtain ⟨b, tail, htext, hb, -⟩ := h.exists_parts
  have hbrace : '\x7b' ∉ ['w', 'h', 'i', 'l', 'e'] ++ b := by
    rw [List.mem_append, not_or]
    exact ⟨by decide, not_mem_of_isBlank hb (by decide)⟩
  rw [htext, List.append_assoc] at heq
  rcases List.append_eq_append_iff.1 heq with ⟨y₁, rfl, hy₁⟩ | ⟨y₁, hy₁, -⟩
  · cases y₁ with
    | nil =>
      rw [List.append_nil] at hlast
      exact hbrace (List.mem_of_getLast? hlast)
    | cons d y₁ =>
      obtain rfl := (List.cons.inj hy₁).1
      exact hparen (by simp)
  · rw [hy₁] at hbrace
    exact hbrace (List.mem_append_left y₁ (List.mem_of_getLast? hlast))

/-- No loop starts inside a new head. -/
theorem IsLoop.append_ne_of_head {m m' : Match} (h : IsLoop m) (h' : IsLoop m') {x y : Text}
    (hxy : countingLoopHead m' = x ++ y) (hy : y ≠ []) (u v : Text) : m.text ++ v ≠ y ++ u := by
  obtain ⟨tail, htext, hparen, hlast⟩ := exists_countingLoopHead h'
  rw [htext] at hxy
  rcases List.append_eq_append_iff.1 hxy with ⟨x', rfl, rfl⟩ | ⟨y', hfor, rfl⟩
  · rw [List.getLast?_append, List.getLast?_eq_some_getLast hy] at hlast
    refine h.append_ne_of_brace (fun hmem => hparen (List.mem_append_right x' hmem)) ?_ u v
    rwa [List.getLast?_eq_some_getLast hy]
  · cases y' with
    | nil => exact h.append_ne_of_brace hparen hlast u v
    | cons d y' =>
      intro heq
      obtain ⟨b, tail, htext, -, -⟩ := h.exists_parts
      rw [htext] at heq
      obtain rfl := (List.cons.inj heq).1
      have hmem : 'w' ∈ ['f', 'o', 'r', ' ', '('] := by
        rw [hfor]
        simp
      exact absurd hmem (by decide)

theorem isolated_moveSteps :
    Matcher.Isolated countingLoopPattern.read? countingLoopHead countingLoopPattern.read?
      fun _ => False where
  ne_nil h := by
    obtain ⟨tail, htext, -, -⟩ := exists_countingLoopHead (isLoop_of_countingLoopPattern h)
    rw [htext]
    exact List.append_ne_nil_of_left_ne_nil (by decide) tail
  head_eq h := by
    have hloop := isLoop_of_countingLoopPattern h
    obtain ⟨b, tail, htext, -, -⟩ := hloop.exists_parts
    obtain ⟨tail', htext', -, -⟩ := exists_countingLoopHead hloop
    have hf : isWord 'f' = true := by decide
    have hw : isWord 'w' = true := by decide
    simp [htext, htext', hf, hw]
  getLast_eq h := by
    have hloop := isLoop_of_countingLoopPattern h
    obtain ⟨tail, htext, -, hlast⟩ := exists_countingLoopHead hloop
    rw [htext, List.getLast?_append, hlast, hloop.getLast_eq]
    decide
  front h hxy _ hy h' :=
    (isLoop_of_countingLoopPattern h).append_ne (isLoop_of_countingLoopPattern h') hxy hy _ _
  inner h' hxy hy h :=
    (isLoop_of_countingLoopPattern h).append_ne_of_head (isLoop_of_countingLoopPattern h') hxy hy _ _
      (Pattern.append_read? h)

/-- No counting loop stands in the text. -/
def LoopFree (t : Text) : Prop := Matcher.Lacks countingLoopPattern.read? t

/-- **All counting loops go.** -/
theorem loopFree_moveSteps (t : Text) : LoopFree (moveSteps t) :=
  isolated_moveSteps.lacks_replaceAll isWordwise_countingLoopPattern t

theorem moveSteps_eq_self {t : Text} (h : LoopFree t) : moveSteps t = t :=
  Matcher.Lacks.replaceAll_eq_self h isWordwise_countingLoopPattern countingLoopHead

end Retouch.Pass
