/-
  Balanced braces, along the canonical passes.

  `depth?` counts how many braces are open, and stops at one that closes nothing.  A text is balanced
  if the count goes through from zero to zero (`balanced_iff`).  A part that leaves every count as it
  is, such as a block without a block inside, may be dropped anywhere (`Neutral`).

  * `depth?_replaceAll`: a scan keeps every count if each replacement counts as its match does;
  * `neutral_of_deadBranch`, `neutral_of_squareDefinition`: a block that is dropped is neutral if it
    has one opening brace only;
  * `balanced_stages`: so the canonical passes keep the braces balanced, unless they drop a block with
    a second opening brace.
-/
import Retouch.Proofs.Junctions
import Retouch.Proofs.SquareCalls
import Retouch.Proofs.Sums

namespace Retouch

namespace Text

/-! ## Counting -/

/-- The number of open braces after a character, if `n` are open before it. -/
def brace? (n : Nat) (c : Char) : Option Nat :=
  if c = '{' then some (n + 1)
  else if c = '}' then if n = 0 then none else some (n - 1)
  else some n

/-- The number of open braces after a text, if `n` are open before it. -/
def depth? (n : Nat) (t : Text) : Option Nat := t.foldlM brace? n

/-- No front of the text closes more braces than it opens, and the text closes as many. -/
structure Balanced (t : Text) : Prop where
  count_le : ∀ u, u <+: t → u.count '}' ≤ u.count '{'
  count_eq : t.count '{' = t.count '}'

/-- A text that does not change the number of open braces, and closes none that it has not opened. -/
def Neutral (u : Text) : Prop := ∀ n, depth? n u = some n

section Depth

variable {n : Nat} {t u v : Text}

theorem depth?_nil (n : Nat) : depth? n [] = some n := rfl

theorem depth?_open (n : Nat) (t : Text) : depth? n ('{' :: t) = depth? (n + 1) t := rfl

theorem depth?_close_zero (t : Text) : depth? 0 ('}' :: t) = none := rfl

theorem depth?_close (n : Nat) (t : Text) : depth? (n + 1) ('}' :: t) = depth? n t := rfl

theorem depth?_other {c : Char} (ho : c ≠ '{') (hc : c ≠ '}') (n : Nat) (t : Text) :
    depth? n (c :: t) = depth? n t := by
  have hstep : brace? n c = some n := by
    rw [brace?, if_neg ho, if_neg hc]
  rw [depth?, List.foldlM_cons, hstep]
  rfl

theorem depth?_append (n : Nat) (u v : Text) :
    depth? n (u ++ v) = (depth? n u).bind fun k => depth? k v := List.foldlM_append

/-- What the counter finds, in terms of numbers of braces. -/
theorem depth?_eq_some_iff {k : Nat} :
    depth? n t = some k ↔
      (∀ u, u <+: t → u.count '}' ≤ n + u.count '{') ∧ n + t.count '{' = k + t.count '}' := by
  induction t generalizing n with
  | nil =>
    rw [depth?_nil]
    simp
  | cons c t ih =>
    have hfront : (∀ u, u <+: c :: t → u.count '}' ≤ n + u.count '{') ↔
        ∀ u, u <+: t → (c :: u).count '}' ≤ n + (c :: u).count '{' := by
      constructor
      · intro h u hu
        exact h (c :: u) (List.cons_prefix_cons.2 ⟨rfl, hu⟩)
      · intro h u hu
        rcases List.prefix_cons_iff.1 hu with rfl | ⟨v, rfl, hv⟩
        · simp
        · exact h v hv
    rw [hfront]
    by_cases ho : c = '{'
    · subst ho
      rw [depth?_open, ih]
      simp only [List.count_cons]
      grind
    · by_cases hc : c = '}'
      · subst hc
        cases n with
        | zero =>
          -- the brace alone is a front that closes too much
          have hbad : ¬ ∀ u, u <+: t → ('}' :: u).count '}' ≤ 0 + ('}' :: u).count '{' := by
            intro h
            exact absurd (h [] List.nil_prefix) (by decide)
          rw [depth?_close_zero]
          exact ⟨fun h => absurd h (by simp), fun h => absurd h.1 hbad⟩
        | succ n =>
          rw [depth?_close, ih]
          simp only [List.count_cons]
          grind
      · rw [depth?_other ho hc, ih]
        simp only [List.count_cons, beq_iff_eq, ho, hc]
        grind

theorem balanced_iff : Balanced t ↔ depth? 0 t = some 0 := by
  rw [depth?_eq_some_iff]
  constructor
  · intro h
    exact ⟨by simpa using h.count_le, by simpa using h.count_eq⟩
  · rintro ⟨hle, heq⟩
    exact ⟨by simpa using hle, by simpa using heq⟩

instance : Decidable (Balanced t) := decidable_of_iff _ balanced_iff.symm

theorem Balanced.congr (h : Balanced t) (hu : depth? 0 u = depth? 0 t) : Balanced u := by
  rw [balanced_iff] at h ⊢
  rw [hu, h]

theorem neutral_of_not_mem (ho : '{' ∉ u) (hc : '}' ∉ u) : Neutral u := by
  intro n
  induction u with
  | nil => rfl
  | cons c u ih =>
    rw [List.mem_cons, not_or] at ho hc
    rw [depth?_other (Ne.symm ho.1) (Ne.symm hc.1), ih ho.2 hc.2]

theorem Neutral.append (hu : Neutral u) (hv : Neutral v) : Neutral (u ++ v) := by
  intro n
  rw [depth?_append, hu n]
  exact hv n

/-- A block without braces inside is neutral. -/
theorem neutral_block (ho : '{' ∉ u) (hc : '}' ∉ u) : Neutral ('{' :: (u ++ ['}'])) := by
  intro n
  rw [depth?_open, depth?_append, neutral_of_not_mem ho hc (n + 1)]
  rfl

/-- A text that ends with its first closing brace and has one opening brace is neutral. -/
theorem neutral_of_count_le_one (ho : '{' ∉ u) (hc : '}' ∉ u) (hv : '}' ∉ v)
    (hcount : (u ++ '{' :: (v ++ ['}'])).count '{' ≤ 1) : Neutral (u ++ '{' :: (v ++ ['}'])) := by
  have hinner : '{' ∉ v := by
    rw [← List.count_eq_zero]
    simp only [List.count_append, List.count_cons_self] at hcount
    omega
  exact (neutral_of_not_mem ho hc).append (neutral_block hinner hv)

end Depth

end Text

/-! ## Scans -/

open Text

/-- A scan keeps every count of braces if each replacement counts as its match does. -/
theorem Matcher.depth?_replaceAll {f : Matcher} (hf : f.Splits) {g : Match → Text} {t : Text}
    (h : ∀ m ∈ f.findAll t, ∀ n, depth? n (g m) = depth? n m.text) (n : Nat) :
    depth? n (f.replaceAll g t) = depth? n t := by
  have hsegments : ∀ segments : List Segment,
      (∀ m, .hit m ∈ segments → ∀ n, depth? n (g m) = depth? n m.text) → ∀ n,
      depth? n (segments.flatMap (Segment.written g)) =
        depth? n (segments.map Segment.text).flatten := by
    intro segments
    induction segments with
    | nil => exact fun _ _ => rfl
    | cons seg segments ih =>
      intro hseg n
      rw [List.flatMap_cons, List.map_cons, List.flatten_cons, depth?_append, depth?_append]
      have hrest := ih fun m hm => hseg m (List.mem_cons_of_mem _ hm)
      cases seg with
      | plain c => exact Option.bind_congr fun k _ => hrest k
      | hit m =>
        rw [Segment.text, ← hseg m List.mem_cons_self n]
        exact Option.bind_congr fun k _ => hrest k
  rw [replaceAll_eq_flatMap, hsegments _ fun m hm => h m (mem_findAll.2 hm),
    flatten_text_segments hf]

/-- No match of the pattern in the text has a second opening brace. -/
def Pattern.Shallow (p : Pattern) (t : Text) : Prop :=
  ∀ m ∈ Matcher.findAll p.read? t, m.text.count '{' ≤ 1

instance (p : Pattern) (t : Text) : Decidable (p.Shallow t) :=
  inferInstanceAs (Decidable (∀ m ∈ Matcher.findAll p.read? t, m.text.count '{' ≤ 1))

namespace Pass

/-! ## The passes -/

/-- What a pattern that takes no braces covers is neutral. -/
theorem neutral_text {ps : Pattern} (hps : ∀ p ∈ ps, p.Avoids '{' ∧ p.Avoids '}')
    {before : Option Char} {t : Text} {m : Match} (h : ps.read? before t = some m) :
    Neutral m.text :=
  neutral_of_not_mem (Pattern.not_mem_text (fun p hp => (hps p hp).1) h)
    (Pattern.not_mem_text (fun p hp => (hps p hp).2) h)

/-- What a pattern covers that takes no braces but in a block behind it is neutral, if the block ends
    with its first closing brace and the match has one opening brace only. -/
theorem neutral_text_block (ps block : Pattern) (hps : ∀ p ∈ ps, p.Avoids '{' ∧ p.Avoids '}')
    (hblock : ∀ us, List.Forall₂ Piece.Takes block us →
      ∃ body, us.flatten = '{' :: (body ++ ['}']) ∧ '}' ∉ body)
    {before : Option Char} {t : Text} {m : Match} (h : (ps ++ block).read? before t = some m)
    (hcount : m.text.count '{' ≤ 1) : Neutral m.text := by
  rw [Pattern.read?_append, Option.bind_eq_some_iff] at h
  obtain ⟨m₁, h₁, hmap⟩ := h
  obtain ⟨m₂, h₂, rfl⟩ := Option.map_eq_some_iff.1 hmap
  obtain ⟨body, htext, hbody⟩ := hblock _ (Pattern.forall₂_takes h₂)
  rw [Match.text, List.flatten_append, htext] at hcount ⊢
  exact neutral_of_count_le_one (Pattern.not_mem_text (fun p hp => (hps p hp).1) h₁)
    (Pattern.not_mem_text (fun p hp => (hps p hp).2) h₁) hbody hcount

theorem depth?_foldSums (n : Nat) (t : Text) : depth? n (foldSums t) = depth? n t := by
  refine Matcher.depth?_replaceAll (Pattern.splits _) (fun m hm n => ?_) n
  obtain ⟨before, t', hread⟩ := Matcher.exists_of_mem_findAll hm
  unfold foldSum
  split
  · next k _ =>
    have hdigit : ∀ c ∈ Text.ofNat k, c.isDigit = true := fun c => isDigit_of_mem_ofNat
    have hsum : Neutral (Text.ofNat k) := by
      apply neutral_of_not_mem
      · exact fun hc => absurd (hdigit _ hc) (by decide)
      · exact fun hc => absurd (hdigit _ hc) (by decide)
    rw [hsum, neutral_text (by decide) hread]
  · rfl

/-- A dead branch with one opening brace is neutral. -/
theorem neutral_of_deadBranch {before : Option Char} {t : Text} {m : Match}
    (h : deadBranchPattern.read? before t = some m) (hcount : m.text.count '{' ≤ 1) :
    Neutral m.text := by
  refine neutral_text_block [.lit "if", .blanks, .lit "(false)", .blanks]
    [.lit "\x7b", .through ['}']] (by decide) (fun us hus => ?_) h hcount
  simp only [Piece.lit, List.forall₂_cons_left_iff, List.forall₂_nil_left_iff,
    Piece.takes_word_iff] at hus
  obtain ⟨_, _, rfl, ⟨u, _, hu, rfl, rfl⟩, rfl⟩ := hus
  obtain ⟨body, rfl, hbody⟩ := Piece.exists_of_takes_through hu
  exact ⟨body, by simp, hbody⟩

theorem depth?_dropDeadBranches {t : Text} (h : deadBranchPattern.Shallow t) (n : Nat) :
    depth? n (dropDeadBranches t) = depth? n t := by
  refine Matcher.depth?_replaceAll (Pattern.splits _) (fun m hm n => ?_) n
  obtain ⟨before, t', hread⟩ := Matcher.exists_of_mem_findAll hm
  rw [neutral_of_deadBranch hread (h m hm)]
  rfl

theorem depth?_dropZeroAdditions (n : Nat) (t : Text) :
    depth? n (dropZeroAdditions t) = depth? n t := by
  refine Matcher.depth?_replaceAll (Pattern.splits _) (fun m hm n => ?_) n
  obtain ⟨before, t', hread⟩ := Matcher.exists_of_mem_findAll hm
  rw [neutral_text (by decide) hread]
  rfl

/-- A definition of the helper with one opening brace is neutral. -/
theorem neutral_of_squareDefinition {before : Option Char} {t : Text} {m : Match}
    (h : squareDefinition.read? before t = some m) (hcount : m.text.count '{' ≤ 1) :
    Neutral m.text := by
  refine neutral_text_block [.lit "inline", .blanks1, .lit "int", .blanks1, .lit "square", .blanks,
    .lit "(int", .blanks1, .run 1 isWord, .lit ")", .blanks]
    [.lit "\x7b", .run 0 (· != '}'), .lit "\x7d"] (by decide) (fun us hus => ?_) h hcount
  simp only [Piece.lit, List.forall₂_cons_left_iff, List.forall₂_nil_left_iff,
    Piece.takes_word_iff, Piece.takes_run_iff] at hus
  obtain ⟨_, _, rfl, ⟨body, _, ⟨-, hbody⟩, ⟨_, _, rfl, rfl, rfl⟩, rfl⟩, rfl⟩ := hus
  exact ⟨body, by simp, fun hc => absurd (hbody _ hc) (by decide)⟩

theorem depth?_dropSquareDefinitions {t : Text} (h : squareDefinition.Shallow t) (n : Nat) :
    depth? n (dropSquareDefinitions t) = depth? n t := by
  refine Matcher.depth?_replaceAll (Pattern.splits _) (fun m hm n => ?_) n
  obtain ⟨before, t', hread⟩ := Matcher.exists_of_mem_findAll hm
  rw [neutral_of_squareDefinition hread (h m hm)]
  rfl

/-- Neither a call on a literal nor its product has braces. -/
theorem depth?_expandCalls (n : Nat) (t : Text) : depth? n (expandCalls t) = depth? n t := by
  refine Matcher.depth?_replaceAll (Pattern.splits _) (fun m hm n => ?_) n
  obtain ⟨before, t', hread⟩ := Matcher.exists_of_mem_findAll hm
  have hproduct : Neutral (squareProduct m) := by
    rw [isFree_squareCall before none] at hread
    apply neutral_of_not_mem
    · exact fun hc => absurd (mem_squareProduct hread hc) (by decide)
    · exact fun hc => absurd (mem_squareProduct hread hc) (by decide)
  rw [neutral_text (by decide) hread, hproduct]

end Pass

/-! ## The run -/

namespace Pipeline

open Pass

/-- **Braces stay balanced along the canonical passes**, at every stage, unless the removal of dead
    branches or that of the squaring helper meets a block with a second opening brace. -/
theorem balanced_stages {s : Source} (h : Balanced s.text)
    (hdead : ∀ st ∈ (canonical.run s).stages, st.pass = deadCodeElimination.name →
      deadBranchPattern.Shallow st.before.text)
    (hinline : ∀ st ∈ (canonical.run s).stages, st.pass = inlineExpansion.name →
      squareDefinition.Shallow st.before.text) :
    (∀ st ∈ (canonical.run s).stages, Balanced st.before.text ∧ Balanced st.after.text) ∧
      Balanced (retouched s.text) := by
  have hstep : ∀ st ∈ (canonical.run s).stages,
      Balanced st.before.text → Balanced st.after.text := by
    intro st hst hbefore
    obtain ⟨q, hq, hname, hafter⟩ := exists_named_pass_of_mem hst
    rw [hafter, q.rewrite_text]
    refine hbefore.congr ?_
    simp only [canonical, Pass.canonical, List.mem_cons, List.not_mem_nil, or_false] at hq
    rcases hq with rfl | rfl | rfl | rfl
    · exact depth?_foldSums 0 _
    · exact depth?_dropDeadBranches (hdead st hst hname) 0
    · exact depth?_dropZeroAdditions 0 _
    · exact (depth?_expandCalls 0 _).trans (depth?_dropSquareDefinitions (hinline st hst hname) 0)
  obtain ⟨hall, hend⟩ :=
    (linked_run canonical s).forall_of_step (p := fun s => Balanced s.text) h hstep
  refine ⟨hall, ?_⟩
  rw [retouched, Trail.result_eq_output, text_output_run, ← text_output_run canonical s]
  exact hend

/-- A dead branch and a definition of the helper, both dropped from inside a block. -/
theorem balanced_stages_inner_blocks :
    ∃ s : Source,
      s.text = "\x7b if (false) \x7b f(); \x7d inline int square(int v) \x7b\x7d \x7d".toList ∧
      Balanced s.text ∧
      (∀ st ∈ (canonical.run s).stages, st.pass = deadCodeElimination.name →
        deadBranchPattern.Shallow st.before.text) ∧
      (∀ st ∈ (canonical.run s).stages, st.pass = inlineExpansion.name →
        squareDefinition.Shallow st.before.text) ∧
      retouched s.text = "\x7b   \x7d".toList ∧ Balanced (retouched s.text) := by
  refine ⟨⟨_, .c⟩, rfl, ?_⟩
  have h := balanced_stages (s := ⟨_, .c⟩)
    (show Balanced "\x7b if (false) \x7b f(); \x7d inline int square(int v) \x7b\x7d \x7d".toList by
      decide +kernel) (by decide +kernel) (by decide +kernel)
  exact ⟨by decide +kernel, by decide +kernel, by decide +kernel, by decide +kernel, h.2⟩

example : Balanced "if (false) \x7b if (y) \x7b\x7d \x7d".toList ∧
    ¬ Balanced (retouched "if (false) \x7b if (y) \x7b\x7d \x7d".toList) := by
  decide +kernel

end Pipeline

end Retouch
