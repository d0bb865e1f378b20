/-
  Statements are rewritten one by one.

  A pattern that can take a semicolon only as the last character of its match is not read across one
  (`Pattern.read?_append_of_getLast?`), and after a semicolon words start as they do at the start of a
  text.  A scan for such a pattern may be cut after any semicolon (`Matcher.CutsAfter`).

  * `Matcher.CutsAfter.replaceAll_append`: it does the same on the two parts as on the whole;
  * `isStatementwise_passes`: four passes are made of such scans.
-/
import Retouch.Pass.ZeroAddition
import Retouch.Proofs.Increments
import Retouch.Proofs.Sums
import Retouch.Proofs.WholeWords

namespace Retouch

/-- A `c` at the end stays there if a text without it is taken off the front. -/
theorem Text.getLast?_of_getLast?_append {c : Char} {u v : Text} (h : (u ++ v).getLast? = some c)
    (hu : c ∉ u) : v.getLast? = some c := by
  rw [List.getLast?_append] at h
  cases hlast : v.getLast? with
  | none =>
    rw [hlast] at h
    exact absurd (List.mem_of_getLast? h) hu
  | some d => rwa [hlast] at h

open Text

/-! ## Pieces -/

namespace Piece

/-- The piece takes `c` as its last character at most. -/
def StopsAt (c : Char) : Piece → Prop
  | word w => c ∉ w.dropLast
  | p => p.Avoids c

theorem Avoids.stopsAt {c : Char} {p : Piece} (h : p.Avoids c) : p.StopsAt c := by
  cases p with
  | word w => exact fun hmem => h (List.dropLast_subset w hmem)
  | _ => exact h

variable {p : Piece} {before : Option Char} {c : Char} {t u v taken rest : Text}

/-- A word with `c` at its end at most is not found across a `c`. -/
theorem isPrefixOf_append {w : Text} (hw : c ∉ w.dropLast) (ht : t.getLast? = some c) (v : Text) :
    w.isPrefixOf (t ++ v) = w.isPrefixOf t := by
  rw [Bool.eq_iff_iff, List.isPrefixOf_iff_prefix, List.isPrefixOf_iff_prefix]
  refine ⟨fun h => ?_, fun h => h.trans (List.prefix_append t v)⟩
  rcases List.prefix_or_prefix_of_prefix h (List.prefix_append t v) with h | ⟨x, rfl⟩
  · exact h
  · rcases List.eq_nil_or_concat x with rfl | ⟨x, d, rfl⟩
    · rw [List.append_nil]
    · refine absurd ?_ hw
      rw [List.concat_eq_append, ← List.append_assoc, List.dropLast_concat]
      exact List.mem_append_left x (List.mem_of_getLast? ht)

theorem drop_append_of_isPrefixOf {w : Text} (h : w.isPrefixOf t = true) (v : Text) :
    (t ++ v).drop w.length = t.drop w.length ++ v :=
  List.drop_append_of_le_length (List.isPrefixOf_iff_prefix.1 h).length_le

/-- A piece is read in the same way whatever follows after a `c`. -/
theorem StopsAt.take?_append (hp : p.StopsAt c) (ht : t.getLast? = some c) (v : Text) :
    p.take? before (t ++ v) = (p.take? before t).map fun (taken, rest) => (taken, rest ++ v) := by
  have hmem : c ∈ t := List.mem_of_getLast? ht
  cases p with
  | word w =>
    rw [take?, take?, isPrefixOf_append hp ht]
    split
    · next h => rw [drop_append_of_isPrefixOf h]; rfl
    · rfl
  | oneOf ws =>
    have hfind : ws.find? (·.isPrefixOf (t ++ v)) = ws.find? (·.isPrefixOf t) :=
      List.find?_congr fun w hw =>
        isPrefixOf_append (fun hmem => hp w hw (List.dropLast_subset w hmem)) ht v
    rw [take?, take?, hfind]
    cases hw : ws.find? (·.isPrefixOf t) with
    | none => rfl
    | some w =>
      have hpre : w.isPrefixOf t = true := by simpa using List.find?_some hw
      simp [drop_append_of_isPrefixOf hpre]
  | run least q =>
    rw [take?, take?, takeWhile_append_of_mem hmem hp, dropWhile_append_of_mem hmem hp]
    split <;> rfl
  | name =>
    cases t with
    | nil => exact absurd ht (by simp)
    | cons d r =>
      rw [List.cons_append, take?, take?]
      by_cases hd : isNameStart d = true
      · -- the name ends before the `c`, which is not its first character
        have hr : c ∈ r := by
          rcases List.mem_cons.1 hmem with rfl | hr
          · have hc : isWord c = false := hp
            rw [isWord_of_isNameStart hd] at hc
            exact absurd hc (by decide)
          · exact hr
        rw [if_pos hd, if_pos hd, takeWhile_append_of_mem hr hp, dropWhile_append_of_mem hr hp]
        rfl
      · rw [if_neg hd, if_neg hd]
        rfl
  | edge =>
    have hne : t ≠ [] := List.ne_nil_of_mem hmem
    rw [take?, take?, List.head?_append_of_ne_nil t hne]
    split <;> rfl
  | maybe | runTo | through | lineEnd => exact hp.elim

end Piece

/-! ## Patterns -/

/-- The match with more text after it. -/
def Match.followedBy (m : Match) (v : Text) : Match := ⟨m.pieces, m.rest ++ v⟩

namespace Pattern

/-- If only the last piece can take a `c`, and only at its end, the pattern is not read across one. -/
theorem read?_append_of_getLast? {ps : Pattern} {q : Piece} {c : Char} (hps : ∀ p ∈ ps, p.Avoids c)
    (hq : q.StopsAt c) {before : Option Char} {t : Text} (ht : t.getLast? = some c) (v : Text) :
    read? (ps ++ [q]) before (t ++ v) = (read? (ps ++ [q]) before t).map (·.followedBy v) := by
  induction ps generalizing before t with
  | nil =>
    rw [List.nil_append, read?, read?, hq.take?_append ht]
    cases q.take? before t with
    | none => rfl
    | some u => rfl
  | cons p ps ih =>
    rw [List.forall_mem_cons] at hps
    rw [List.cons_append, read?, read?, hps.1.stopsAt.take?_append ht]
    cases hp : p.take? before t with
    | none => rfl
    | some u =>
      obtain ⟨taken, rest⟩ := u
      have hrest : rest.getLast? = some c := by
        rw [← Piece.append_take? hp] at ht
        exact getLast?_of_getLast?_append ht (hps.1.not_mem ⟨before, t, rest, hp⟩)
      simp only [Option.map_some, ih hps.2 hrest]
      cases read? (ps ++ [q]) (taken.getLast?.or before) rest with
      | none => rfl
      | some m => rfl

end Pattern

/-! ## Scans -/

namespace Matcher

/-- A matcher that does not look beyond a `c`, and takes what follows it for a text of its own. -/
structure CutsAfter (f : Matcher) (c : Char) : Prop where
  splits : f.Splits
  text_ne_nil : ∀ {before t m}, f before t = some m → m.text ≠ []
  start : ∀ t, f (some c) t = f none t
  append : ∀ {before t} (v), t.getLast? = some c → f before (t ++ v) = (f before t).map (·.followedBy v)

/-- A pattern that takes a `c` at its end at most. -/
theorem cutsAfter_read? (ps : Pattern) (q : Piece) {c : Char} (hps : ∀ p ∈ ps, p.Avoids c)
    (hq : q.StopsAt c) (hc : isWord c = false)
    (hne : ∀ {before t m}, Pattern.read? (ps ++ [q]) before t = some m → m.text ≠ []) :
    CutsAfter (Pattern.read? (ps ++ [q])) c where
  splits := Pattern.splits _
  text_ne_nil := hne
  start t := Pattern.read?_congr_before _ (by simpa using hc) t
  append v ht := Pattern.read?_append_of_getLast? hps hq ht v

namespace CutsAfter

variable {f : Matcher} {g : Match → Text} {c : Char} {before : Option Char} {t : Text} {m : Match}

theorem length_rest_lt (hf : f.CutsAfter c) (h : f before t = some m) : m.rest.length < t.length :=
  Splits.length_rest_lt (f := f) hf.splits h (hf.text_ne_nil h)

/-- After a `c`, a scan starts anew. -/
theorem replaceFrom_start (hf : f.CutsAfter c) (t : Text) :
    f.replaceFrom g (some c) t = f.replaceAll g t := by
  change _ = f.replaceFrom g none t
  cases t with
  | nil => rw [replaceFrom_nil, replaceFrom_nil]
  | cons d r =>
    cases hm : f (some c) (d :: r) with
    | none => rw [replaceFrom_cons hm, replaceFrom_cons (hf.start _ ▸ hm)]
    | some m =>
      have hlt := hf.length_rest_lt hm
      rw [replaceFrom_of_eq_some hm hlt, replaceFrom_of_eq_some (hf.start _ ▸ hm) hlt,
        getLast?_or_of_ne_nil (hf.text_ne_nil hm), getLast?_or_of_ne_nil (hf.text_ne_nil hm)]

theorem replaceFrom_append (hf : f.CutsAfter c) (hg : ∀ m v, g (m.followedBy v) = g m)
    (ht : t.getLast?.or before = some c) (v : Text) :
    f.replaceFrom g before (t ++ v) = f.replaceFrom g before t ++ f.replaceAll g v := by
  induction before, t using scanFromInduction f hf.length_rest_lt with
  | nil before =>
    obtain rfl : before = some c := ht
    rw [replaceFrom_nil]
    exact hf.replaceFrom_start v
  | copy before d r hm ih =>
    have hm' : f before (d :: (r ++ v)) = none := by
      rw [getLast?_or_of_ne_nil (List.cons_ne_nil d r)] at ht
      rw [← List.cons_append, hf.append v ht, hm]
      rfl
    rw [List.cons_append, replaceFrom_cons hm', replaceFrom_cons hm, List.cons_append,
      ih (by rwa [getLast?_cons_or] at ht)]
  | hit before t m hm ih =>
    have hne : t ≠ [] := by
      rintro rfl
      exact absurd (hf.length_rest_lt hm) (Nat.not_lt_zero _)
    have hm' : f before (t ++ v) = some (m.followedBy v) := by
      rw [getLast?_or_of_ne_nil hne] at ht
      rw [hf.append v ht, hm]
      rfl
    have hrest : m.rest.getLast?.or (m.text.getLast?.or before) = some c := by
      rw [← getLast?_append_or, hf.splits hm, ht]
    rw [replaceFrom_of_eq_some hm' (hf.length_rest_lt hm'),
      replaceFrom_of_eq_some hm (hf.length_rest_lt hm), hg, List.append_assoc, ← ih hrest]
    rfl

/-- **A scan may be cut** after any `c`. -/
theorem replaceAll_append (hf : f.CutsAfter c) (hg : ∀ m v, g (m.followedBy v) = g m) (u v : Text) :
    f.replaceAll g (u ++ c :: v) = f.replaceAll g (u ++ [c]) ++ f.replaceAll g v := by
  rw [List.append_cons]
  exact hf.replaceFrom_append hg (by simp) v

/-- A `c` at the end that no match takes stays there. -/
theorem getLast?_replaceFrom (hf : f.CutsAfter c)
    (hc : ∀ {before t m}, f before t = some m → c ∉ m.text) (ht : t.getLast? = some c) :
    (f.replaceFrom g before t).getLast? = some c := by
  induction before, t using scanFromInduction f hf.length_rest_lt with
  | nil before => exact absurd ht (by simp)
  | copy before d r hm ih =>
    rw [replaceFrom_cons hm, List.getLast?_cons]
    cases r with
    | nil => simpa using ht
    | cons e r =>
      rw [List.getLast?_cons_cons] at ht
      rw [ih ht]
      rfl
  | hit before t m hm ih =>
    have hrest : m.rest.getLast? = some c := by
      rw [← hf.splits hm] at ht
      exact getLast?_of_getLast?_append ht (hc hm)
    rw [replaceFrom_of_eq_some hm (hf.length_rest_lt hm), List.getLast?_append, ih hrest]
    rfl

end CutsAfter

end Matcher

/-! ## Passes -/

namespace Pass

/-- What stands up to a semicolon is rewritten as if nothing followed, and what follows it as if it
    stood alone. -/
def IsStatementwise (q : Pass) : Prop :=
  ∀ u v, q.apply (u ++ ';' :: v) = q.apply (u ++ [';']) ++ q.apply v

theorem isStatementwise_constantFolding : constantFolding.IsStatementwise := by
  have hcuts : Matcher.CutsAfter sumPattern.read? ';' := by
    refine Matcher.cutsAfter_read? sumPattern.dropLast .digits (by decide)
      (Piece.Avoids.stopsAt (by decide)) (by decide) ?_
    intro before t m h
    obtain ⟨ds, b₁, b₂, es, hm, -⟩ := exists_pieces_of_read?_sumPattern h
    simp [Match.text, hm]
  exact hcuts.replaceAll_append fun m v => rfl

theorem isStatementwise_peephole : peephole.IsStatementwise := by
  have hcuts : Matcher.CutsAfter (Pattern.read? [.word zeroAddition]) ';' := by
    have hend : ';' ∉ zeroAddition.dropLast := by decide
    refine Matcher.cutsAfter_read? [] (.word zeroAddition) (by decide) hend (by decide) ?_
    intro before t m h
    rw [Match.text, (Pattern.read?_word.1 h).1]
    decide
  exact hcuts.replaceAll_append fun m v => rfl

theorem isStatementwise_incrementIdioms : incrementIdioms.IsStatementwise := by
  have hcuts : Matcher.CutsAfter stepPattern.read? ';' := by
    have hend : ';' ∉ [';'].dropLast := by decide
    exact Matcher.cutsAfter_read? stepPattern.dropLast (.lit ";") (by decide) hend (by decide)
      isWordwise_stepPattern.text_ne_nil
  exact hcuts.replaceAll_append fun m v => rfl

/-- Words without a semicolon are replaced statement by statement. -/
theorem cutsAfter_wholeWord {s : String} (hs : IsWordy s.toList) (hc : ';' ∉ s.toList) :
    Matcher.CutsAfter (wholeWord s).read? ';' := by
  refine Matcher.cutsAfter_read? [.edge, .lit s] .edge ?_ trivial (by decide)
    (isWordwise_wholeWord hs).text_ne_nil
  simpa [Piece.Avoids, Piece.lit] using hc

theorem isStatementwise_unorderedContainers : unorderedContainers.IsStatementwise := by
  have hmap := cutsAfter_wholeWord isWordy_map (by decide)
  have hset := cutsAfter_wholeWord isWordy_set (by decide)
  intro u v
  -- the first replacement leaves the semicolon where it is
  have hlast : (replaceWord "std::map" "std::unordered_map" (u ++ [';'])).getLast? = some ';' := by
    refine hmap.getLast?_replaceFrom (fun h => ?_) (by simp)
    obtain ⟨-, -, -, hpieces⟩ := (read?_wholeWord isWordy_map).1 h
    rw [Match.text, hpieces]
    decide
  obtain ⟨w, hw⟩ := List.getLast?_eq_some_iff.1 hlast
  change replaceWord _ _ (replaceWord _ _ _) = replaceWord _ _ (replaceWord _ _ _) ++
    replaceWord _ _ (replaceWord _ _ _)
  have hfirst : replaceWord "std::map" "std::unordered_map" (u ++ ';' :: v) =
      w ++ ';' :: replaceWord "std::map" "std::unordered_map" v := by
    rw [List.append_cons w, ← hw]
    exact hmap.replaceAll_append (fun m v => rfl) u v
  rw [hfirst, hw]
  exact hset.replaceAll_append (fun m v => rfl) w _

/-- **Statements are rewritten one by one** by four of the passes: a change in one statement has no
    effect on how those after its semicolon are rewritten. -/
theorem isStatementwise_passes :
    constantFolding.IsStatementwise ∧ peephole.IsStatementwise ∧ incrementIdioms.IsStatementwise ∧
      unorderedContainers.IsStatementwise :=
  ⟨isStatementwise_constantFolding, isStatementwise_peephole, isStatementwise_incrementIdioms,
    isStatementwise_unorderedContainers⟩

end Pass

end Retouch
