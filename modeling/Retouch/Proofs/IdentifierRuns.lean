/-
  Runs of identifier characters, and what becomes of them when parts of a text are replaced.

  The runs of a text are those of its parts, wherever it is cut beside a character that is none of
  theirs (`runs_append`).  So a scan leaves the runs of the text around its matches alone if the
  matches are cut off in this way.  Two passes look for a text without asking what stands before it.
  They keep all identifiers whole where nothing does, and cut them otherwise.

  * `Matcher.exchanges_replaceAll`: a scan whose matches stand apart keeps all runs between them;
  * `keepsRuns_of_startsApart`: so do the two passes, where what they replace stands apart;
  * `not_keepsRuns`: they do not, where it is the end of a longer identifier.
-/
import Retouch.Pass.ZeroAddition
import Retouch.Proofs.Columns
import Retouch.Proofs.Identifiers
import Retouch.Proofs.Junctions
import Retouch.Proofs.SquareCalls

namespace Retouch

/-! ## Runs -/

namespace Text

/-- The ASCII letters and digits, and the underscore. -/
def isIdentifierChar (c : Char) : Bool := c.isAlphanum || c == '_'

theorem isIdentifierChar_of_isDigit {c : Char} (h : c.isDigit = true) : isIdentifierChar c = true := by
  have halphanum : c.isAlphanum = true := Bool.or_eq_true_iff.2 (.inr h)
  rw [isIdentifierChar, halphanum]
  rfl

theorem isIdentifierChar_of_isBlank {c : Char} (h : isBlank c = true) :
    isIdentifierChar c = false := by
  by_cases hlt : c.toNat < 0x80
  · have hword := isWord_of_isBlank h
    rwa [isWord, if_pos hlt] at hword
  · have hall : ∀ n ∈ wideBlanks, isIdentifierChar (Char.ofNat n) = false := by decide
    have hc := hall _ (toNat_mem_wideBlanks h hlt)
    rwa [Char.ofNat_toNat] at hc

end Text

open Text

/-! ## Scans -/

/-- The text that segments cover. -/
def Segment.source (segs : List Segment) : Text := (segs.map Segment.text).flatten

/-- A match between two words. -/
theorem Pattern.exists_text_eq (ps : Pattern) {w w' : Text} {before : Option Char} {t : Text}
    {m : Match} (h : read? (.word w :: ps ++ [.word w']) before t = some m) :
    ∃ mid, m.text = w ++ mid ++ w' := by
  rw [read?_append, Option.bind_eq_some_iff] at h
  obtain ⟨m₁, h₁, hmap⟩ := h
  obtain ⟨m₂, h₂, rfl⟩ := Option.map_eq_some_iff.1 hmap
  obtain ⟨_, pieces, hw, -, hm₁⟩ := List.forall₂_cons_left_iff.1 (forall₂_takes h₁)
  obtain rfl := Piece.takes_word_iff.1 hw
  exact ⟨pieces.flatten, by simp [Match.text, hm₁, (read?_word.1 h₂).1]⟩

namespace Matcher

/-- No match starts right after a character with `p`. -/
def StartsApart (f : Matcher) (p : Char → Bool) (t : Text) : Prop :=
  ∀ d ∈ f.located t, (t.take d.1.start).getLast?.any p = false

/-- No match ends right before a character with `p`. -/
def EndsApart (f : Matcher) (p : Char → Bool) (t : Text) : Prop :=
  ∀ d ∈ f.located t, (t.drop d.1.stop).head?.any p = false

instance (f : Matcher) (p : Char → Bool) (t : Text) : Decidable (f.StartsApart p t) :=
  inferInstanceAs (Decidable (∀ d ∈ f.located t, _))

instance (f : Matcher) (p : Char → Bool) (t : Text) : Decidable (f.EndsApart p t) :=
  inferInstanceAs (Decidable (∀ d ∈ f.located t, _))

theorem mem_locate (n : Nat) (front : List Segment) (m : Match) (back : List Segment) :
    (⟨n + (Segment.source front).length, m.text⟩, m) ∈ locate n (front ++ .hit m :: back) := by
  induction front generalizing n with
  | nil => exact List.mem_cons_self
  | cons seg front ih =>
    cases seg with
    | plain c =>
      have hmem := ih (n + 1)
      rw [Nat.add_assoc, Nat.add_comm 1] at hmem
      exact hmem
    | hit m' =>
      have hmem := ih (n + m'.text.length)
      refine List.mem_cons_of_mem _ ?_
      rwa [Nat.add_assoc, ← List.length_append] at hmem

/-- A match between the texts `u` and `v` that shares no run with them, and for which `g` writes what
    shares none with them either. -/
structure SitsApart (p : Char → Bool) (g : Match → Text) (u : Text) (m : Match) (v : Text) :
    Prop where
  before_eq : u.getLast?.any p = false
  head_eq : m.text.head?.any p = true
  getLast_eq : m.text.getLast?.any p = false
  after_eq : g m = [] ∨ v.head?.any p = false

/-- The runs of a text with the given matches, and those of what `g` makes of it.  Between the matches
    they are the same, in the same order. -/
inductive Exchanges (p : Char → Bool) (g : Match → Text) :
    List Match → List Text → List Text → Prop where
  | nil (rs : List Text) : Exchanges p g [] rs rs
  | cons (rs : List Text) (m : Match) {ms : List Match} {ss ts : List Text} :
      Exchanges p g ms ss ts →
        Exchanges p g (m :: ms) (rs ++ (runs p m.text ++ ss)) (rs ++ (runs p (g m) ++ ts))

section Segments

variable {p : Char → Bool} {g : Match → Text} {segs : List Segment}

theorem Exchanges.subset {ms : List Match} {ss ts : List Text} (h : Exchanges p g ms ss ts)
    (hg : ∀ m ∈ ms, runs p (g m) ⊆ runs p m.text) : ts ⊆ ss := by
  induction h with
  | nil rs => exact List.Subset.refl rs
  | cons rs m _ ih =>
    rw [List.forall_mem_cons] at hg
    refine List.append_subset.2
      ⟨List.subset_append_left _ _, List.subset_append_of_subset_right _ (List.append_subset.2 ?_)⟩
    exact ⟨List.subset_append_of_subset_left _ hg.1, List.subset_append_of_subset_right _ (ih hg.2)⟩

theorem SitsApart.of_append {u u' v : Text} {m : Match} (h : SitsApart p g (u ++ u') m v) :
    SitsApart p g u' m v := by
  refine ⟨?_, h.head_eq, h.getLast_eq, h.after_eq⟩
  have hlast := h.before_eq
  rw [List.getLast?_append] at hlast
  cases hu : u'.getLast? with
  | none => rfl
  | some c => rwa [hu] at hlast

/-- What follows a match that is not removed starts with a copied character. -/
theorem head?_flatMap_written (hhead : (Segment.source segs).head?.any p = false)
    (h : ∀ m back, segs = .hit m :: back → m.text.head?.any p = true) :
    (segs.flatMap (Segment.written g)).head?.any p = false := by
  cases segs with
  | nil => rfl
  | cons seg segs =>
    cases seg with
    | plain c => exact hhead
    | hit m =>
      have hm := h m segs rfl
      have hsource : (Segment.source (.hit m :: segs)).head? = m.text.head? := by
        refine List.head?_append_of_ne_nil m.text fun hnil => ?_
        rw [hnil] at hm
        exact absurd hm (by simp)
      rw [hsource, hm] at hhead
      exact absurd hhead (by decide)

theorem exchanges_flatMap_written (u : Text) (h : ∀ front m back, segs = front ++ .hit m :: back →
      SitsApart p g (u ++ Segment.source front) m (Segment.source back)) :
    Exchanges p g (segs.filterMap Segment.match?) (runs p (u ++ Segment.source segs))
      (runs p (u ++ segs.flatMap (Segment.written g))) := by
  -- The text `u` reaches back to the last match, so that the runs of plain segments are seen whole.
  induction segs generalizing u with
  | nil => exact .nil _
  | cons seg segs ih =>
    have htail : ∀ front m back, segs = front ++ .hit m :: back →
        SitsApart p g (u ++ (seg.text ++ Segment.source front)) m (Segment.source back) :=
      fun front m back hsegs => h (seg :: front) m back (by rw [hsegs, List.cons_append])
    cases seg with
    | plain c =>
      have hnext := ih (u ++ [c]) fun front m back hsegs => by
        rw [List.append_assoc]
        exact htail front m back hsegs
      rw [List.append_assoc, List.append_assoc] at hnext
      exact hnext
    | hit m =>
      have hm : SitsApart p g u m (Segment.source segs) := by
        have hfirst := h [] m segs rfl
        rwa [Segment.source, List.map_nil, List.flatten_nil, List.append_nil] at hfirst
      have hnext : Exchanges p g (segs.filterMap Segment.match?) (runs p (Segment.source segs))
          (runs p (segs.flatMap (Segment.written g))) :=
        ih [] fun front m' back hsegs => (htail front m' back hsegs).of_append.of_append
      have hsource : runs p (u ++ (m.text ++ Segment.source segs)) =
          runs p u ++ (runs p m.text ++ runs p (Segment.source segs)) := by
        rw [runs_append (.inl hm.before_eq), runs_append (.inl hm.getLast_eq)]
      have hwritten : runs p (u ++ (g m ++ segs.flatMap (Segment.written g))) =
          runs p u ++ (runs p (g m) ++ runs p (segs.flatMap (Segment.written g))) := by
        rw [runs_append (.inl hm.before_eq)]
        rcases hm.after_eq with hnil | hhead
        · rw [hnil, List.nil_append, runs_nil, List.nil_append]
        · rw [runs_append (.inr (head?_flatMap_written hhead fun m' back hsegs => ?_))]
          exact (htail [] m' back hsegs).head_eq
      change Exchanges p g (m :: segs.filterMap Segment.match?)
        (runs p (u ++ (m.text ++ Segment.source segs)))
        (runs p (u ++ (g m ++ segs.flatMap (Segment.written g))))
      rw [hsource, hwritten]
      exact .cons _ m hnext

end Segments

/-- **Runs outside the matches stay**, if no match is joined with a run before it, or with one after it
    when something is written in its place. -/
theorem exchanges_replaceAll {f : Matcher} {p : Char → Bool} {g : Match → Text} {t : Text}
    (hf : f.Splits)
    (hhit : ∀ {before t m}, f before t = some m → m.text.head?.any p = true ∧
      m.text.getLast?.any p = false)
    (hstart : f.StartsApart p t) (hend : (∀ m, g m = []) ∨ f.EndsApart p t) :
    Exchanges p g (f.findAll t) (runs p t) (runs p (f.replaceAll g t)) := by
  have hsource : Segment.source (f.segments t) = t := flatten_text_segments hf t
  have hsits : ∀ front m back, f.segments t = front ++ .hit m :: back →
      SitsApart p g ([] ++ Segment.source front) m (Segment.source back) := by
    intro front m back hsegs
    have hmem : (⟨(Segment.source front).length, m.text⟩, m) ∈ f.located t := by
      rw [located, hsegs, ← Nat.zero_add (Segment.source front).length]
      exact mem_locate 0 front m back
    have ht : t = Segment.source front ++ (m.text ++ Segment.source back) := by
      rw [← hsource, hsegs]
      simp [Segment.source, Segment.text]
    have hfound : .hit m ∈ f.segments t := by
      rw [hsegs]
      exact List.mem_append_right _ List.mem_cons_self
    obtain ⟨before, t', hm⟩ := exists_of_hit_mem hfound
    refine ⟨?_, (hhit hm).1, (hhit hm).2, ?_⟩
    · have hfront := hstart _ hmem
      rwa [ht, List.take_left] at hfront
    · refine hend.imp (fun hg => hg m) fun hend => ?_
      have hback := hend _ hmem
      rwa [Extent.stop, ← List.length_append, ht, ← List.append_assoc, List.drop_left] at hback
  have hexchanges := exchanges_flatMap_written [] hsits
  rwa [List.nil_append, List.nil_append, hsource] at hexchanges

end Matcher

/-! ## The passes -/

namespace Pass

/-- Every run of identifier characters of the rewritten text is one of the text. -/
def KeepsRuns (q : Pass) (t : Text) : Prop :=
  runs isIdentifierChar (q.apply t) ⊆ runs isIdentifierChar t

instance (q : Pass) (t : Text) : Decidable (q.KeepsRuns t) :=
  inferInstanceAs (Decidable (∀ r ∈ runs isIdentifierChar (q.apply t), r ∈ runs isIdentifierChar t))

theorem exchanges_peephole {t : Text}
    (h : Matcher.StartsApart (Pattern.read? [.word zeroAddition]) isIdentifierChar t) :
    Matcher.Exchanges isIdentifierChar (fun _ => [])
      (Matcher.findAll (Pattern.read? [.word zeroAddition]) t) (runs isIdentifierChar t)
      (runs isIdentifierChar (peephole.apply t)) := by
  refine Matcher.exchanges_replaceAll (Pattern.splits _) (fun hm => ?_) h (.inl fun _ => rfl)
  rw [Match.text, (Pattern.read?_word.1 hm).1]
  exact ⟨by decide, by decide⟩

theorem exchanges_dropSquareDefinitions {t : Text}
    (h : Matcher.StartsApart squareDefinition.read? isIdentifierChar t) :
    Matcher.Exchanges isIdentifierChar (fun _ => []) (Matcher.findAll squareDefinition.read? t)
      (runs isIdentifierChar t) (runs isIdentifierChar (dropSquareDefinitions t)) := by
  refine Matcher.exchanges_replaceAll (Pattern.splits _) (fun hm => ?_) h (.inl fun _ => rfl)
  obtain ⟨mid, htext⟩ := Pattern.exists_text_eq squareDefinition.tail.dropLast hm
  rw [htext]
  refine ⟨?_, ?_⟩
  · exact (by decide : isIdentifierChar 'i' = true)
  · rw [List.getLast?_append]
    exact (by decide : isIdentifierChar '}' = false)

/-- The literal of a call is a run, and the only one of the product. -/
theorem runs_squareProduct_subset {before : Option Char} {t : Text} {m : Match}
    (h : squareCall.read? before t = some m) :
    runs isIdentifierChar (squareProduct m) ⊆ runs isIdentifierChar m.text := by
  obtain ⟨b₁, b₂, ds, b₃, hm, -, hb₂, ⟨hne, hdigit⟩, hb₃⟩ := exists_pieces_of_read?_squareCall h
  have hds : runs isIdentifierChar ds = [ds] :=
    runs_of_forall hne fun c hc => isIdentifierChar_of_isDigit (hdigit c hc)
  have hproduct : runs isIdentifierChar (squareProduct m) = [ds, ds] := by
    have hpiece : m.piece 4 = ds := by rw [Match.piece, hm]; rfl
    have hsign : (" * ".toList ++ ds).head?.any isIdentifierChar = false := rfl
    rw [squareProduct, hpiece, List.append_assoc, runs_append (.inr hsign), hds,
      runs_append (.inl (by decide)), hds]
    rfl
  have htext : m.text = ("square".toList ++ b₁ ++ '(' :: b₂) ++ (ds ++ (b₃ ++ [')'])) := by
    simp [Match.text, hm]
  have hopen : ("square".toList ++ b₁ ++ '(' :: b₂).getLast?.any isIdentifierChar = false := by
    rw [List.getLast?_append]
    rcases List.eq_nil_or_concat b₂ with rfl | ⟨b, c, rfl⟩
    · exact (by decide : isIdentifierChar '(' = false)
    · rw [List.concat_eq_append, ← List.cons_append, List.getLast?_concat]
      exact isIdentifierChar_of_isBlank (hb₂ c (by simp))
  have hclose : (b₃ ++ [')']).head?.any isIdentifierChar = false := by
    cases b₃ with
    | nil => decide
    | cons c b => simpa using isIdentifierChar_of_isBlank (hb₃ c List.mem_cons_self)
  rw [hproduct, htext, runs_append (.inl hopen), runs_append (.inr hclose), hds]
  simp

theorem exchanges_expandCalls {t : Text}
    (hstart : Matcher.StartsApart squareCall.read? isIdentifierChar t)
    (hend : Matcher.EndsApart squareCall.read? isIdentifierChar t) :
    Matcher.Exchanges isIdentifierChar squareProduct (Matcher.findAll squareCall.read? t)
      (runs isIdentifierChar t) (runs isIdentifierChar (expandCalls t)) := by
  refine Matcher.exchanges_replaceAll (Pattern.splits _) (fun hm => ?_) hstart (.inr hend)
  obtain ⟨mid, htext⟩ := Pattern.exists_text_eq squareCall.tail.dropLast hm
  rw [htext]
  refine ⟨?_, ?_⟩
  · exact (by decide : isIdentifierChar 's' = true)
  · rw [List.getLast?_append]
    exact (by decide : isIdentifierChar ')' = false)

/-- **Identifiers stay whole where what is replaced stands apart.**  The statement that adds zero is
    removed without a trace in the identifiers around it if no identifier character stands right before
    it.  The same goes for the definition of the squaring helper, and for the calls that are left then
    if also none stands right after them. -/
theorem keepsRuns_of_startsApart (t : Text) :
    (Matcher.StartsApart (Pattern.read? [.word zeroAddition]) isIdentifierChar t →
      peephole.KeepsRuns t ∧
      Matcher.Exchanges isIdentifierChar (fun _ => [])
        (Matcher.findAll (Pattern.read? [.word zeroAddition]) t) (runs isIdentifierChar t)
        (runs isIdentifierChar (peephole.apply t))) ∧
    (Matcher.StartsApart squareDefinition.read? isIdentifierChar t →
      Matcher.StartsApart squareCall.read? isIdentifierChar (dropSquareDefinitions t) →
      Matcher.EndsApart squareCall.read? isIdentifierChar (dropSquareDefinitions t) →
      inlineExpansion.KeepsRuns t ∧
      Matcher.Exchanges isIdentifierChar (fun _ => []) (Matcher.findAll squareDefinition.read? t)
        (runs isIdentifierChar t) (runs isIdentifierChar (dropSquareDefinitions t)) ∧
      Matcher.Exchanges isIdentifierChar squareProduct
        (Matcher.findAll squareCall.read? (dropSquareDefinitions t))
        (runs isIdentifierChar (dropSquareDefinitions t))
        (runs isIdentifierChar (inlineExpansion.apply t))) := by
  refine ⟨fun hstart => ?_, fun hdefinition hstart hend => ?_⟩
  · have hremoved := exchanges_peephole hstart
    exact ⟨hremoved.subset fun _ _ => List.nil_subset _, hremoved⟩
  · have hremoved := exchanges_dropSquareDefinitions hdefinition
    have hexpanded := exchanges_expandCalls hstart hend
    rw [KeepsRuns, inlineExpansion_apply]
    refine ⟨List.Subset.trans (hexpanded.subset fun m hm => ?_)
      (hremoved.subset fun _ _ => List.nil_subset _), hremoved, hexpanded⟩
    obtain ⟨before, u, hread⟩ := Matcher.exists_of_mem_findAll hm
    exact runs_squareProduct_subset hread

/-- Two statements in a row, and a definition in front of a call. -/
theorem keepsRuns_of_startsApart_adjacent :
    peephole.KeepsRuns "y;x = x + 0;x = x + 0;max = x;".toList ∧
      inlineExpansion.KeepsRuns "inline int square(int v) \x7b\x7dsquare( 12 )+square(7);".toList := by
  have hstatements := keepsRuns_of_startsApart "y;x = x + 0;x = x + 0;max = x;".toList
  have hcalls := keepsRuns_of_startsApart
    "inline int square(int v) \x7b\x7dsquare( 12 )+square(7);".toList
  exact ⟨(hstatements.1 (by decide +kernel)).1,
    (hcalls.2 (by decide +kernel) (by decide +kernel) (by decide +kernel)).1⟩

/-- A longer name that ends in the statement or in the call is cut, and a literal right after a call is
    joined with what is written for it. -/
theorem not_keepsRuns :
    ¬ peephole.KeepsRuns "max = x + 0;".toList ∧
      ¬ inlineExpansion.KeepsRuns "y = mysquare(3);".toList ∧
      ¬ inlineExpansion.KeepsRuns "y = square(3)4;".toList := by
  decide +kernel

end Pass

end Retouch
