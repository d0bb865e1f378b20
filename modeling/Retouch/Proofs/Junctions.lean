/-
  Scans whose replacements do not join with their neighbours.

  What a scan writes may form a new match together with the text around it, so that a second scan
  changes the text again.  Two facts rule this out (`Isolated`): no match runs from copied text into
  a replacement, and none starts inside a replacement.

  * `Pattern.read?_congr_before`, `Pattern.read?_text_append`: a pattern looks at what it takes, at
    the character before and at the one after;
  * `Matcher.Isolated.exists_of_replaceFrom`: a match in what the scan has written is one that was in
    the text, at a place where the scan copied;
  * `Matcher.Isolated.lacks_replaceAll`, `Matcher.Lacks.replaceAll`: such a scan leaves no match, and
    brings about none of another kind.
-/
import Mathlib.Data.List.Find
import Retouch.Proofs.Digits
import Retouch.Proofs.Scanning

namespace Retouch

open Text

/-! ## What a pattern looks at -/

theorem any_or_congr {before before' : Option Char} (h : before.any isWord = before'.any isWord)
    (last : Option Char) : (last.or before).any isWord = (last.or before').any isWord := by
  cases last with
  | none => exact h
  | some c => rfl

namespace Piece

variable {p : Piece} {before before' : Option Char} {t taken rest : Text}

/-- Of the text before it, a piece sees whether it ends with a word character. -/
theorem take?_congr_before (p : Piece) (h : before.any isWord = before'.any isWord) (t : Text) :
    p.take? before t = p.take? before' t := by
  cases p with
  | edge => rw [take?, take?, h]
  | _ => rfl

/-- A piece that looks at no more than one character after what it takes. -/
def IsNear : Piece → Prop
  | word _ | run _ _ | name | edge => True
  | oneOf ws => ∀ w ∈ ws, w.length = 1
  | maybe _ | runTo _ _ | through _ | lineEnd => False

theorem take?_append (hp : p.IsNear) (h : p.take? before t = some (taken, rest)) {rest' : Text}
    (hrest : rest'.head? = rest.head?) : p.take? before (taken ++ rest') = some (taken, rest') := by
  cases p with
  | word w =>
    obtain rfl := takes_word_iff.1 ⟨before, t, rest, h⟩
    exact take?_word taken rest'
  | oneOf ws =>
    obtain ⟨w, hw, heq⟩ := Option.map_eq_some_iff.1 h
    obtain ⟨c, rfl⟩ := List.length_eq_one_iff.1 (hp w (List.mem_of_find?_eq_some hw))
    have hc := List.find?_some hw
    obtain ⟨r, rfl⟩ := List.isPrefixOf_iff_prefix.1 hc
    obtain ⟨rfl, -⟩ := Prod.mk.inj heq
    have hfind : ws.find? (·.isPrefixOf ([c] ++ rest')) = ws.find? (·.isPrefixOf ([c] ++ r)) := by
      refine List.find?_congr fun v hv => ?_
      obtain ⟨d, rfl⟩ := List.length_eq_one_iff.1 (hp v hv)
      simp [List.isPrefixOf]
    rw [take?, hfind, hw]
    simp
  | run least q =>
    obtain ⟨hleast, hall⟩ := takes_run_iff.1 ⟨before, t, rest, h⟩
    refine take?_run hall hleast fun c hc => ?_
    rw [take?] at h
    split at h
    · obtain ⟨-, rfl⟩ := Prod.mk.inj (Option.some.inj h)
      exact head?_dropWhile (hrest ▸ hc)
    · exact absurd h (by simp)
  | name =>
    cases t with
    | nil => exact absurd h (by simp [take?])
    | cons c r =>
      rw [take?] at h
      split at h
      · next hc =>
        obtain ⟨rfl, rfl⟩ := Prod.mk.inj (Option.some.inj h)
        have hall : ∀ d ∈ r.takeWhile isWord, isWord d = true :=
          List.all_eq_true.1 List.all_takeWhile
        have hhead : ∀ d ∈ rest'.head?, isWord d = false := fun d hd => head?_dropWhile (hrest ▸ hd)
        rw [List.cons_append, take?, if_pos hc, takeWhile_append_of_head? hall hhead,
          dropWhile_append_of_head? hall hhead]
      · exact absurd h (by simp)
  | edge =>
    rw [take?] at h
    split at h
    · next hne =>
      obtain ⟨rfl, rfl⟩ := Prod.mk.inj (Option.some.inj h)
      rw [List.nil_append, take?, hrest, if_pos hne]
    · exact absurd h (by simp)
  | maybe | runTo | through | lineEnd => exact hp.elim

/-- A name holds word characters only. -/
theorem not_mem_of_takes_name {c : Char} {w : Text} (h : name.Takes w) (hc : isWord c = false) :
    c ∉ w := by
  obtain ⟨d, u, rfl, hd, hu⟩ := exists_of_takes_name h
  intro hmem
  have hword : isWord c = true := by
    rcases List.mem_cons.1 hmem with rfl | hmem
    · exact isWord_of_isNameStart hd
    · exact hu c hmem
  rw [hword] at hc
  exact absurd hc (by decide)

/-- The piece takes no `c`. -/
def Avoids (c : Char) : Piece → Prop
  | word w => c ∉ w
  | oneOf ws => ∀ w ∈ ws, c ∉ w
  | run _ p => p c = false
  | name => isWord c = false
  | edge => True
  | maybe _ | runTo _ _ | through _ | lineEnd => False

instance (c : Char) (p : Piece) : Decidable (p.Avoids c) :=
  match p with
  | word w => inferInstanceAs (Decidable (c ∉ w))
  | oneOf ws => inferInstanceAs (Decidable (∀ w ∈ ws, c ∉ w))
  | run _ q => inferInstanceAs (Decidable (q c = false))
  | name => inferInstanceAs (Decidable (isWord c = false))
  | edge => isTrue trivial
  | maybe _ | runTo _ _ | through _ | lineEnd => isFalse id

theorem Avoids.not_mem {c : Char} {u : Text} (hp : p.Avoids c) (h : p.Takes u) : c ∉ u := by
  cases p with
  | word w =>
    obtain rfl := takes_word_iff.1 h
    exact hp
  | oneOf ws => exact hp u (mem_of_takes_oneOf h)
  | run least q =>
    intro hmem
    have hc : q c = false := hp
    rw [(takes_run_iff.1 h).2 c hmem] at hc
    exact absurd hc (by decide)
  | name => exact not_mem_of_takes_name h hp
  | edge =>
    obtain rfl := eq_nil_of_takes_edge h
    exact List.not_mem_nil
  | maybe | runTo | through | lineEnd => exact hp.elim

end Piece

namespace Pattern

variable {ps : Pattern} {before before' : Option Char} {t : Text} {m : Match}

theorem read?_congr_before (ps : Pattern) (h : before.any isWord = before'.any isWord) (t : Text) :
    ps.read? before t = ps.read? before' t := by
  induction ps generalizing before before' t with
  | nil => rfl
  | cons p ps ih =>
    rw [read?, read?, Piece.take?_congr_before p h]
    split
    · rfl
    · next taken rest _ =>
      rw [ih (any_or_congr h taken.getLast?)]

/-- A pattern is read in two parts. -/
theorem read?_append (ps qs : Pattern) (before : Option Char) (t : Text) :
    read? (ps ++ qs) before t = (ps.read? before t).bind fun m =>
      (qs.read? (m.text.getLast?.or before) m.rest).map fun m' =>
        ⟨m.pieces ++ m'.pieces, m'.rest⟩ := by
  induction ps generalizing before t with
  | nil => simp [read?, Match.text]
  | cons p ps ih =>
    rw [List.cons_append, read?, read?]
    cases p.take? before t with
    | none => rfl
    | some u =>
      obtain ⟨taken, rest⟩ := u
      simp only [ih]
      cases read? ps (taken.getLast?.or before) rest with
      | none => rfl
      | some m =>
        have hlast : (Match.text ⟨taken :: m.pieces, m.rest⟩).getLast?.or before =
            m.text.getLast?.or (taken.getLast?.or before) := by
          exact getLast?_append_or taken m.text before
        simp only [Option.bind_some, hlast]
        cases qs.read? (m.text.getLast?.or (taken.getLast?.or before)) m.rest with
        | none => rfl
        | some m' => rfl

theorem read?_word {w : Text} :
    read? [.word w] before t = some m ↔ m.pieces = [w] ∧ t = w ++ m.rest := by
  constructor
  · intro h
    have hm := forall₂_takes h
    simp only [List.forall₂_cons_left_iff, List.forall₂_nil_left_iff, Piece.takes_word_iff] at hm
    obtain ⟨_, _, rfl, rfl, hm⟩ := hm
    refine ⟨hm, ?_⟩
    rw [← append_read? h, Match.text, hm]
    simp
  · obtain ⟨pieces, rest⟩ := m
    rintro ⟨rfl, rfl⟩
    exact read?_cons (Piece.take?_word w rest) rfl

/-- A match has no `c` if no piece of its pattern takes one. -/
theorem not_mem_text {c : Char} (hps : ∀ p ∈ ps, p.Avoids c) (h : ps.read? before t = some m) :
    c ∉ m.text := by
  induction ps generalizing before t m with
  | nil =>
    obtain rfl := Option.some.inj h
    exact List.not_mem_nil
  | cons p ps ih =>
    rw [List.forall_mem_cons] at hps
    obtain ⟨taken, rest, m', hp, hm, rfl⟩ := exists_of_read?_cons h
    rw [Match.text, List.flatten_cons, List.mem_append, not_or]
    exact ⟨hps.1.not_mem ⟨before, t, rest, hp⟩, ih hps.2 hm⟩

/-- Another text after the match is read in the same way if it starts alike. -/
theorem read?_text_append (hps : ∀ p ∈ ps, p.IsNear) (h : ps.read? before t = some m)
    {rest' : Text} (hrest : rest'.head? = m.rest.head?) :
    ps.read? before (m.text ++ rest') = some ⟨m.pieces, rest'⟩ := by
  induction ps generalizing before t m with
  | nil =>
    obtain rfl := Option.some.inj h
    rfl
  | cons p ps ih =>
    rw [List.forall_mem_cons] at hps
    obtain ⟨taken, rest, m', hp, hm, rfl⟩ := exists_of_read?_cons h
    have hhead : (m'.text ++ rest').head? = rest.head? := by
      rw [← append_read? hm, List.head?_append, List.head?_append, hrest]
    have htake := Piece.take?_append hps.1 hp hhead
    rw [← List.append_assoc] at htake
    exact read?_cons htake (ih hps.2 hm hrest)

/-- After a word at the end of the pattern, any text may follow. -/
theorem read?_text_append_of_word (ps : Pattern) {w : Text} (hps : ∀ p ∈ ps, p.IsNear)
    (hw : w ≠ []) (h : read? (ps ++ [.word w]) before t = some m) (rest' : Text) :
    read? (ps ++ [.word w]) before (m.text ++ rest') = some ⟨m.pieces, rest'⟩ := by
  rw [read?_append, Option.bind_eq_some_iff] at h
  obtain ⟨m₁, h₁, hmap⟩ := h
  obtain ⟨m₂, h₂, rfl⟩ := Option.map_eq_some_iff.1 hmap
  obtain ⟨hpieces, hrest⟩ := read?_word.1 h₂
  have hhead : (w ++ rest').head? = m₁.rest.head? := by
    obtain ⟨c, w, rfl⟩ := List.exists_cons_of_ne_nil hw
    rw [hrest]
    rfl
  have htext : Match.text ⟨m₁.pieces ++ m₂.pieces, m₂.rest⟩ ++ rest' = m₁.text ++ (w ++ rest') := by
    simp [Match.text, hpieces]
  rw [htext, read?_append, read?_text_append hps h₁ hhead, Option.bind_some, hpieces]
  rw [read?_word (m := ⟨[w], rest'⟩) |>.2 ⟨rfl, rfl⟩]
  rfl

end Pattern

/-! ## Scans -/

namespace Matcher

/-- A matcher that sees of the text around a match only whether it is cut off from it in the middle
    of a word. -/
structure IsWordwise (h : Matcher) : Prop where
  splits : h.Splits
  text_ne_nil : ∀ {before t m}, h before t = some m → m.text ≠ []
  congr_before : ∀ {before before'} (t), before.any isWord = before'.any isWord →
    h before t = h before' t
  isSome_append : ∀ {before t m} (rest), h before t = some m →
    rest.head?.any isWord = m.rest.head?.any isWord → (h before (m.text ++ rest)).isSome

theorem IsWordwise.length_rest_lt {h : Matcher} (hh : h.IsWordwise) {before : Option Char} {t : Text}
    {m : Match} (hm : h before t = some m) : m.rest.length < t.length :=
  Splits.length_rest_lt (f := h) hh.splits hm (hh.text_ne_nil hm)

/-- A pattern that ends with a word sees nothing of what follows it. -/
theorem isWordwise_of_word (ps : Pattern) {w : Text} (hps : ∀ p ∈ ps, p.IsNear) (hw : w ≠ []) :
    IsWordwise (Pattern.read? (ps ++ [.word w])) where
  splits := Pattern.splits _
  text_ne_nil h := by
    rw [Pattern.read?_append, Option.bind_eq_some_iff] at h
    obtain ⟨m₁, -, hmap⟩ := h
    obtain ⟨m₂, h₂, rfl⟩ := Option.map_eq_some_iff.1 hmap
    simp [Match.text, (Pattern.read?_word.1 h₂).1, hw]
  congr_before t h := Pattern.read?_congr_before _ h t
  isSome_append rest h _ :=
    Option.isSome_of_eq_some (Pattern.read?_text_append_of_word ps hps hw h rest)

/-- What `g` writes for the matches of `f` stands apart from the matches of `h`, those in `ok`
    excepted. -/
structure Isolated (f : Matcher) (g : Match → Text) (h : Matcher) (ok : Match → Prop) : Prop where
  ne_nil : ∀ {before t m}, f before t = some m → g m ≠ []
  head_eq : ∀ {before t m}, f before t = some m →
    (g m).head?.any isWord = m.text.head?.any isWord
  getLast_eq : ∀ {before t m}, f before t = some m →
    (g m).getLast?.any isWord = m.text.getLast?.any isWord
  /-- A match does not run into a replacement. -/
  front : ∀ {before t s m m' x y u v}, h before t = some m → m.text = x ++ y → x ≠ [] → y ≠ [] →
    f x.getLast? s = some m' → g m' ++ u ≠ y ++ v
  /-- A match does not start inside a replacement. -/
  inner : ∀ {before t m m' x y u}, f before t = some m' → g m' = x ++ y → y ≠ [] →
    h (x.getLast?.or before) (y ++ u) = some m → ok m

theorem replaceFrom_eq_self {f : Matcher} {g : Match → Text} (hf : f.IsWordwise)
    {before : Option Char} {t : Text}
    (h : ∀ a b m, t = a ++ b → f (a.getLast?.or before) b = some m → g m = m.text) :
    f.replaceFrom g before t = t := by
  induction before, t using scanFromInduction f hf.length_rest_lt with
  | nil before => exact replaceFrom_nil before
  | copy before c r hm ih =>
    rw [replaceFrom_cons hm, ih]
    intro a b m hr hb
    refine h (c :: a) b m (by rw [hr, List.cons_append]) ?_
    rw [← hb, getLast?_cons_or]
  | hit before t m hm ih =>
    rw [replaceFrom_of_eq_some hm (hf.length_rest_lt hm), h [] t m rfl hm, ih, hf.splits hm]
    intro a b m' hr hb
    refine h (m.text ++ a) b m' (by rw [List.append_assoc, ← hr, hf.splits hm]) ?_
    rw [← hb, getLast?_append_or]

/-- A text in which all matches stay as they are is left as it is. -/
theorem replaceAll_eq_self {f : Matcher} {g : Match → Text} (hf : f.IsWordwise) {t : Text}
    (h : ∀ a b m, t = a ++ b → f a.getLast? b = some m → g m = m.text) : f.replaceAll g t = t := by
  refine replaceFrom_eq_self hf fun a b m hab hm => h a b m hab ?_
  rwa [Option.or_none] at hm

/-- There is no match at any place of `t`. -/
def Lacks (f : Matcher) (t : Text) : Prop := ∀ a b, t = a ++ b → f a.getLast? b = none

theorem Lacks.replaceAll_eq_self {f : Matcher} {t : Text} (h : f.Lacks t) (hf : f.IsWordwise)
    (g : Match → Text) : f.replaceAll g t = t := by
  refine Matcher.replaceAll_eq_self hf fun a b m hab hm => ?_
  rw [h a b hab] at hm
  exact absurd hm (by simp)

/-- At some place of `t` there is a match of `h` and none of `f`; `before` is the character in front
    of `t`. -/
def FindsBeside (f h : Matcher) (before : Option Char) (t : Text) : Prop :=
  ∃ a b, t = a ++ b ∧ f (a.getLast?.or before) b = none ∧ (h (a.getLast?.or before) b).isSome

theorem FindsBeside.append {f h : Matcher} {before : Option Char} (u : Text) {t : Text}
    (hfind : FindsBeside f h (u.getLast?.or before) t) : FindsBeside f h before (u ++ t) := by
  obtain ⟨a, b, rfl, hnone, hsome⟩ := hfind
  rw [← getLast?_append_or] at hnone hsome
  exact ⟨u ++ a, b, (List.append_assoc u a b).symm, hnone, hsome⟩

namespace Isolated

variable {f h : Matcher} {g : Match → Text} {ok : Match → Prop} {before before' : Option Char}
  {t a b : Text} {m : Match}

theorem head?_replaceFrom (hf : f.IsWordwise) (hfg : f.Isolated g h ok) (before : Option Char)
    (t : Text) : (f.replaceFrom g before t).head?.any isWord = t.head?.any isWord := by
  cases t with
  | nil => rw [replaceFrom_nil]
  | cons c r =>
    cases hm : f before (c :: r) with
    | none => rw [replaceFrom_cons hm]; rfl
    | some m =>
      have hsplit := hf.splits hm
      obtain ⟨d, u, hd⟩ := List.exists_cons_of_ne_nil (hf.text_ne_nil hm)
      obtain ⟨e, v, he⟩ := List.exists_cons_of_ne_nil (hfg.ne_nil hm)
      have hhead := hfg.head_eq hm
      rw [replaceFrom_of_eq_some hm (hf.length_rest_lt hm), ← hsplit, hd, he]
      rwa [hd, he] at hhead

/-- A match that goes on into what the scan has written goes on in the same way in the text. -/
theorem exists_of_append_eq_text (hf : f.IsWordwise) (hfg : f.Isolated g h ok)
    {x y z : Text} (hm : h before a = some m) (hxy : m.text = x ++ y) (hx : x ≠ [])
    (hout : f.replaceFrom g x.getLast? t = y ++ z) :
    ∃ z', t = y ++ z' ∧ z'.head?.any isWord = z.head?.any isWord := by
  induction y generalizing x t with
  | nil =>
    refine ⟨t, rfl, ?_⟩
    rw [← hfg.head?_replaceFrom hf x.getLast?, hout]
    rfl
  | cons d y ih =>
    cases t with
    | nil => exact absurd hout (by simp)
    | cons c r =>
      cases hm' : f x.getLast? (c :: r) with
      | some m' =>
        rw [replaceFrom_of_eq_some hm' (hf.length_rest_lt hm')] at hout
        exact absurd hout (hfg.front hm hxy hx (List.cons_ne_nil d y) hm')
      | none =>
        rw [replaceFrom_cons hm', List.cons_append] at hout
        obtain ⟨rfl, hout⟩ := List.cons.inj hout
        have hlast : (x ++ [c]).getLast? = some c := by simp
        obtain ⟨z', rfl, hz⟩ := ih (x := x ++ [c]) (by rw [hxy]; simp) (by simp) (by rwa [hlast])
        exact ⟨z', rfl, hz⟩

/-- A scan that goes on after a match goes on after a text of the same kind. -/
theorem any_getLast?_or (hf : f.IsWordwise) (hfg : f.Isolated g h ok) (hm : f before t = some m)
    (before' : Option Char) :
    (m.text.getLast?.or before).any isWord = ((g m).getLast?.or before').any isWord := by
  rw [getLast?_or_of_ne_nil (hf.text_ne_nil hm), getLast?_or_of_ne_nil (hfg.ne_nil hm),
    hfg.getLast_eq hm]

/-- **No new matches**: a match in what the scan has written is one that was in the text, at a place
    where the scan copied. -/
theorem exists_of_replaceFrom (hf : f.IsWordwise) (hh : h.IsWordwise) (hfg : f.Isolated g h ok)
    (hb : before.any isWord = before'.any isWord) (hout : f.replaceFrom g before t = a ++ b)
    (hm : h (a.getLast?.or before') b = some m) : ok m ∨ FindsBeside f h before t := by
  induction before, t using scanFromInduction f hf.length_rest_lt generalizing a before' with
  | nil before =>
    rw [replaceFrom_nil] at hout
    obtain ⟨rfl, rfl⟩ := List.append_eq_nil_iff.1 hout.symm
    have hnil := hh.splits hm
    exact absurd (List.append_eq_nil_iff.1 hnil).1 (hh.text_ne_nil hm)
  | copy before c r hc ih =>
    rw [replaceFrom_cons hc] at hout
    cases a with
    | nil =>
      right
      have hm' : h before b = some m := (hh.congr_before b hb).trans hm
      obtain ⟨d, y, hd⟩ := List.exists_cons_of_ne_nil (hh.text_ne_nil hm')
      have hsplit := hh.splits hm'
      rw [List.nil_append] at hout
      rw [← hout, hd, List.cons_append] at hsplit
      obtain ⟨rfl, hr⟩ := List.cons.inj hsplit
      obtain ⟨z, rfl, hz⟩ := hfg.exists_of_append_eq_text hf hm' (x := [d]) hd (by simp) hr.symm
      refine ⟨[], _, rfl, hc, ?_⟩
      have hsome := hh.isSome_append z hm' hz
      rwa [hd] at hsome
    | cons d a =>
      obtain ⟨rfl, hout'⟩ := List.cons.inj hout
      rw [getLast?_cons_or] at hm
      exact (ih rfl hout' hm).imp_right fun hfind => hfind.append [c]
  | hit before t m' hm' ih =>
    have hafter : ∀ a₁, f.replaceFrom g (m'.text.getLast?.or before) m'.rest = a₁ ++ b →
        h (a₁.getLast?.or ((g m').getLast?.or before')) b = some m →
        ok m ∨ FindsBeside f h before t := by
      intro a₁ hout₁ hm₁
      rw [← hf.splits hm']
      exact (ih (hfg.any_getLast?_or hf hm' before') hout₁ hm₁).imp_right
        fun hfind => hfind.append m'.text
    rw [replaceFrom_of_eq_some hm' (hf.length_rest_lt hm')] at hout
    rcases List.append_eq_append_iff.1 hout with ⟨a₁, rfl, hout₁⟩ | ⟨y, hy, rfl⟩
    · exact hafter a₁ hout₁ (by rwa [getLast?_append_or] at hm)
    · by_cases hnil : y = []
      · subst hnil
        rw [List.append_nil] at hy
        exact hafter [] rfl (by rwa [hy])
      · rw [← hh.congr_before _ (any_or_congr hb a.getLast?)] at hm
        exact .inl (hfg.inner hm' hy hnil hm)

/-- What a scan has written holds matches in `ok` only. -/
theorem ok_of_replaceAll (hf : f.IsWordwise) (hfg : f.Isolated g f ok)
    (hout : f.replaceAll g t = a ++ b) (hm : f a.getLast? b = some m) : ok m := by
  rcases hfg.exists_of_replaceFrom hf hf rfl hout (by rwa [Option.or_none]) with
    hok | ⟨a', b', -, hnone, hsome⟩
  · exact hok
  · rw [hnone] at hsome
    exact absurd hsome (by decide)

/-- A scan leaves no match if there are none in what it writes. -/
theorem lacks_replaceAll (hf : f.IsWordwise) (hfg : f.Isolated g f fun _ => False) (t : Text) :
    f.Lacks (f.replaceAll g t) := by
  intro a b hab
  cases hm : f a.getLast? b with
  | none => rfl
  | some m => exact (hfg.ok_of_replaceAll hf hab hm).elim

end Isolated

/-- A scan brings back no match of another kind if there are none in what it writes. -/
theorem Lacks.replaceAll {f h : Matcher} {g : Match → Text} {t : Text} (ht : h.Lacks t)
    (hf : f.IsWordwise) (hh : h.IsWordwise) (hfg : f.Isolated g h fun _ => False) :
    h.Lacks (f.replaceAll g t) := by
  intro a b hab
  cases hm : h a.getLast? b with
  | none => rfl
  | some m =>
    rcases hfg.exists_of_replaceFrom hf hh rfl hab (by rwa [Option.or_none]) with
      hok | ⟨a', b', hab', -, hsome⟩
    · exact hok.elim
    · rw [Option.or_none, ht a' b' hab'] at hsome
      exact absurd hsome (by decide)

end Matcher

end Retouch
