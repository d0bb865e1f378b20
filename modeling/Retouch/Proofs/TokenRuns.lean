/-
  Tokens and the runs of word characters in a text.

  The words of a text are its longest runs of word characters, if they have two or more characters.
  A run is longest if it lies inside no other one, which is so if no character of its kind stands
  beside it (`maximal_isRun_iff`).

  The scan for words takes each run whole.  A search that gives back the end of a run, one character
  after another, would find nothing more: where the run is cut short there is no edge
  (`Pattern.firm_tokenPattern`).

  * `mem_locate_tokenPattern`: the scan finds a word at each place where one stands, and nowhere else;
  * `words_eq_filter_runs`: the words are the runs of the text without those of one character;
  * `tokens_eq_maximal_runs`: the tokens are the longest runs, in order and in lower case.
-/
import Mathlib.Order.Defs.Unbundled
import Retouch.Proofs.Backtracking
import Retouch.Proofs.IdentifierRuns

namespace Retouch

open Text

/-! ## Longest runs -/

namespace Extent

/-- Parts are ordered by what lies inside what. -/
instance : LE Extent := ⟨Inside⟩

/-- A part of `t` that consists of characters with `p`. -/
structure IsRun (p : Char → Bool) (t : Text) (o : Extent) : Prop where
  stands : ∃ u v, t = u ++ (o.text ++ v) ∧ o.start = u.length
  forall_mem : ∀ c ∈ o.text, p c = true

/-- The part stands in `t` and no character with `p` is beside it.  In front of `t` there are `n`
    characters, and `before` is the last one of them. -/
def StandsApart (p : Char → Bool) (n : Nat) (before : Option Char) (t : Text) (o : Extent) : Prop :=
  ∃ u v, t = u ++ (o.text ++ v) ∧ o.start = n + u.length ∧
    (u.getLast?.or before).any p = false ∧ v.head?.any p = false

section Runs

variable {p : Char → Bool} {t : Text} {o : Extent}

theorem IsRun.any_getElem? (h : IsRun p t o) {i : Nat} (hstart : o.start ≤ i) (hstop : i < o.stop) :
    t[i]?.any p = true := by
  obtain ⟨u, v, rfl, hu⟩ := h.stands
  have hlt : i - u.length < o.text.length := by
    rw [stop] at hstop
    omega
  rw [List.getElem?_append_right (hu ▸ hstart), List.getElem?_append_left hlt,
    List.getElem?_eq_getElem hlt]
  exact h.forall_mem _ (List.getElem_mem hlt)

theorem isRun_takeWhile (p : Char → Bool) (t : Text) : IsRun p t ⟨0, t.takeWhile p⟩ where
  stands := ⟨[], t.dropWhile p, List.takeWhile_append_dropWhile.symm, rfl⟩
  forall_mem := List.all_eq_true.1 List.all_takeWhile

/-- A run with a character of its kind beside it lies inside a longer one. -/
theorem standsApart_of_maximal (h : Maximal (IsRun p t) o) : o.StandsApart p 0 none t := by
  obtain ⟨⟨⟨u, v, ht, hstart⟩, hall⟩, hmax⟩ := h
  refine ⟨u, v, ht, by omega, ?_, ?_⟩
  · rw [Option.or_none, Bool.eq_false_iff]
    intro hlast
    rcases List.eq_nil_or_concat u with rfl | ⟨u, c, rfl⟩
    · exact absurd hlast (by simp)
    · rw [List.concat_eq_append] at ht hstart hlast
      have hlonger : IsRun p t ⟨u.length, c :: o.text⟩ :=
        ⟨⟨u, v, by simp [ht], rfl⟩, List.forall_mem_cons.2 ⟨by simpa using hlast, hall⟩⟩
      rw [List.length_append, List.length_singleton] at hstart
      have hle : o ≤ ⟨u.length, c :: o.text⟩ := by
        refine ⟨?_, ?_⟩ <;> simp only [stop, List.length_cons] <;> omega
      have hback : o.start ≤ u.length := (hmax hlonger hle).1
      omega
  · rw [Bool.eq_false_iff]
    intro hhead
    cases v with
    | nil => exact absurd hhead (by simp)
    | cons c v =>
      have hlonger : IsRun p t ⟨o.start, o.text ++ [c]⟩ :=
        ⟨⟨u, v, by simp [ht], hstart⟩, List.forall_mem_append.2
          ⟨hall, List.forall_mem_singleton.2 (by simpa using hhead)⟩⟩
      have hle : o ≤ ⟨o.start, o.text ++ [c]⟩ := by
        refine ⟨Nat.le_refl _, ?_⟩
        simp only [stop, List.length_append]
        omega
      have hback : o.start + (o.text ++ [c]).length ≤ o.stop := (hmax hlonger hle).2
      rw [stop, List.length_append, List.length_singleton] at hback
      omega

/-- **A run is longest if no character of its kind stands beside it.** -/
theorem maximal_isRun_iff :
    Maximal (IsRun p t) o ↔ o.StandsApart p 0 none t ∧ ∀ c ∈ o.text, p c = true := by
  constructor
  · intro h
    exact ⟨standsApart_of_maximal h, h.1.forall_mem⟩
  · rintro ⟨⟨u, v, ht, hstart, hlast, hhead⟩, hall⟩
    rw [Nat.zero_add] at hstart
    refine ⟨⟨⟨u, v, ht, hstart⟩, hall⟩, fun o' hrun hle => ⟨?_, ?_⟩⟩
    · -- otherwise the last character of `u` is in the other run
      by_contra hlt
      have hu : u.length - 1 < u.length := by omega
      have hin : u.length - 1 < o'.stop := by
        have hstop : o.start + o.text.length ≤ o'.stop := hle.2
        omega
      have hp := hrun.any_getElem? (by omega) hin
      rw [ht, List.getElem?_append_left hu, ← List.getLast?_eq_getElem?] at hp
      rw [Option.or_none, hp] at hlast
      exact absurd hlast (by decide)
    · -- otherwise the first character of `v` is in the other run
      by_contra hlt
      have hin : o'.start ≤ o.stop := Nat.le_trans hle.1 (Nat.le_add_right _ _)
      have hp := hrun.any_getElem? hin (Nat.lt_of_not_le hlt)
      rw [ht, ← List.append_assoc, List.getElem?_append_right (by simp [stop, hstart]), stop, hstart,
        List.length_append, Nat.sub_self, ← List.head?_eq_getElem?, hhead] at hp
      exact absurd hp (by decide)

end Runs

section StandsApart

variable {p : Char → Bool} {n : Nat} {before : Option Char} {t u v : Text} {c : Char} {o : Extent}

/-- The part stands at the front of `t` and no character with `p` is beside it. -/
def StandsFirst (p : Char → Bool) (n : Nat) (before : Option Char) (t : Text) (o : Extent) : Prop :=
  o.start = n ∧ before.any p = false ∧ ∃ v, t = o.text ++ v ∧ v.head?.any p = false

theorem standsFirst_iff : o.StandsFirst p n before t ∧ (∀ c ∈ o.text, p c = true) ↔
    before.any p = false ∧ o = ⟨n, t.takeWhile p⟩ := by
  constructor
  · rintro ⟨⟨hstart, hbefore, v, rfl, hhead⟩, hall⟩
    have hstop : ∀ c ∈ v.head?, p c = false := by
      intro c hc
      rw [hc] at hhead
      exact hhead
    refine ⟨hbefore, ?_⟩
    rw [takeWhile_append_of_head? hall hstop, ← hstart]
  · rintro ⟨hbefore, rfl⟩
    exact ⟨⟨rfl, hbefore, t.dropWhile p, List.takeWhile_append_dropWhile.symm,
      any_head?_dropWhile p t⟩, (isRun_takeWhile p t).forall_mem⟩

/-- A part stands apart at the front of a text or further on. -/
theorem standsApart_cons : o.StandsApart p n before (c :: t) ↔
    o.StandsFirst p n before (c :: t) ∨ o.StandsApart p (n + 1) (some c) t := by
  constructor
  · rintro ⟨u, v, ht, hstart, hlast, hhead⟩
    cases u with
    | nil => exact .inl ⟨hstart, hlast, v, ht, hhead⟩
    | cons d u =>
      obtain ⟨rfl, rfl⟩ := List.cons.inj ht
      rw [getLast?_cons_or] at hlast
      rw [List.length_cons] at hstart
      exact .inr ⟨u, v, rfl, by omega, hlast, hhead⟩
  · rintro (⟨hstart, hbefore, v, ht, hhead⟩ | ⟨u, v, rfl, hstart, hlast, hhead⟩)
    · exact ⟨[], v, ht, hstart, hbefore, hhead⟩
    · rw [← getLast?_cons_or c u before] at hlast
      exact ⟨c :: u, v, rfl, by rw [List.length_cons]; omega, hlast, hhead⟩

/-- Inside a run nothing stands apart. -/
theorem standsApart_of_run (hbefore : before.any p = true) (hu : ∀ c ∈ u, p c = true) :
    o.StandsApart p n before (u ++ v) ↔
      o.StandsApart p (n + u.length) (u.getLast?.or before) v := by
  induction u generalizing n before with
  | nil => rfl
  | cons c u ih =>
    rw [List.forall_mem_cons] at hu
    rw [List.cons_append, standsApart_cons, ih (by simpa using hu.1) hu.2, getLast?_cons_or,
      List.length_cons, Nat.add_right_comm, Nat.add_assoc]
    refine or_iff_right ?_
    rintro ⟨-, hno, -⟩
    rw [hno] at hbefore
    exact absurd hbefore (by decide)

/-- Where a run starts, a part stands apart at the front or behind the run. -/
theorem standsApart_takeWhile (hne : t.takeWhile p ≠ []) :
    o.StandsApart p n before t ↔ o.StandsFirst p n before t ∨
      o.StandsApart p (n + (t.takeWhile p).length) ((t.takeWhile p).getLast?.or before)
        (t.dropWhile p) := by
  cases t with
  | nil => exact absurd List.takeWhile_nil hne
  | cons c t =>
    by_cases hc : p c = true
    · have hrun : o.StandsApart p (n + 1) (some c) (t.takeWhile p ++ t.dropWhile p) ↔
          o.StandsApart p (n + 1 + (t.takeWhile p).length) ((t.takeWhile p).getLast?.or (some c))
            (t.dropWhile p) :=
        standsApart_of_run hc (isRun_takeWhile p t).forall_mem
      rw [List.takeWhile_append_dropWhile] at hrun
      rw [standsApart_cons, hrun, List.takeWhile_cons_of_pos hc, List.dropWhile_cons_of_pos hc,
        getLast?_cons_or, List.length_cons, Nat.add_right_comm, Nat.add_assoc]
    · exact absurd (List.takeWhile_cons_of_neg hc) hne

end StandsApart

end Extent

theorem Text.any_getElem?_of_lt_takeWhile {p : Char → Bool} {t : Text} {i : Nat}
    (h : i < (t.takeWhile p).length) : t[i]?.any p = true :=
  (Extent.isRun_takeWhile p t).any_getElem? (Nat.zero_le i) (by rwa [Extent.stop, Nat.zero_add])

/-! ## The scan for words -/

/-- A word is found at the front of a text if it is not the rest of a longer one. -/
theorem read?_tokenPattern (before : Option Char) (t : Text) :
    tokenPattern.read? before t =
      if 2 ≤ (t.takeWhile isWord).length ∧ before.any isWord = false then
        some ⟨[[], t.takeWhile isWord, []], t.dropWhile isWord⟩
      else none := by
  rw [tokenPattern, Pattern.read?_edge]
  by_cases hlen : 2 ≤ (t.takeWhile isWord).length
  · have hne : t.takeWhile isWord ≠ [] := List.ne_nil_of_length_pos (by omega)
    have hhead : t.head?.any isWord = true := by
      rw [List.head?_eq_getElem?]
      exact any_getElem?_of_lt_takeWhile (by omega)
    have hrun : Pattern.read? [.run 2 isWord, .edge] before t =
        some ⟨[t.takeWhile isWord, []], t.dropWhile isWord⟩ :=
      Pattern.read?_cons (by rw [Piece.take?, if_pos hlen])
        (Pattern.read?_edge_dropWhile hne (List.all_eq_true.1 List.all_takeWhile) before t)
    rw [hrun, hhead]
    cases before.any isWord <;> simp [hlen]
  · have hrun : Pattern.read? [.run 2 isWord, .edge] before t = none :=
      Pattern.read?_cons_of_eq_none (by rw [Piece.take?, if_neg hlen])
    simp [hrun, hlen]

theorem eq_of_read?_tokenPattern {before : Option Char} {t : Text} {m : Match}
    (h : tokenPattern.read? before t = some m) :
    2 ≤ (t.takeWhile isWord).length ∧ before.any isWord = false ∧
      m.text = t.takeWhile isWord ∧ m.rest = t.dropWhile isWord := by
  rw [read?_tokenPattern] at h
  split at h
  · next hword =>
    obtain rfl := Option.some.inj h
    exact ⟨hword.1, hword.2, List.append_nil _, rfl⟩
  · exact absurd h (by simp)

theorem length_rest_lt_of_tokenPattern {before : Option Char} {t : Text} {m : Match}
    (h : tokenPattern.read? before t = some m) : m.rest.length < t.length := by
  obtain ⟨hlen, -, htext, -⟩ := eq_of_read?_tokenPattern h
  refine Pattern.length_rest_lt h (List.ne_nil_of_length_pos ?_)
  rw [htext]
  omega

/-- The scan finds the words where they stand, and nothing else. -/
theorem mem_locate_tokenPattern {n : Nat} {before : Option Char} {t : Text} {o : Extent} :
    o ∈ (Matcher.locate n (Matcher.segmentsFrom tokenPattern.read? before t)).map Prod.fst ↔
      o.StandsApart isWord n before t ∧ (∀ c ∈ o.text, isWord c = true) ∧ 2 ≤ o.text.length := by
  induction before, t using Matcher.scanFromInduction tokenPattern.read?
    length_rest_lt_of_tokenPattern generalizing n with
  | nil before =>
    rw [Matcher.segmentsFrom]
    refine iff_of_false List.not_mem_nil ?_
    rintro ⟨⟨u, v, ht, -⟩, -, hlen⟩
    have hnil := (List.append_eq_nil_iff.1 (List.append_eq_nil_iff.1 ht.symm).2).1
    rw [hnil] at hlen
    exact absurd hlen (by decide)
  | copy before c r hm ih =>
    rw [Matcher.segmentsFrom_cons hm, Matcher.locate, ih, Extent.standsApart_cons]
    refine and_congr_left fun hword => (or_iff_right fun hfirst => ?_).symm
    obtain ⟨hbefore, rfl⟩ := Extent.standsFirst_iff.1 ⟨hfirst, hword.1⟩
    rw [read?_tokenPattern, if_pos ⟨hword.2, hbefore⟩] at hm
    exact absurd hm (by simp)
  | hit before t m hm ih =>
    obtain ⟨hlen, hbefore, htext, hrest⟩ := eq_of_read?_tokenPattern hm
    have hne : t.takeWhile isWord ≠ [] := List.ne_nil_of_length_pos (by omega)
    rw [Matcher.segmentsFrom_of_eq_some hm (length_rest_lt_of_tokenPattern hm), Matcher.locate,
      List.map_cons, List.mem_cons, ih, htext, hrest, Extent.standsApart_takeWhile hne]
    constructor
    · rintro (rfl | ⟨hlater, hword⟩)
      · obtain ⟨hfirst, hall⟩ := Extent.standsFirst_iff.2 ⟨hbefore, rfl⟩
        exact ⟨.inl hfirst, hall, hlen⟩
      · exact ⟨.inr hlater, hword⟩
    · rintro ⟨hfirst | hlater, hword⟩
      · exact .inl (Extent.standsFirst_iff.1 ⟨hfirst, hword.1⟩).2
      · exact .inr ⟨hlater, hword⟩

/-! ## Words as runs -/

/-- The scan splits a text into runs, if it does not start in the middle of one. -/
theorem map_text_segmentsFrom_tokenPattern {before : Option Char} {t : Text}
    (h : before.any isWord = false ∨ t.head?.any isWord = false) :
    ((Matcher.segmentsFrom tokenPattern.read? before t).filterMap Segment.match?).map Match.text =
      (runs isWord t).filter (2 ≤ ·.length) := by
  induction before, t using Matcher.scanFromInduction tokenPattern.read?
    length_rest_lt_of_tokenPattern with
  | nil before =>
    rw [Matcher.segmentsFrom]
    rfl
  | copy before c r hm ih =>
    rw [Matcher.segmentsFrom_cons hm]
    change ((Matcher.segmentsFrom tokenPattern.read? (some c) r).filterMap Segment.match?).map
      Match.text = _
    by_cases hc : isWord c = true
    · -- no word is found here, so that this one has a single character
      have hbefore : before.any isWord = false := by
        refine h.resolve_right ?_
        simpa using hc
      have hhead : r.head?.any isWord = false := by
        cases r with
        | nil => rfl
        | cons d r =>
          rw [List.head?_cons, Option.any_some, Bool.eq_false_iff]
          intro hd
          have hlen : 2 ≤ ((c :: d :: r).takeWhile isWord).length := by
            rw [List.takeWhile_cons_of_pos hc, List.takeWhile_cons_of_pos hd]
            simp
          rw [read?_tokenPattern, if_pos ⟨hlen, hbefore⟩] at hm
          exact absurd hm (by simp)
      rw [ih (.inr hhead), ← List.singleton_append, runs_append (.inr hhead),
        runs_of_forall (List.cons_ne_nil c []) (List.forall_mem_singleton.2 hc)]
      rfl
    · rw [ih (.inl (by simpa using hc)), runs_cons (by simpa using hc)]
  | hit before t m hm ih =>
    obtain ⟨hlen, -, htext, hrest⟩ := eq_of_read?_tokenPattern hm
    have hne : t.takeWhile isWord ≠ [] := List.ne_nil_of_length_pos (by omega)
    have hruns : runs isWord t = t.takeWhile isWord :: runs isWord (t.dropWhile isWord) := by
      have hcut := runs_append (u := t.takeWhile isWord) (.inr (any_head?_dropWhile isWord t))
      rwa [List.takeWhile_append_dropWhile,
        runs_of_forall hne (List.all_eq_true.1 List.all_takeWhile)] at hcut
    rw [Matcher.segmentsFrom_of_eq_some hm (length_rest_lt_of_tokenPattern hm)]
    change m.text :: ((Matcher.segmentsFrom tokenPattern.read? _ m.rest).filterMap
      Segment.match?).map Match.text = _
    rw [hrest] at ih ⊢
    rw [ih (.inr (any_head?_dropWhile isWord t)), htext, hruns,
      List.filter_cons_of_pos (by simpa using hlen)]

/-- **Words are the runs of two or more word characters.** -/
theorem words_eq_filter_runs (t : Text) :
    words t = (runs isWord t).filter (2 ≤ ·.length) :=
  map_text_segmentsFrom_tokenPattern (.inl rfl)

/-- The words on the two sides of a character that is no word character. -/
theorem words_append_cons {c : Char} (hc : isWord c = false) (s t : Text) :
    words (s ++ c :: t) = words s ++ words t := by
  rw [words_eq_filter_runs, words_eq_filter_runs, words_eq_filter_runs, runs_append_cons hc,
    List.filter_append]

/-- The parts `os` are the longest runs of two or more word characters in `t`, in order. -/
structure AreWords (t : Text) (os : List Extent) : Prop where
  mem_iff : ∀ o, o ∈ os ↔ Maximal (Extent.IsRun isWord t) o ∧ 2 ≤ o.text.length
  pairwise : os.Pairwise fun o o' => o.stop ≤ o'.start

theorem areWords_located (t : Text) :
    AreWords t ((Matcher.located tokenPattern.read? t).map Prod.fst) where
  mem_iff o := by
    rw [Extent.maximal_isRun_iff, and_assoc]
    exact mem_locate_tokenPattern
  pairwise := List.pairwise_map.2 (Matcher.pairwise_locate 0 _)

theorem words_eq_map_located (t : Text) :
    words t = ((Matcher.located tokenPattern.read? t).map Prod.fst).map (·.text) := by
  rw [words, Matcher.findAll, ← Matcher.map_text_locate 0, List.map_map]
  rfl

/-- **Tokens are the longest runs of two or more word characters**, in order and in lower case.  They
    are found by splitting the text and also by a search that gives back what a run has taken; and
    between two texts with a character in the middle that is no word character, no word is lost, joined
    or cut. -/
theorem tokens_eq_maximal_runs (t : Text) :
    (∃ os, AreWords t os ∧ words t = os.map (·.text) ∧ tokens t = os.map fun o => lower o.text) ∧
    tokens t = ((runs isWord t).filter (2 ≤ ·.length)).map lower ∧
    tokens t = (Matcher.findAll tokenPattern.search? t).map (fun m => lower m.text) ∧
    ∀ c s, isWord c = false → words (t ++ c :: s) = words t ++ words s := by
  refine ⟨⟨_, areWords_located t, words_eq_map_located t, ?_⟩, ?_, ?_, ?_⟩
  · rw [tokens, words_eq_map_located, List.map_map]
    rfl
  · rw [tokens, words_eq_filter_runs]
  · rw [tokens, words, Pattern.firm_tokenPattern.search?_eq_read?, List.map_map]
    rfl
  · intro c s hc
    exact words_append_cons hc t s

/-- A mark and a joiner belong to a word, a letter by itself is none, and words are in lower case as
    tokens, also where that is more than one character. -/
theorem tokens_eq_maximal_runs_marks :
    isWord '-' = false ∧ words ("X e\u0301_".toList ++ '-' :: "a\u200db Cd 7".toList) =
      ["e\u0301_".toList, "a\u200db".toList, "Cd".toList] ∧
    tokens "X E\u0301_-a\u200dB Cd 7 \u0130\u0130 \u039f\u03a3".toList =
      ["e\u0301_".toList, "a\u200db".toList, "cd".toList, "i\u0307i\u0307".toList,
        "\u03bf\u03c2".toList] := by
  refine ⟨by decide, ?_, ?_⟩
  · rw [(tokens_eq_maximal_runs "X e\u0301_".toList).2.2.2 '-' "a\u200db Cd 7".toList (by decide)]
    decide +kernel
  · rw [(tokens_eq_maximal_runs _).2.1]
    decide +kernel

example : tokens "int X = a+Bb; for(i=0;i<n;i++)".toList =
    ["int".toList, "bb".toList, "for".toList] := by decide +kernel

end Retouch
