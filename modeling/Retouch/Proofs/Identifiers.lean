/-
  The identifiers of a text, the places where they stand, and what becomes of them when parts of the
  text are removed.

  Identifiers have a description place by place: one starts at each letter or underscore that does not
  follow a word character, and goes on as long as there are word characters (`names`).  The scan finds
  just these (`locate_identifierPattern`).

  A matcher is `Detached` if its matches start where a word starts and end with a character that is no
  word character.

  * `inside_or_apart`: every identifier stands inside such a match or outside of it;
  * `map_text_names_removeFrom`: when such matches are removed, the identifiers inside them go and all
    others stay as they are, in order.
-/
import Retouch.Pass.ZeroInit
import Retouch.Proofs.Digits
import Retouch.Proofs.Scanning

namespace Retouch

open Text

/-! ## Extents -/

/-- A part of a text, after `start` other characters. -/
structure Extent where
  start : Nat
  text : Text
deriving DecidableEq

namespace Extent

/-- The number of characters up to the end of the part. -/
def stop (o : Extent) : Nat := o.start + o.text.length

/-- The part `o` lies inside the part `d`. -/
def Inside (o d : Extent) : Prop := d.start ≤ o.start ∧ o.stop ≤ d.stop

/-- One of the two parts ends before the other one starts. -/
def Apart (o d : Extent) : Prop := o.stop ≤ d.start ∨ d.stop ≤ o.start

instance (o d : Extent) : Decidable (o.Inside d) := inferInstanceAs (Decidable (_ ∧ _))

end Extent

namespace Matcher

/-- The matches among segments and their places, if the segments start after `n` characters. -/
def locate : (n : Nat) → List Segment → List (Extent × Match)
  | _, [] => []
  | n, .plain _ :: segs => locate (n + 1) segs
  | n, .hit m :: segs => (⟨n, m.text⟩, m) :: locate (n + m.text.length) segs

/-- The matches in a text and their places, in order. -/
def located (f : Matcher) (t : Text) : List (Extent × Match) := locate 0 (f.segments t)

theorem map_text_locate (n : Nat) (segs : List Segment) :
    (locate n segs).map (·.1.text) = (segs.filterMap Segment.match?).map Match.text := by
  fun_induction locate n segs with
  | case1 n => rfl
  | case2 n c segs ih => exact ih
  | case3 n m segs ih =>
    rw [List.map_cons, ih]
    rfl

theorem le_start_of_mem_locate {n : Nat} {segs : List Segment} {d : Extent × Match}
    (h : d ∈ locate n segs) : n ≤ d.1.start := by
  fun_induction locate n segs with
  | case1 n => exact absurd h List.not_mem_nil
  | case2 n c segs ih => exact Nat.le_of_succ_le (ih h)
  | case3 n m segs ih =>
    rcases List.mem_cons.1 h with rfl | h
    · exact Nat.le_refl n
    · exact Nat.le_trans (Nat.le_add_right n _) (ih h)

/-- Matches stand one behind the other. -/
theorem pairwise_locate (n : Nat) (segs : List Segment) :
    (locate n segs).Pairwise fun d d' => d.1.stop ≤ d'.1.start := by
  fun_induction locate n segs with
  | case1 n => exact .nil
  | case2 n c segs ih => exact ih
  | case3 n m segs ih => exact .cons (fun d hd => le_start_of_mem_locate hd) ih

theorem hit_mem_of_mem_locate {n : Nat} {segs : List Segment} {d : Extent × Match}
    (h : d ∈ locate n segs) : .hit d.2 ∈ segs := by
  fun_induction locate n segs with
  | case1 n => exact absurd h List.not_mem_nil
  | case2 n c segs ih => exact List.mem_cons_of_mem _ (ih h)
  | case3 n m segs ih =>
    rcases List.mem_cons.1 h with rfl | h
    · exact List.mem_cons_self
    · exact List.mem_cons_of_mem _ (ih h)

/-- A match stands in the text at its place. -/
theorem exists_of_mem_locate {n : Nat} {segs : List Segment} {d : Extent × Match}
    (h : d ∈ locate n segs) :
    ∃ u v, (segs.map Segment.text).flatten = u ++ (d.2.text ++ v) ∧
      d.1 = ⟨n + u.length, d.2.text⟩ := by
  fun_induction locate n segs with
  | case1 n => exact absurd h List.not_mem_nil
  | case2 n c segs ih =>
    obtain ⟨u, v, huv, hd⟩ := ih h
    refine ⟨c :: u, v, by simp [Segment.text, huv], ?_⟩
    rw [hd, List.length_cons, Nat.add_right_comm, Nat.add_assoc]
  | case3 n m segs ih =>
    rcases List.mem_cons.1 h with rfl | h
    · exact ⟨[], (segs.map Segment.text).flatten, rfl, rfl⟩
    · obtain ⟨u, v, huv, hd⟩ := ih h
      refine ⟨m.text ++ u, v, by simp [Segment.text, huv], ?_⟩
      rw [hd, List.length_append, Nat.add_assoc]

end Matcher

/-! ## Names -/

namespace Text

/-- The identifiers of a text and their places; `n` characters stand in front of the text, and
    `before` is the last one of them. -/
def names : (n : Nat) → (before : Option Char) → Text → List Extent
  | _, _, [] => []
  | n, before, c :: r =>
    if isNameStart c && !before.any isWord then
      ⟨n, c :: r.takeWhile isWord⟩ :: names (n + 1) (some c) r
    else names (n + 1) (some c) r

section Names

variable {n k : Nat} {before before' : Option Char} {t u v : Text} {o : Extent}

theorem bounds_of_mem_names (h : o ∈ names n before t) :
    n ≤ o.start ∧ o.start < o.stop ∧ o.stop ≤ n + t.length := by
  fun_induction names n before t with
  | case1 n before => exact absurd h List.not_mem_nil
  | case2 n before c r _ ih =>
    rcases List.mem_cons.1 h with rfl | h
    · have hle := (List.takeWhile_sublist isWord (l := r)).length_le
      simp only [Extent.stop, List.length_cons]
      omega
    · have := ih h
      simp only [List.length_cons]
      omega
  | case3 n before c r _ ih =>
    have := ih h
    simp only [List.length_cons]
    omega

theorem inside_of_mem_names (h : o ∈ names n before u) : o.Inside ⟨n, u⟩ :=
  ⟨(bounds_of_mem_names h).1, (bounds_of_mem_names h).2.2⟩

theorem not_inside_of_mem_names (h : o ∈ names (n + u.length) before t) : ¬ o.Inside ⟨n, u⟩ := by
  intro hinside
  have hbounds := bounds_of_mem_names h
  have hstop : o.stop ≤ n + u.length := hinside.2
  omega

/-- What the identifiers are does not depend on how much text is in front, only on whether it ends in
    the middle of a word. -/
theorem map_text_names_congr (h : before.any isWord = before'.any isWord) :
    (names n before t).map (·.text) = (names k before' t).map (·.text) := by
  induction t generalizing n k before before' with
  | nil => rfl
  | cons c r ih =>
    rw [names, names, h]
    split
    · rw [List.map_cons, List.map_cons, ih rfl]
    · exact ih rfl

/-- Inside a word no identifier starts. -/
theorem names_of_isWord (hbefore : before.any isWord = true) (hu : ∀ c ∈ u, isWord c = true) :
    names n before (u ++ v) = names (n + u.length) (u.getLast?.or before) v := by
  induction u generalizing n before with
  | nil => rfl
  | cons c u ih =>
    rw [List.forall_mem_cons] at hu
    rw [List.cons_append, names, if_neg (by simp [hbefore]), ih (by simpa using hu.1) hu.2,
      getLast?_cons_or, List.length_cons, Nat.add_right_comm, Nat.add_assoc]

/-- After a character that is no word character, identifiers are found as in a text of its own. -/
theorem names_append (hu : u ≠ []) (hlast : u.getLast?.any isWord = false) :
    names n before (u ++ v) = names n before u ++ names (n + u.length) u.getLast? v := by
  induction u generalizing n before with
  | nil => exact absurd rfl hu
  | cons c u ih =>
    by_cases hnil : u = []
    · subst hnil
      have hc : isNameStart c = false := by
        rw [Bool.eq_false_iff]
        intro hstart
        have hword := isWord_of_isNameStart hstart
        simp [hword] at hlast
      rw [List.singleton_append, names, if_neg (by simp [hc]), names, if_neg (by simp [hc])]
      rfl
    · have hlast' : u.getLast? = (c :: u).getLast? := by
        obtain ⟨d, u, rfl⟩ := List.exists_cons_of_ne_nil hnil
        rw [List.getLast?_cons_cons]
      -- the word at the front ends within `u`
      have hword : (u ++ v).takeWhile isWord = u.takeWhile isWord := by
        rw [← hlast', List.getLast?_eq_some_getLast hnil] at hlast
        exact takeWhile_append_of_mem (List.getLast_mem hnil) (by simpa using hlast) v
      rw [List.cons_append, names, names, hword, ih hnil (by rwa [hlast']), hlast', List.length_cons]
      split
      · rw [List.cons_append, Nat.add_right_comm, Nat.add_assoc]
      · rw [Nat.add_right_comm, Nat.add_assoc]

/-- Where an identifier stands, it is found. -/
theorem mem_names {w : Text} {c : Char} (hu : (u.getLast?.or before).any isWord = false)
    (hc : isNameStart c = true) (hw : ∀ d ∈ w, isWord d = true)
    (hv : v.head?.any isWord = false) :
    ⟨n + u.length, c :: w⟩ ∈ names n before (u ++ c :: (w ++ v)) := by
  induction u generalizing n before with
  | nil =>
    have hstop : ∀ d ∈ v.head?, isWord d = false := by
      intro d hd
      rw [hd] at hv
      simpa using hv
    have hbefore : before.any isWord = false := by simpa using hu
    rw [List.nil_append, names, if_pos (by simp [hc, hbefore]), takeWhile_append_of_head? hw hstop]
    exact List.mem_cons_self
  | cons d u ih =>
    rw [getLast?_cons_or] at hu
    have hmem := ih (n := n + 1) hu
    rw [List.length_cons, ← Nat.add_assoc, Nat.add_right_comm, List.cons_append, names]
    split
    · exact List.mem_cons_of_mem _ hmem
    · exact hmem

end Names

end Text

/-! ## The scan for identifiers -/

/-- A word ends where its characters end. -/
theorem Pattern.read?_edge_dropWhile {u : Text} (hne : u ≠ []) (hu : ∀ c ∈ u, isWord c = true)
    (before : Option Char) (t : Text) :
    read? [.edge] (u.getLast?.or before) (t.dropWhile isWord) = some ⟨[[]], t.dropWhile isWord⟩ := by
  have hlast : (u.getLast?.or before).any isWord = true := by
    rw [List.getLast?_eq_some_getLast hne]
    exact hu _ (List.getLast_mem hne)
  rw [read?_edge, hlast, any_head?_dropWhile, if_neg (by decide)]
  rfl

namespace Pass

theorem read?_identifierPattern (before : Option Char) (c : Char) (r : Text) :
    identifierPattern.read? before (c :: r) =
      if isNameStart c && !before.any isWord then
        some ⟨[[], c :: r.takeWhile isWord, []], r.dropWhile isWord⟩
      else none := by
  rw [identifierPattern, Pattern.read?_edge]
  by_cases hc : isNameStart c = true
  · have hword := isWord_of_isNameStart hc
    have hall : ∀ d ∈ c :: r.takeWhile isWord, isWord d = true :=
      List.forall_mem_cons.2 ⟨hword, List.all_eq_true.1 List.all_takeWhile⟩
    have hname : Pattern.read? [.name, .edge] before (c :: r) =
        some ⟨[c :: r.takeWhile isWord, []], r.dropWhile isWord⟩ :=
      Pattern.read?_cons (by rw [Piece.take?, if_pos hc])
        (Pattern.read?_edge_dropWhile (List.cons_ne_nil _ _) hall before r)
    rw [hname]
    cases before.any isWord <;> simp [hc, hword]
  · have hname : Pattern.read? [.name, .edge] before (c :: r) = none :=
      Pattern.read?_cons_of_eq_none (by rw [Piece.take?, if_neg hc])
    simp [hname, hc]

theorem exists_of_read?_identifierPattern {before : Option Char} {t : Text} {m : Match}
    (h : identifierPattern.read? before t = some m) :
    ∃ c r, t = c :: r ∧ (isNameStart c && !before.any isWord) = true ∧
      m = ⟨[[], c :: r.takeWhile isWord, []], r.dropWhile isWord⟩ := by
  cases t with
  | nil =>
    rw [identifierPattern, Pattern.read?_edge] at h
    split at h <;> simp [Pattern.read?, Piece.take?] at h
  | cons c r =>
    rw [read?_identifierPattern] at h
    split at h
    · next hc => exact ⟨c, r, rfl, hc, (Option.some.inj h).symm⟩
    · exact absurd h (by simp)

theorem length_rest_lt_of_identifierPattern {before : Option Char} {t : Text} {m : Match}
    (h : identifierPattern.read? before t = some m) : m.rest.length < t.length := by
  obtain ⟨c, r, rfl, -, rfl⟩ := exists_of_read?_identifierPattern h
  exact Nat.lt_succ_of_le (List.dropWhile_sublist _).length_le

/-- The scan finds the identifiers at their places. -/
theorem locate_identifierPattern (n : Nat) (before : Option Char) (t : Text) :
    (Matcher.locate n (Matcher.segmentsFrom identifierPattern.read? before t)).map Prod.fst =
      names n before t := by
  induction before, t using Matcher.scanFromInduction identifierPattern.read?
    length_rest_lt_of_identifierPattern generalizing n with
  | nil before => rw [Matcher.segmentsFrom]; rfl
  | copy before c r hm ih =>
    have hc : ¬ (isNameStart c && !before.any isWord) = true := by
      intro hc
      rw [read?_identifierPattern, if_pos hc] at hm
      exact absurd hm (by simp)
    rw [Matcher.segmentsFrom_cons hm, Matcher.locate, ih, names, if_neg hc]
  | hit before t m hm ih =>
    rw [Matcher.segmentsFrom_of_eq_some hm (length_rest_lt_of_identifierPattern hm), Matcher.locate,
      List.map_cons, ih]
    obtain ⟨c, r, rfl, hc, rfl⟩ := exists_of_read?_identifierPattern hm
    have hword : isWord c = true := isWord_of_isNameStart (Bool.and_eq_true_iff.1 hc).1
    have hskip : names (n + 1) (some c) (r.takeWhile isWord ++ r.dropWhile isWord) =
        names (n + 1 + (r.takeWhile isWord).length) ((r.takeWhile isWord).getLast?.or (some c))
          (r.dropWhile isWord) :=
      names_of_isWord (by simpa using hword) (List.all_eq_true.1 List.all_takeWhile)
    rw [List.takeWhile_append_dropWhile] at hskip
    rw [names, if_pos hc, hskip]
    simp only [Match.text, List.flatten_cons, List.flatten_nil, List.nil_append, List.append_nil,
      List.length_cons, getLast?_cons_or]
    rw [Nat.add_right_comm, Nat.add_assoc]

/-- The places of the identifiers in a text. -/
def occurrences (t : Text) : List Extent := (Matcher.located identifierPattern.read? t).map Prod.fst

theorem occurrences_eq_names (t : Text) : occurrences t = names 0 none t :=
  locate_identifierPattern 0 none t

theorem identifiers_eq_map_names (t : Text) : identifiers t = (names 0 none t).map (·.text) := by
  rw [← locate_identifierPattern 0 none t, List.map_map, identifiers, Matcher.findAll,
    ← Matcher.map_text_locate 0]
  rfl

end Pass

/-! ## Removal of detached parts -/

namespace Matcher

/-- Matches that start where a word starts and end with a character that is no word character. -/
structure Detached (f : Matcher) : Prop where
  splits : f.Splits
  before_eq : ∀ {before t m}, f before t = some m → before.any isWord = false
  head_eq : ∀ {before t m}, f before t = some m → m.text.head?.any isWord = true
  getLast_eq : ∀ {before t m}, f before t = some m → m.text.getLast?.any isWord = false

namespace Detached

variable {f : Matcher} {before before' : Option Char} {t : Text} {m : Match}

theorem text_ne_nil (hf : f.Detached) (h : f before t = some m) : m.text ≠ [] := by
  intro hnil
  have hhead := hf.head_eq h
  simp [hnil] at hhead

theorem length_rest_lt (hf : f.Detached) (h : f before t = some m) : m.rest.length < t.length :=
  Splits.length_rest_lt (f := f) hf.splits h (hf.text_ne_nil h)

theorem getLast?_or (hf : f.Detached) (h : f before t = some m) (before' : Option Char) :
    m.text.getLast?.or before' = m.text.getLast? := getLast?_or_of_ne_nil (hf.text_ne_nil h) before'

/-- In the middle of a word nothing matches. -/
theorem eq_none_of_isWord (hf : f.Detached) (hbefore : before.any isWord = true) :
    f before t = none := by
  cases h : f before t with
  | none => rfl
  | some m =>
    rw [hf.before_eq h] at hbefore
    exact absurd hbefore (by decide)

/-- A word that has started ends before the next match. -/
theorem takeWhile_le_start (hf : f.Detached) (hbefore : before.any isWord = true) {n : Nat}
    {d : Extent × Match} (hd : d ∈ locate n (f.segmentsFrom before t)) :
    n + (t.takeWhile isWord).length ≤ d.1.start := by
  induction t generalizing before n with
  | nil =>
    rw [segmentsFrom] at hd
    exact absurd hd List.not_mem_nil
  | cons c r ih =>
    rw [segmentsFrom_cons (hf.eq_none_of_isWord hbefore), locate] at hd
    by_cases hc : isWord c = true
    · have hle := ih (by simpa using hc) hd
      rw [List.takeWhile_cons_of_pos hc, List.length_cons]
      omega
    · have hle := le_start_of_mem_locate hd
      rw [List.takeWhile_cons_of_neg hc, List.length_nil]
      omega

/-- **No identifier is cut**: it stands inside a match or outside of it. -/
theorem inside_or_apart (hf : f.Detached) {n : Nat} {o : Extent} {d : Extent × Match}
    (ho : o ∈ names n before t) (hd : d ∈ locate n (f.segmentsFrom before t)) :
    o.Inside d.1 ∨ o.Apart d.1 := by
  induction before, t using scanFromInduction f hf.length_rest_lt generalizing n with
  | nil before => exact absurd ho List.not_mem_nil
  | copy before c r hm ih =>
    rw [segmentsFrom_cons hm, locate] at hd
    rw [names] at ho
    split at ho
    · next hc =>
      rcases List.mem_cons.1 ho with rfl | ho
      · have hword : isWord c = true := isWord_of_isNameStart (Bool.and_eq_true_iff.1 hc).1
        have hbefore : (some c).any isWord = true := by simpa using hword
        have hle := hf.takeWhile_le_start hbefore hd
        right
        left
        simp only [Extent.stop, List.length_cons]
        omega
      · exact ih ho hd
    · exact ih ho hd
  | hit before t m hm ih =>
    rw [segmentsFrom_of_eq_some hm (hf.length_rest_lt hm), locate, hf.getLast?_or hm] at hd
    rw [hf.getLast?_or hm] at ih
    rw [← hf.splits hm, names_append (hf.text_ne_nil hm) (hf.getLast_eq hm), List.mem_append] at ho
    rcases ho with ho | ho
    · rcases List.mem_cons.1 hd with rfl | hd
      · left
        exact inside_of_mem_names ho
      · right
        left
        exact Nat.le_trans (bounds_of_mem_names ho).2.2 (le_start_of_mem_locate hd)
    · rcases List.mem_cons.1 hd with rfl | hd
      · right
        right
        exact (bounds_of_mem_names ho).1
      · exact ih ho hd

end Detached

/-- The text without the matches that `p` holds of. -/
def removeFrom (f : Matcher) (p : Match → Bool) (before : Option Char) (t : Text) : Text :=
  f.replaceFrom (fun m => if p m then [] else m.text) before t

/-- The places of `os` that do not lie inside a match of `ds`. -/
def outside (ds : List (Extent × Match)) (os : List Extent) : List Extent :=
  os.filter fun o => !ds.any fun d => decide (o.Inside d.1)

theorem outside_append (ds : List (Extent × Match)) (os os' : List Extent) :
    outside ds (os ++ os') = outside ds os ++ outside ds os' := List.filter_append os os'

/-- Matches that start after all places have none of these inside. -/
theorem outside_eq_self {ds : List (Extent × Match)} {os : List Extent} {k : Nat}
    (hos : ∀ o ∈ os, o.start < k) (hds : ∀ d ∈ ds, k ≤ d.1.start) : outside ds os = os := by
  rw [outside, List.filter_eq_self]
  intro o ho
  have hnot : ∀ d ∈ ds, ¬ o.Inside d.1 := by
    intro d hd hinside
    have hlt := hos o ho
    have hle := Nat.le_trans (hds d hd) hinside.1
    omega
  simpa using hnot

theorem outside_eq_nil {d : Extent × Match} {ds : List (Extent × Match)} {os : List Extent}
    (h : ∀ o ∈ os, o.Inside d.1) : outside (d :: ds) os = [] := by
  rw [outside, List.filter_eq_nil_iff]
  intro o ho
  simp [h o ho]

theorem outside_cons {d : Extent × Match} {ds : List (Extent × Match)} {os : List Extent}
    (h : ∀ o ∈ os, ¬ o.Inside d.1) : outside (d :: ds) os = outside ds os := by
  refine List.filter_congr fun o ho => ?_
  simp [h o ho]

namespace Detached

variable {f : Matcher} {before before' : Option Char} {t : Text} {p : Match → Bool}

/-- A word that has started is not touched. -/
theorem takeWhile_removeFrom (hf : f.Detached) (hbefore : before.any isWord = true) :
    (f.removeFrom p before t).takeWhile isWord = t.takeWhile isWord := by
  unfold removeFrom
  induction t generalizing before with
  | nil => rw [replaceFrom_nil]
  | cons c r ih =>
    rw [replaceFrom_cons (hf.eq_none_of_isWord hbefore)]
    by_cases hc : isWord c = true
    · rw [List.takeWhile_cons_of_pos hc, List.takeWhile_cons_of_pos hc, ih (by simpa using hc)]
    · rw [List.takeWhile_cons_of_neg hc, List.takeWhile_cons_of_neg hc]

/-- **Removal keeps the identifiers outside of what it removes**, and no others. -/
theorem map_text_names_removeFrom (hf : f.Detached) (n k : Nat)
    (h : before.any isWord = before'.any isWord) :
    (names k before' (f.removeFrom p before t)).map (·.text) =
      (outside ((locate n (f.segmentsFrom before t)).filter (p ·.2)) (names n before t)).map
        (·.text) := by
  -- the matches of a part start behind what stands in front of the part
  have hstart : ∀ {k : Nat} {segs : List Segment}, ∀ d ∈ (locate k segs).filter (p ·.2),
      k ≤ d.1.start := fun d hd => le_start_of_mem_locate (List.mem_of_mem_filter hd)
  induction before, t using scanFromInduction f hf.length_rest_lt generalizing n k before' with
  | nil before =>
    rw [removeFrom, replaceFrom_nil]
    rfl
  | copy before c r hm ih =>
    have hnext := ih (n + 1) (k + 1) (Eq.refl ((some c).any isWord))
    rw [removeFrom, replaceFrom_cons hm, ← removeFrom, segmentsFrom_cons hm, locate, names, names, h]
    split
    · next hc =>
      have hword : isWord c = true := isWord_of_isNameStart (Bool.and_eq_true_iff.1 hc).1
      have hhere : ∀ o ∈ [Extent.mk n (c :: r.takeWhile isWord)], o.start < n + 1 := by simp
      rw [← List.singleton_append (l := names (n + 1) (some c) r), outside_append,
        outside_eq_self hhere hstart, List.map_cons, List.map_append, hnext,
        hf.takeWhile_removeFrom (by simpa using hword)]
      rfl
    · exact hnext
  | hit before t m hm ih =>
    have hne := hf.text_ne_nil hm
    have hlast := hf.getLast_eq hm
    rw [removeFrom, replaceFrom_of_eq_some hm (hf.length_rest_lt hm), ← removeFrom,
      segmentsFrom_of_eq_some hm (hf.length_rest_lt hm), locate]
    rw [hf.getLast?_or hm] at ih ⊢
    have hnames : names n before t =
        names n before m.text ++ names (n + m.text.length) m.text.getLast? m.rest := by
      rw [← names_append hne hlast, hf.splits hm]
    rw [hnames, outside_append, List.map_append]
    by_cases hp : p m = true
    · rw [if_pos hp, List.nil_append,
        List.filter_cons_of_pos (p := fun d : Extent × Match => p d.2) hp,
        outside_eq_nil fun o => inside_of_mem_names, outside_cons fun o => not_inside_of_mem_names]
      exact ih _ _ (by rw [hlast, ← h, hf.before_eq hm])
    · have hfront : ∀ o ∈ names n before m.text, o.start < n + m.text.length := by
        intro o ho
        have hbounds := bounds_of_mem_names ho
        omega
      rw [if_neg hp, List.filter_cons_of_neg (p := fun d : Extent × Match => p d.2) hp,
        names_append hne hlast, List.map_append, outside_eq_self hfront hstart,
        map_text_names_congr h.symm, ih _ _ rfl]

end Detached

end Matcher

end Retouch
