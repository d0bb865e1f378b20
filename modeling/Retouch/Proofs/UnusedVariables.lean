/-
  Removal of unused variables, and the identifiers that it leaves.

  A declaration by zero starts where a word starts, holds the name that it declares, and ends with a
  semicolon (`Declares`).  So its removal is one of detached parts, and the name is among the
  identifiers that go with it.

  * `dropUnused_eq_removeFrom`: the pass removes the declarations whose name occurs once;
  * `isCleared_dropZeroInit`: no use of a removed name is left, and nothing else is lost.
-/
import Retouch.Proofs.Identifiers

namespace Retouch.Pass

open Text

/-! ## Declarations -/

/-- A text that starts with a word and ends with a semicolon, and in which `name` stands by itself. -/
structure Declares (name t : Text) : Prop where
  exists_parts : ∃ front b c w e back, t = front ++ b :: c :: (w ++ e :: back) ∧ name = c :: w ∧
    isWord b = false ∧ isNameStart c = true ∧ (∀ d ∈ w, isWord d = true) ∧ isWord e = false
  head_eq : t.head?.any isWord = true
  getLast_eq : t.getLast? = some ';'

theorem Declares.append_left {name t u : Text} (h : Declares name t)
    (hu : u.head?.all isWord = true) : Declares name (u ++ t) where
  exists_parts := by
    obtain ⟨front, b, c, w, e, back, rfl, hrest⟩ := h.exists_parts
    exact ⟨u ++ front, b, c, w, e, back, (List.append_assoc _ _ _).symm, hrest⟩
  head_eq := by
    cases u with
    | nil => exact h.head_eq
    | cons d u => simpa using hu
  getLast_eq := by rw [List.getLast?_append, h.getLast_eq]; rfl

theorem declares_of_zeroPattern {before : Option Char} {t : Text} {d : Match}
    (h : zeroPattern.read? before t = some d) : Declares (d.piece 2) d.text := by
  have hall := Pattern.forall₂_takes h
  simp only [zeroPattern, Piece.lit, Piece.blanks, Piece.blanks1, List.forall₂_cons_left_iff,
    List.forall₂_nil_left_iff, Piece.takes_word_iff, Piece.takes_run_iff] at hall
  obtain ⟨type, _, htype, ⟨b₁, _, ⟨hlen, hb₁⟩, ⟨name, _, hname, ⟨b₂, _, ⟨-, hb₂⟩, ⟨_, _, rfl,
    ⟨b₃, _, -, ⟨_, _, rfl, ⟨places, _, -, ⟨b₄, _, -, ⟨_, _, rfl, rfl, rfl⟩, rfl⟩,
    rfl⟩, rfl⟩, rfl⟩, rfl⟩, rfl⟩, rfl⟩, rfl⟩, hd⟩ := hall
  obtain ⟨c, w, rfl, hc, hw⟩ := Piece.exists_of_takes_name hname
  obtain ⟨k, type, rfl, hk⟩ : ∃ k type', type = k :: type' ∧ isWord k = true := by
    have htypes : ∀ u ∈ ["int".toList, "float".toList, "double".toList, "char".toList, "bool".toList,
        "long".toList, "short".toList], u.head?.any isWord = true := by
      simpa using (by decide)
    have hhead := htypes type (Piece.mem_of_takes_oneOf htype)
    cases type with
    | nil => exact absurd hhead (by decide)
    | cons k type => exact ⟨k, type, rfl, by simpa using hhead⟩
  obtain ⟨b₁, b, rfl⟩ := List.eq_nil_or_concat b₁ |>.resolve_left (List.length_pos_iff.1 hlen)
  obtain ⟨e, back, he, hback⟩ : ∃ e back, isWord e = false ∧
      b₂ ++ ("=".toList ++ (b₃ ++ ("0".toList ++ (places ++ (b₄ ++ ";".toList))))) = e :: back := by
    cases b₂ with
    | nil => exact ⟨'=', _, by decide, rfl⟩
    | cons e b₂ => exact ⟨e, _, isWord_of_isBlank (hb₂ e List.mem_cons_self), rfl⟩
  have htext : d.text = k :: (type ++ b₁) ++ b :: c :: (w ++ e :: back) := by
    simp [Match.text, hd, ← hback]
  constructor
  · exact ⟨k :: (type ++ b₁), b, c, w, e, back, htext, by simp [Match.piece, hd],
      isWord_of_isBlank (hb₁ b (by simp)), hc, hw, he⟩
  · rw [htext]
    simpa using hk
  · have hlast : (e :: back).getLast? = some ';' := by
      rw [← hback]
      simp [List.getLast?_cons]
    rw [htext, List.getLast?_append, List.getLast?_cons_cons, ← List.cons_append,
      List.getLast?_append, hlast]
    rfl

/-- Modifiers are words. -/
theorem head?_of_modifierPattern {before : Option Char} {t : Text} {m : Match}
    (h : modifierPattern.read? before t = some m) : m.text.head?.all isWord = true := by
  have hall := Pattern.forall₂_takes h
  simp only [modifierPattern, Piece.blanks1, List.forall₂_cons_left_iff,
    List.forall₂_nil_left_iff] at hall
  obtain ⟨modifier, _, hmodifier, ⟨b, _, -, rfl, rfl⟩, hm⟩ := hall
  have hwords : ∀ u ∈ ["unsigned".toList, "signed".toList, "long".toList, "short".toList],
      u ≠ [] ∧ u.head?.all isWord = true := by
    simpa using (by decide)
  obtain ⟨hne, hhead⟩ := hwords modifier (Piece.mem_of_takes_oneOf hmodifier)
  obtain ⟨k, modifier, rfl⟩ := List.exists_cons_of_ne_nil hne
  simpa [Match.text, hm] using hhead

/-- The front of `t` is a declaration: modifiers, which are words, and then the match `d`. -/
structure Opens (t modifiers : Text) (d : Match) : Prop where
  head_eq : modifiers.head?.all isWord = true
  declares : Declares (d.piece 2) d.text
  append_eq : modifiers ++ (d.text ++ d.rest) = t

theorem opens_of_zeroPattern {t modifiers : Text} {d : Match}
    (h : (zeroPattern.read? none t).map ([], ·) = some (modifiers, d)) : Opens t modifiers d := by
  obtain ⟨d', hd, heq⟩ := Option.map_eq_some_iff.1 h
  obtain ⟨rfl, rfl⟩ := Prod.mk.inj heq
  exact ⟨rfl, declares_of_zeroPattern hd, Pattern.append_read? hd⟩

theorem opens_of_declaration? {t modifiers : Text} {d : Match}
    (h : declaration? t = some (modifiers, d)) : Opens t modifiers d := by
  fun_induction declaration? t generalizing modifiers with
  | case1 t _ => exact opens_of_zeroPattern h
  | case2 t m hm _ modifiers' d' hd ih =>
    obtain ⟨rfl, rfl⟩ := Prod.mk.inj (Option.some.inj h)
    obtain ⟨hhead, hdecl, hsplit⟩ := ih hd
    refine ⟨?_, hdecl, ?_⟩
    · have hfront := head?_of_modifierPattern hm
      cases hnil : m.text with
      | nil => simpa [hnil] using hhead
      | cons k u => simpa [hnil] using hfront
    · rw [List.append_assoc, hsplit, Pattern.append_read? hm]
  | case3 t m _ _ _ _ => exact opens_of_zeroPattern h
  | case4 t m _ _ => exact absurd h (by simp)

/-- A match starts where a word starts or ends, and declares its name. -/
theorem exists_of_zeroInit {before : Option Char} {t : Text} {m : Match}
    (h : zeroInit before t = some m) :
    before.any isWord ≠ t.head?.any isWord ∧ Declares (declaredName m) m.text ∧
      m.text ++ m.rest = t := by
  rw [zeroInit] at h
  split at h
  · exact absurd h (by simp)
  · next hedge =>
    obtain ⟨⟨modifiers, d⟩, hd, rfl⟩ := Option.map_eq_some_iff.1 h
    obtain ⟨hhead, hdecl, hsplit⟩ := opens_of_declaration? hd
    refine ⟨?_, hdecl.append_left hhead, ?_⟩
    · rw [Piece.take?] at hedge
      split at hedge
      · next hne => exact bne_iff_ne.1 hne
      · exact absurd hedge (by simp)
    · rw [← hsplit, ← List.append_assoc]
      rfl

theorem declares_of_zeroInit {before : Option Char} {t : Text} {m : Match}
    (h : zeroInit before t = some m) : Declares (declaredName m) m.text :=
  (exists_of_zeroInit h).2.1

theorem detached_zeroInit : zeroInit.Detached where
  splits h := (exists_of_zeroInit h).2.2
  before_eq {before t m} h := by
    obtain ⟨hedge, hdecl, rfl⟩ := exists_of_zeroInit h
    have hhead := hdecl.head_eq
    cases hm : m.text with
    | nil => exact absurd hhead (by simp [hm])
    | cons k u =>
      rw [hm] at hhead hedge
      simp_all
  head_eq h := (declares_of_zeroInit h).head_eq
  getLast_eq h := by
    rw [(declares_of_zeroInit h).getLast_eq]
    decide

/-! ## Unused declarations -/

/-- The name of a declaration in `t` occurs nowhere else in `t`. -/
def isUnused (t : Text) (m : Match) : Bool := (identifiers t).count (declaredName m) ≤ 1

/-- The declarations that go, and their places. -/
def dropped (t : Text) : List (Extent × Match) := (zeroInit.located t).filter (isUnused t ·.2)

/-- What is left of segments of `t`. -/
def left (t : Text) (segs : List Segment) : Text :=
  segs.flatMap (Segment.written fun m => if isUnused t m then [] else m.text)

theorem dropUnused_eq_left (t : Text) : dropUnused t = left t (zeroInit.segments t) := by
  rw [dropUnused, Matcher.replaceAll_eq_flatMap, left]
  congr 2
  ext1 m
  by_cases h : 1 < (identifiers t).count (declaredName m)
  · rw [if_pos h, if_neg (by simpa [isUnused] using h)]
  · rw [if_neg h, if_pos (by simpa [isUnused] using h)]

theorem dropUnused_eq_removeFrom (t : Text) :
    dropUnused t = zeroInit.removeFrom (isUnused t) none t := dropUnused_eq_left t

/-- The identifiers that are left stand outside of what goes. -/
theorem identifiers_dropUnused (t : Text) :
    identifiers (dropUnused t) = (Matcher.outside (dropped t) (occurrences t)).map (·.text) := by
  rw [identifiers_eq_map_names, dropUnused_eq_removeFrom,
    detached_zeroInit.map_text_names_removeFrom 0 0 rfl, occurrences_eq_names]
  rfl

theorem inside_or_apart_of_dropped {t : Text} {o : Extent} {d : Extent × Match}
    (ho : o ∈ occurrences t) (hd : d ∈ dropped t) : o.Inside d.1 ∨ o.Apart d.1 := by
  rw [occurrences_eq_names] at ho
  exact detached_zeroInit.inside_or_apart ho (List.mem_of_mem_filter hd)

/-- A declaration has an occurrence of its name inside. -/
theorem exists_occurrence_of_dropped {t : Text} {d : Extent × Match} (hd : d ∈ dropped t) :
    ∃ o ∈ occurrences t, o.text = declaredName d.2 ∧ o.Inside d.1 := by
  have hd' : d ∈ Matcher.locate 0 (zeroInit.segments t) := List.mem_of_mem_filter hd
  obtain ⟨u, v, huv, hplace⟩ := Matcher.exists_of_mem_locate hd'
  rw [Matcher.flatten_text_segments detached_zeroInit.splits] at huv
  obtain ⟨_, _, hm⟩ := Matcher.exists_of_hit_mem (Matcher.hit_mem_of_mem_locate hd')
  obtain ⟨front, b, c, w, e, back, htext, hname, hb, hc, hw, he⟩ :=
    (declares_of_zeroInit hm).exists_parts
  have hmem : ⟨0 + (u ++ (front ++ [b])).length, c :: w⟩ ∈
      names 0 none (u ++ (front ++ [b]) ++ c :: (w ++ (e :: back ++ v))) :=
    mem_names (by simp [hb]) hc hw (by simpa using he)
  have ht : t = u ++ (front ++ [b]) ++ c :: (w ++ (e :: back ++ v)) := by
    rw [huv, htext]
    simp
  rw [← ht, ← occurrences_eq_names] at hmem
  refine ⟨_, hmem, hname.symm, ?_⟩
  rw [hplace, htext]
  simp only [Extent.Inside, Extent.stop, List.length_append, List.length_cons, List.length_nil]
  omega

/-- The name of a declaration that goes is gone: another occurrence of it would be a second one. -/
theorem declaredName_not_mem {t : Text} {d : Extent × Match} (hd : d ∈ dropped t) :
    declaredName d.2 ∉ identifiers (dropUnused t) := by
  intro hmem
  rw [identifiers_dropUnused, List.mem_map] at hmem
  obtain ⟨o', ho', htext'⟩ := hmem
  rw [Matcher.outside, List.mem_filter] at ho'
  obtain ⟨o, ho, htext, hinside⟩ := exists_occurrence_of_dropped hd
  have hcount : ((occurrences t).filter (·.text == declaredName d.2)).length ≤ 1 := by
    have hunused : isUnused t d.2 = true := (List.mem_filter.1 hd).2
    rw [isUnused, identifiers_eq_map_names, ← occurrences_eq_names, List.count_eq_countP,
      List.countP_map, List.countP_eq_length_filter, decide_eq_true_iff] at hunused
    exact hunused
  have hone : o ∈ (occurrences t).filter (·.text == declaredName d.2) :=
    List.mem_filter.2 ⟨ho, by simpa using htext⟩
  have htwo : o' ∈ (occurrences t).filter (·.text == declaredName d.2) :=
    List.mem_filter.2 ⟨ho'.1, by simpa using htext'⟩
  obtain rfl : o = o' := by
    rcases hl : (occurrences t).filter (·.text == declaredName d.2) with _ | ⟨x, _ | ⟨y, l⟩⟩
    · simp [hl] at hone
    · rw [hl, List.mem_singleton] at hone htwo
      rw [hone, htwo]
    · rw [hl] at hcount
      exact absurd hcount (by simp)
  have hout := ho'.2
  simp only [Bool.not_eq_true', List.any_eq_false, decide_eq_true_eq] at hout
  exact hout d hd hinside

/-- What becomes of `t` when its unused variables are removed. -/
structure IsCleared (t out : Text) : Prop where
  /-- The declarations that go leave nothing, and all else stays. -/
  eq_left : out = left t (zeroInit.segments t)
  /-- A declaration whose name occurs again is kept as it is written. -/
  kept : ∀ front m back, zeroInit.segments t = front ++ .hit m :: back →
    2 ≤ (identifiers t).count (declaredName m) → out = left t front ++ (m.text ++ left t back)
  /-- No identifier is cut. -/
  inside_or_apart : ∀ o ∈ occurrences t, ∀ d ∈ dropped t, o.Inside d.1 ∨ o.Apart d.1
  /-- The identifiers left are those outside of the declarations that go, in order. -/
  identifiers_eq : identifiers out = (Matcher.outside (dropped t) (occurrences t)).map (·.text)
  /-- No use of a variable is left without its declaration. -/
  not_mem : ∀ d ∈ dropped t, declaredName d.2 ∉ identifiers out

/-- **No dangling use**: the removal of unused variables takes away the identifiers inside the
    declarations that go and no others, and none of the names declared there is left. -/
theorem isCleared_dropZeroInit (t : Text) : IsCleared t (dropZeroInit.apply t) where
  eq_left := dropUnused_eq_left t
  kept front m back h hcount := by
    have hused : isUnused t m = false := decide_eq_false (by omega)
    change dropUnused t = _
    rw [dropUnused_eq_left, h, left, List.flatMap_append, List.flatMap_cons, Segment.written, hused]
    rfl
  inside_or_apart _ ho _ hd := inside_or_apart_of_dropped ho hd
  identifiers_eq := identifiers_dropUnused t
  not_mem _ hd := declaredName_not_mem hd

example : dropUnused "int x = 0; unsigned long y = 0; x++;".toList = "int x = 0;  x++;".toList := by
  cbv

end Retouch.Pass
