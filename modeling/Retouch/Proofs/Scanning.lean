/-
  How patterns are read and how a scan replaces.

  A scan is described by what it does at the front of a text, after a character `before`: where
  nothing matches it copies a character (`replaceFrom_cons`), and otherwise it writes the replacement
  and goes on after the match (`replaceFrom_of_eq_some`).  A pattern without an `edge` does not look
  at the character before it (`isFree_read?`), so that its scan may start anywhere
  (`replaceAll_cons`, `replaceAll_of_eq_some`).
-/
import Mathlib.Data.List.Basic
import Mathlib.Data.List.Forall2
import Retouch.Pass.Basic

namespace Retouch

namespace Text

/-- A run of characters ends where the rest starts with another one. -/
theorem takeWhile_append_of_head? {p : Char → Bool} {u v : Text} (hu : ∀ c ∈ u, p c = true)
    (hv : ∀ c ∈ v.head?, p c = false) : (u ++ v).takeWhile p = u := by
  rw [List.takeWhile_append_of_pos hu]
  cases v with
  | nil => simp
  | cons c v => rw [List.takeWhile_cons_of_neg (by rw [hv c rfl]; decide), List.append_nil]

theorem dropWhile_append_of_head? {p : Char → Bool} {u v : Text} (hu : ∀ c ∈ u, p c = true)
    (hv : ∀ c ∈ v.head?, p c = false) : (u ++ v).dropWhile p = v := by
  rw [List.dropWhile_append_of_pos hu]
  cases v with
  | nil => rfl
  | cons c v => rw [List.dropWhile_cons_of_neg (by rw [hv c rfl]; decide)]

theorem head?_dropWhile {p : Char → Bool} {t : Text} {c : Char}
    (h : c ∈ (t.dropWhile p).head?) : p c = false := by
  have hnot := List.head?_dropWhile_not p t
  rwa [h] at hnot

theorem any_head?_dropWhile (p : Char → Bool) (t : Text) : (t.dropWhile p).head?.any p = false := by
  cases hc : (t.dropWhile p).head? with
  | none => rfl
  | some c => exact head?_dropWhile hc

/-- A run that has to end in `u` does not depend on what follows. -/
theorem takeWhile_append_of_mem {p : Char → Bool} {u : Text} {c : Char} (hc : c ∈ u)
    (hp : p c = false) (v : Text) : (u ++ v).takeWhile p = u.takeWhile p := by
  rw [List.takeWhile_append, if_neg]
  intro hlen
  have hall : ∀ d ∈ u.takeWhile p, p d = true := List.all_eq_true.1 List.all_takeWhile
  rw [(List.takeWhile_prefix p).eq_of_length hlen] at hall
  rw [hall c hc] at hp
  exact absurd hp (by decide)

theorem dropWhile_append_of_mem {p : Char → Bool} {u : Text} {c : Char} (hc : c ∈ u)
    (hp : p c = false) (v : Text) : (u ++ v).dropWhile p = u.dropWhile p ++ v := by
  have hsplit : (u ++ v).takeWhile p ++ (u ++ v).dropWhile p =
      u.takeWhile p ++ (u.dropWhile p ++ v) := by
    rw [← List.append_assoc, List.takeWhile_append_dropWhile, List.takeWhile_append_dropWhile]
  rw [takeWhile_append_of_mem hc hp] at hsplit
  exact List.append_cancel_left hsplit

theorem getLast?_cons_or (c : Char) (t : Text) (before : Option Char) :
    (c :: t).getLast?.or before = t.getLast?.or (some c) := by
  rw [List.getLast?_cons]
  cases t.getLast? <;> rfl

theorem getLast?_or_of_ne_nil {t : Text} (h : t ≠ []) (before : Option Char) :
    t.getLast?.or before = t.getLast? := by
  rw [List.getLast?_eq_some_getLast h]
  rfl

theorem getLast?_append_or (u t : Text) (before : Option Char) :
    (u ++ t).getLast?.or before = t.getLast?.or (u.getLast?.or before) := by
  rw [List.getLast?_append, Option.or_assoc]

end Text

/-! ## Pieces -/

namespace Piece

variable {before : Option Char} {t u taken rest : Text}

theorem take?_word (w t : Text) : (word w).take? before (w ++ t) = some (w, t) := by
  simp [take?]

theorem take?_word_eq_none {w : Text} (h : ¬ w <+: t) : (word w).take? before t = none := by
  rw [take?, if_neg (by simpa using h)]

/-- A run ends where its characters end. -/
theorem take?_run {least : Nat} {p : Char → Bool} (hu : ∀ c ∈ u, p c = true)
    (hleast : least ≤ u.length) (ht : ∀ c ∈ t.head?, p c = false) :
    (run least p).take? before (u ++ t) = some (u, t) := by
  rw [take?, Text.takeWhile_append_of_head? hu ht, Text.dropWhile_append_of_head? hu ht,
    if_pos hleast]

/-- A text that a piece can stand for. -/
def Takes (p : Piece) (u : Text) : Prop := ∃ before t rest, p.take? before t = some (u, rest)

theorem takes_word_iff {w : Text} : (word w).Takes u ↔ u = w := by
  constructor
  · rintro ⟨before, t, rest, h⟩
    rw [take?] at h
    split at h
    · exact (Prod.mk.inj (Option.some.inj h)).1.symm
    · exact absurd h (by simp)
  · rintro rfl
    exact ⟨none, u ++ [], [], take?_word u []⟩

theorem takes_run_iff {least : Nat} {p : Char → Bool} :
    (run least p).Takes u ↔ least ≤ u.length ∧ ∀ c ∈ u, p c = true := by
  constructor
  · rintro ⟨before, t, rest, h⟩
    rw [take?] at h
    split at h
    · next hleast =>
      obtain ⟨rfl, -⟩ := Prod.mk.inj (Option.some.inj h)
      exact ⟨hleast, List.all_eq_true.1 List.all_takeWhile⟩
    · exact absurd h (by simp)
  · rintro ⟨hleast, hu⟩
    exact ⟨none, u ++ [], [], take?_run hu hleast (by simp)⟩

theorem mem_of_takes_oneOf {ws : List Text} (h : (oneOf ws).Takes u) : u ∈ ws := by
  obtain ⟨before, t, rest, h⟩ := h
  obtain ⟨w, hw, heq⟩ := Option.map_eq_some_iff.1 h
  obtain rfl : w = u := (Prod.mk.inj heq).1
  exact List.mem_of_find?_eq_some hw

theorem eq_nil_of_takes_edge (h : edge.Takes u) : u = [] := by
  obtain ⟨before, t, rest, h⟩ := h
  rw [take?] at h
  split at h
  · exact (Prod.mk.inj (Option.some.inj h)).1.symm
  · exact absurd h (by simp)

theorem exists_of_takes_name (h : name.Takes u) :
    ∃ c w, u = c :: w ∧ Text.isNameStart c = true ∧ ∀ d ∈ w, Text.isWord d = true := by
  obtain ⟨before, t, rest, h⟩ := h
  cases t with
  | nil => exact absurd h (by simp [take?])
  | cons c r =>
    rw [take?] at h
    split at h
    · next hc =>
      obtain ⟨rfl, -⟩ := Prod.mk.inj (Option.some.inj h)
      exact ⟨c, _, rfl, hc, List.all_eq_true.1 List.all_takeWhile⟩
    · exact absurd h (by simp)

/-- What goes through a character has it at its end and nowhere else. -/
theorem exists_of_takes_through {c : Char} (h : (through [c]).Takes u) :
    ∃ body, u = body ++ [c] ∧ c ∉ body := by
  obtain ⟨_, t, rest, h⟩ := h
  change Text.through? [c] t = some (u, rest) at h
  induction t generalizing u with
  | nil => exact absurd h (by simp [Text.through?])
  | cons d t ih =>
    rw [Text.through?] at h
    split at h
    · obtain ⟨rfl, -⟩ := Prod.mk.inj (Option.some.inj h)
      exact ⟨[], rfl, List.not_mem_nil⟩
    · next hne =>
      obtain ⟨⟨taken, rest'⟩, ht, heq⟩ := Option.map_eq_some_iff.1 h
      obtain ⟨rfl, rfl⟩ := Prod.mk.inj heq
      obtain ⟨body, rfl, hbody⟩ := ih ht
      have hd : c ≠ d := by
        rintro rfl
        exact hne (by simp)
      exact ⟨d :: body, rfl, by simp [hd, hbody]⟩

/-- Only an `edge` looks at the character before it. -/
theorem take?_congr {p : Piece} (h : p ≠ edge) (before before' : Option Char) (t : Text) :
    p.take? before t = p.take? before' t := by
  cases p with
  | edge => exact absurd rfl h
  | _ => rfl

end Piece

/-! ## Patterns -/

/-- A match that covers something leaves less than the text. -/
theorem Matcher.Splits.length_rest_lt {f : Matcher} (hf : f.Splits) {before : Option Char} {t : Text}
    {m : Match} (h : f before t = some m) (hm : m.text ≠ []) : m.rest.length < t.length := by
  rw [← hf h, List.length_append]
  have hpos := List.length_pos_iff.2 hm
  omega

/-- A matcher that does not look at the character before the text. -/
def Matcher.IsFree (f : Matcher) : Prop := ∀ before before' t, f before t = f before' t

namespace Pattern

variable {before : Option Char} {t : Text}

/-- A pattern is read piece by piece. -/
theorem read?_cons {p : Piece} {ps : Pattern} {taken between after : Text} {pieces : List Text}
    (hp : p.take? before t = some (taken, between))
    (hps : read? ps (taken.getLast?.or before) between = some ⟨pieces, after⟩) :
    read? (p :: ps) before t = some ⟨taken :: pieces, after⟩ := by
  rw [read?, hp]
  simp only [hps]

theorem exists_of_read?_cons {p : Piece} {ps : Pattern} {m : Match}
    (h : read? (p :: ps) before t = some m) :
    ∃ taken rest m', p.take? before t = some (taken, rest) ∧
      ps.read? (taken.getLast?.or before) rest = some m' ∧ m = ⟨taken :: m'.pieces, m'.rest⟩ := by
  rw [read?] at h
  split at h
  · exact absurd h (by simp)
  · next taken rest hp =>
    split at h
    · exact absurd h (by simp)
    · next m' hm => exact ⟨taken, rest, m', hp, hm, (Option.some.inj h).symm⟩

theorem read?_cons_of_eq_none {p : Piece} {ps : Pattern} (hp : p.take? before t = none) :
    read? (p :: ps) before t = none := by
  rw [read?, hp]

/-- A pattern that starts with an `edge` is read where a word starts or ends. -/
theorem read?_edge (ps : Pattern) (before : Option Char) (t : Text) :
    read? (.edge :: ps) before t =
      if before.any Text.isWord = t.head?.any Text.isWord then none
      else (ps.read? before t).map fun m => ⟨[] :: m.pieces, m.rest⟩ := by
  rw [read?, Piece.take?]
  by_cases h : before.any Text.isWord = t.head?.any Text.isWord
  · rw [if_neg (by simp [h]), if_pos h]
  · rw [if_pos (by simpa using h), if_neg h]
    simp only [List.getLast?_nil, Option.none_or]
    cases ps.read? before t <;> rfl

/-- Each text of a match is one that its piece can stand for. -/
theorem forall₂_takes {ps : Pattern} {m : Match} (h : ps.read? before t = some m) :
    List.Forall₂ Piece.Takes ps m.pieces := by
  induction ps generalizing before t m with
  | nil =>
    obtain rfl := Option.some.inj h
    exact .nil
  | cons p ps ih =>
    obtain ⟨taken, rest, m', hp, hm, rfl⟩ := exists_of_read?_cons h
    exact .cons ⟨before, t, rest, hp⟩ (ih hm)

theorem length_rest_lt {ps : Pattern} {m : Match} (h : ps.read? before t = some m)
    (hm : m.text ≠ []) : m.rest.length < t.length :=
  Matcher.Splits.length_rest_lt (f := ps.read?) (splits ps) h hm

/-- A pattern without an `edge` does not look at the character before it. -/
theorem isFree_read? {ps : Pattern} (h : ∀ p ∈ ps, p ≠ .edge) : Matcher.IsFree ps.read? := by
  induction ps with
  | nil => exact fun _ _ _ => rfl
  | cons p ps ih =>
    intro before before' t
    rw [read?, read?, Piece.take?_congr (h p (by simp)) before before']
    split
    · rfl
    · next taken rest _ =>
      rw [ih (fun q hq => h q (by simp [hq])) _ (taken.getLast?.or before')]

end Pattern

/-! ## Scans -/

/-- What a scan writes for a segment, with `g m` in place of a match `m`. -/
def Segment.written (g : Match → Text) : Segment → Text
  | plain c => [c]
  | hit m => g m

namespace Matcher

variable {f : Matcher} {g : Match → Text}

theorem replaceAll_eq_flatMap (t : Text) :
    f.replaceAll g t = (f.segments t).flatMap (Segment.written g) := rfl

theorem segmentsFrom_congr (hf : f.IsFree) (before before' : Option Char) (t : Text) :
    f.segmentsFrom before t = f.segmentsFrom before' t := by
  fun_induction segmentsFrom f before t generalizing before' with
  | case1 => rw [segmentsFrom]
  | case2 before c r hm _ => rw [segmentsFrom, hf before' before, hm]
  | case3 before c r m hm hlt ih =>
    rw [segmentsFrom, hf before' before, hm]
    simp only [if_pos hlt, ih (m.text.getLast?.or before')]
  | case4 before c r m hm hlt _ =>
    rw [segmentsFrom, hf before' before, hm]
    simp only [if_neg hlt]

@[simp]
theorem replaceAll_nil : f.replaceAll g [] = [] := by
  simp [replaceAll, segments, segmentsFrom]

theorem mem_findAll {t : Text} {m : Match} : m ∈ f.findAll t ↔ .hit m ∈ f.segments t := by
  rw [findAll, List.mem_filterMap]
  constructor
  · rintro ⟨seg, hseg, hm⟩
    cases seg with
    | plain c => exact absurd hm (by simp [Segment.match?])
    | hit m' =>
      obtain rfl := Option.some.inj hm
      exact hseg
  · intro h
    exact ⟨.hit m, h, rfl⟩

/-- What a scan finds is a match somewhere. -/
theorem exists_of_hit_mem {before : Option Char} {t : Text} {m : Match}
    (h : .hit m ∈ f.segmentsFrom before t) : ∃ before' t', f before' t' = some m := by
  fun_induction segmentsFrom f before t with
  | case1 => exact absurd h List.not_mem_nil
  | case2 before c r _ ih => exact ih (by simpa using h)
  | case3 before c r m' hm _ ih =>
    rcases List.mem_cons.1 h with heq | h
    · obtain rfl := Segment.hit.inj heq
      exact ⟨_, _, hm⟩
    · exact ih h
  | case4 before c r m' _ _ ih => exact ih (by simpa using h)

theorem exists_of_mem_findAll {t : Text} {m : Match} (h : m ∈ f.findAll t) :
    ∃ before t', f before t' = some m :=
  exists_of_hit_mem (mem_findAll.1 h)

/-- Where nothing matches, a character stands by itself. -/
theorem segmentsFrom_cons {before : Option Char} {c : Char} {r : Text}
    (h : f before (c :: r) = none) :
    f.segmentsFrom before (c :: r) = .plain c :: f.segmentsFrom (some c) r := by
  rw [segmentsFrom, h]

/-- Where something matches, a scan goes on after it. -/
theorem segmentsFrom_of_eq_some {before : Option Char} {t : Text} {m : Match}
    (h : f before t = some m) (hlt : m.rest.length < t.length) :
    f.segmentsFrom before t = .hit m :: f.segmentsFrom (m.text.getLast?.or before) m.rest := by
  cases t with
  | nil => exact absurd hlt (by simp)
  | cons c r =>
    rw [segmentsFrom, h]
    simp only [if_pos hlt]

theorem segments_cons (hf : f.IsFree) {c : Char} {r : Text} (h : f none (c :: r) = none) :
    f.segments (c :: r) = .plain c :: f.segments r := by
  rw [segments, segmentsFrom_cons h, segmentsFrom_congr hf (some c) none]
  rfl

theorem segments_of_eq_some (hf : f.IsFree) {t : Text} {m : Match} (h : f none t = some m)
    (hlt : m.rest.length < t.length) : f.segments t = .hit m :: f.segments m.rest := by
  rw [segments, segmentsFrom_of_eq_some h hlt, segmentsFrom_congr hf _ none]
  rfl

/-- Where nothing matches, a scan copies the character. -/
theorem replaceAll_cons (hf : f.IsFree) {c : Char} {r : Text} (h : f none (c :: r) = none) :
    f.replaceAll g (c :: r) = c :: f.replaceAll g r := by
  rw [replaceAll, segments_cons hf h, List.flatMap_cons]
  rfl

/-- Where something matches, a scan writes its replacement and goes on after it. -/
theorem replaceAll_of_eq_some (hf : f.IsFree) {t : Text} {m : Match} (h : f none t = some m)
    (hlt : m.rest.length < t.length) : f.replaceAll g t = g m ++ f.replaceAll g m.rest := by
  rw [replaceAll, segments_of_eq_some hf h hlt, List.flatMap_cons]
  rfl

/-- What a scan writes when it starts after the character `before`. -/
def replaceFrom (f : Matcher) (g : Match → Text) (before : Option Char) (t : Text) : Text :=
  (f.segmentsFrom before t).flatMap (Segment.written g)

@[simp]
theorem replaceFrom_nil (before : Option Char) : f.replaceFrom g before [] = [] := by
  simp [replaceFrom, segmentsFrom]

theorem replaceFrom_cons {before : Option Char} {c : Char} {r : Text}
    (h : f before (c :: r) = none) :
    f.replaceFrom g before (c :: r) = c :: f.replaceFrom g (some c) r := by
  rw [replaceFrom, segmentsFrom_cons h, List.flatMap_cons]
  rfl

theorem replaceFrom_of_eq_some {before : Option Char} {t : Text} {m : Match}
    (h : f before t = some m) (hlt : m.rest.length < t.length) :
    f.replaceFrom g before t = g m ++ f.replaceFrom g (m.text.getLast?.or before) m.rest := by
  rw [replaceFrom, segmentsFrom_of_eq_some h hlt, List.flatMap_cons]
  rfl

/-- Induction along a scan: at the front of a text nothing matches, or something does and the scan
    goes on after it. -/
@[elab_as_elim]
theorem scanFromInduction {motive : Option Char → Text → Prop} (f : Matcher)
    (hf : ∀ {before t m}, f before t = some m → m.rest.length < t.length)
    (nil : ∀ before, motive before [])
    (copy : ∀ before c r, f before (c :: r) = none → motive (some c) r → motive before (c :: r))
    (hit : ∀ before t m, f before t = some m → motive (m.text.getLast?.or before) m.rest →
      motive before t) (before : Option Char) (t : Text) : motive before t :=
  match t with
  | [] => nil before
  | c :: r => by
    cases hm : f before (c :: r) with
    | none => exact copy before c r hm (scanFromInduction f hf nil copy hit (some c) r)
    | some m =>
      have hlt := hf hm
      exact hit before (c :: r) m hm (scanFromInduction f hf nil copy hit _ m.rest)
termination_by t.length
decreasing_by
  · simp
  · exact hlt

/-- Induction along a scan that does not look at the character before the text. -/
@[elab_as_elim]
theorem scanInduction {motive : Text → Prop} (f : Matcher)
    (hf : ∀ {t m}, f none t = some m → m.rest.length < t.length) (nil : motive [])
    (copy : ∀ c r, f none (c :: r) = none → motive r → motive (c :: r))
    (hit : ∀ t m, f none t = some m → motive m.rest → motive t) (t : Text) : motive t :=
  match t with
  | [] => nil
  | c :: r => by
    cases hm : f none (c :: r) with
    | none => exact copy c r hm (scanInduction f hf nil copy hit r)
    | some m =>
      have hlt := hf hm
      exact hit (c :: r) m hm (scanInduction f hf nil copy hit m.rest)
termination_by t.length
decreasing_by
  · simp
  · exact hlt

end Matcher

end Retouch
