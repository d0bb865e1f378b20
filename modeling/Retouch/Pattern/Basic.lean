/-
  Patterns: sequences of pieces that are read off the front of a text one after another.

  A piece takes the characters it stands for and leaves the rest; a run takes as many characters as
  it can and gives none back.  In every pattern of this library what comes after a run cannot be read
  where the run is cut short, so the longest run is also the only one that lets the pattern go on
  (`Pattern.search?_eq_read?_of_mem_library`).

  * `Piece.take?` reads one piece, knowing the character before it (an `edge` looks at it);
  * `Pattern.read?` reads a whole pattern and returns the text of each piece and the rest;
  * nothing is lost: the texts of the pieces and the rest concatenate to the text read
    (`Piece.append_take?`, `Pattern.append_read?`).
-/
import Retouch.Text.Word

namespace Retouch

/-! ## Pieces -/

/-- One element of a pattern. -/
inductive Piece where
  /-- These very characters. -/
  | word (w : Text)
  /-- The first of these words that the text starts with. -/
  | oneOf (ws : List Text)
  /-- These characters if they come next, otherwise nothing. -/
  | maybe (w : Text)
  /-- The longest run of characters that satisfy `p`, at least `least` of them. -/
  | run (least : Nat) (p : Char → Bool)
  /-- Within the longest run of characters that satisfy `p`, all up to the last `c`. -/
  | runTo (p : Char → Bool) (c : Char)
  /-- The shortest text that ends in `w`, which is not empty. -/
  | through (w : Text)
  /-- A letter or underscore and the word characters after it. -/
  | name
  /-- Nothing, where a word starts or ends. -/
  | edge
  /-- Nothing, before a newline or at the end. -/
  | lineEnd

/-- The shortest front of a text that ends in `w`, and what follows it. -/
def Text.through? (w : Text) : Text → Option (Text × Text)
  | [] => if w.isEmpty then some ([], []) else none
  | c :: t =>
    if w.isPrefixOf (c :: t) then some (w, (c :: t).drop w.length)
    else (through? w t).map fun (taken, rest) => (c :: taken, rest)

namespace Piece

/-- The text of a piece at the front of `t` and what is left of `t`; `before` is the character in
    front of `t`. -/
def take? (before : Option Char) (t : Text) : Piece → Option (Text × Text)
  | word w => if w.isPrefixOf t then some (w, t.drop w.length) else none
  | oneOf ws => (ws.find? (·.isPrefixOf t)).map fun w => (w, t.drop w.length)
  | maybe w => if w.isPrefixOf t then some (w, t.drop w.length) else some ([], t)
  | run least p =>
    if least ≤ (t.takeWhile p).length then some (t.takeWhile p, t.dropWhile p) else none
  | runTo p c =>
    let taken := Text.dropEndWhile (· != c) (t.takeWhile p)
    if taken.isEmpty then none else some (taken, t.drop taken.length)
  | through w => Text.through? w t
  | name =>
    match t with
    | [] => none
    | c :: r =>
      if Text.isNameStart c then some (c :: r.takeWhile Text.isWord, r.dropWhile Text.isWord)
      else none
  | edge => if before.any Text.isWord != t.head?.any Text.isWord then some ([], t) else none
  | lineEnd => if t.head?.all (· == '\n') then some ([], t) else none

end Piece

/-! ## Patterns -/

/-- What a match covers, piece by piece, and the text after it. -/
structure Match where
  pieces : List Text
  rest : Text
deriving Repr, DecidableEq

namespace Match

/-- The text that the match covers. -/
def text (m : Match) : Text := m.pieces.flatten

/-- The text of the `i`-th piece. -/
def piece (m : Match) (i : Nat) : Text := m.pieces.getD i []

end Match

/-- A way to find a match at the front of a text, given the character before it. -/
abbrev Matcher := Option Char → Text → Option Match

/-- A pattern is a sequence of pieces. -/
abbrev Pattern := List Piece

/-- The match of a pattern at the front of a text. -/
def Pattern.read? : Pattern → Matcher
  | [], _, t => some ⟨[], t⟩
  | p :: ps, before, t =>
    match p.take? before t with
    | none => none
    | some (taken, rest) =>
      match read? ps (taken.getLast?.or before) rest with
      | none => none
      | some m => some ⟨taken :: m.pieces, m.rest⟩

/-! ## Nothing is lost -/

theorem Text.append_through? {w t taken rest : Text} (h : through? w t = some (taken, rest)) :
    taken ++ rest = t := by
  induction t generalizing taken rest with
  | nil => simp only [through?] at h; split at h <;> simp_all
  | cons c t ih =>
    rw [through?] at h
    split at h
    · next hw =>
      obtain ⟨rfl, rfl⟩ := by simpa using h
      obtain ⟨r, hr⟩ := List.isPrefixOf_iff_prefix.1 hw
      rw [← hr]; simp
    · obtain ⟨⟨a, b⟩, hab, heq⟩ := Option.map_eq_some_iff.1 h
      obtain ⟨rfl, rfl⟩ := by simpa using heq
      simp [ih hab]

theorem Text.isPrefixOf_append_drop {w t : Text} (h : w.isPrefixOf t = true) :
    w ++ t.drop w.length = t := by
  obtain ⟨r, rfl⟩ := List.isPrefixOf_iff_prefix.1 h
  simp

/-- What is left after dropping an end of a text is a front of it. -/
theorem Text.dropEndWhile_prefix (p : Char → Bool) (t : Text) : dropEndWhile p t <+: t := by
  have h := List.dropWhile_suffix (l := t.reverse) p
  simpa [dropEndWhile] using List.reverse_prefix.2 h

/-- A piece splits the text at which it is read. -/
theorem Piece.append_take? {p : Piece} {before : Option Char} {t taken rest : Text}
    (h : p.take? before t = some (taken, rest)) : taken ++ rest = t := by
  cases p with
  | word w =>
    simp only [take?] at h
    split at h
    · next hw => obtain ⟨rfl, rfl⟩ := by simpa using h
                 exact Text.isPrefixOf_append_drop hw
    · simp at h
  | oneOf ws =>
    obtain ⟨w, hw, heq⟩ := Option.map_eq_some_iff.1 h
    obtain ⟨rfl, rfl⟩ := by simpa using heq
    exact Text.isPrefixOf_append_drop (by simpa using List.find?_some hw)
  | maybe w =>
    simp only [take?] at h
    split at h
    · next hw => obtain ⟨rfl, rfl⟩ := by simpa using h
                 exact Text.isPrefixOf_append_drop hw
    · obtain ⟨rfl, rfl⟩ := by simpa using h
      rfl
  | run least p =>
    simp only [take?] at h
    split at h
    · obtain ⟨rfl, rfl⟩ := by simpa using h
      exact List.takeWhile_append_dropWhile
    · simp at h
  | runTo p c =>
    simp only [take?] at h
    split at h
    · simp at h
    · obtain ⟨rfl, rfl⟩ := by simpa using h
      obtain ⟨r, hr⟩ := (Text.dropEndWhile_prefix (· != c) (t.takeWhile p)).trans
        (List.takeWhile_prefix p)
      exact List.prefix_iff_eq_append.1 ⟨r, hr⟩
  | through w => exact Text.append_through? h
  | name =>
    cases t with
    | nil => simp [take?] at h
    | cons c r =>
      simp only [take?] at h
      split at h
      · obtain ⟨rfl, rfl⟩ := by simpa using h
        simp
      · simp at h
  | edge =>
    simp only [take?] at h
    split at h
    · obtain ⟨rfl, rfl⟩ := by simpa using h
      rfl
    · simp at h
  | lineEnd =>
    simp only [take?] at h
    split at h
    · obtain ⟨rfl, rfl⟩ := by simpa using h
      rfl
    · simp at h

/-- A pattern splits the text at which it is read. -/
theorem Pattern.append_read? {ps : Pattern} {before : Option Char} {t : Text} {m : Match}
    (h : ps.read? before t = some m) : m.text ++ m.rest = t := by
  induction ps generalizing before t m with
  | nil => obtain rfl := by simpa [read?] using h
           rfl
  | cons p ps ih =>
    rw [read?] at h
    split at h
    · simp at h
    · next taken rest hp =>
      split at h
      · simp at h
      · next m' hm =>
        obtain rfl := by simpa using h
        have := ih hm
        simp only [Match.text, List.flatten_cons, List.append_assoc] at this ⊢
        rw [this, Piece.append_take? hp]

end Retouch
