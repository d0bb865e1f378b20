/-
  Comments, and what their removal leaves.

  `lexemes` reads a text from left to right: outside a comment `//` opens one that goes on to the end
  of its line, and `/*` one that goes on through the next `*/`, if there is one; markers inside a
  comment do not count.  `withoutComments` keeps the code between the comments.

  The pass drops all line comments first and the block comments after them, so that it takes a `//`
  inside a block comment for the start of a line comment.  That is harmless if the line ends inside
  the comment too.  `apart` says that it always does.

  * `dropLineComments_append`: dropping line comments may be done part by part, where no line comment
    runs from one part into the next;
  * `dropBlockComments_dropLineComments`: on texts with `apart` lexemes the two scans give
    `withoutComments`;
  * `dropTrailingPadding_eq`: the last scan is `trimLineEnds`, on every text;
  * `stripComments_apply`: what the pass does on texts with `apart` lexemes;
  * `stripComments_apply_ne`: a block comment with which code is lost.
-/
import Retouch.Pass.Comments
import Retouch.Proofs.Scanning

namespace Retouch

/-! ## Lexemes -/

/-- A part of a program text: a character of code, or a comment without its markers. -/
inductive Lexeme where
  | code (c : Char)
  | line (body : Text)
  | block (body : Text)
deriving Repr, DecidableEq

namespace Lexeme

/-- The characters of a lexeme in the text. -/
def text : Lexeme → Text
  | code c => [c]
  | line body => '/' :: '/' :: body
  | block body => '/' :: '*' :: (body ++ ['*', '/'])

/-- What a lexeme leaves when comments are erased. -/
def kept : Lexeme → Text
  | code c => [c]
  | line _ => []
  | block _ => []

end Lexeme

namespace Text

/-- What stands in front of the first `*/`, and what follows it. -/
def closing? : Text → Option (Text × Text)
  | [] => none
  | '*' :: '/' :: r => some ([], r)
  | c :: r => (closing? r).map fun (body, rest) => (c :: body, rest)

theorem length_lt_of_closing? {t body rest : Text} (h : closing? t = some (body, rest)) :
    rest.length < t.length := by
  fun_induction closing? t generalizing body with
  | case1 => exact absurd h (by simp)
  | case2 r =>
    obtain ⟨-, rfl⟩ := by simpa using h
    simp only [List.length_cons]
    omega
  | case3 c r _ ih =>
    obtain ⟨⟨body', rest'⟩, hr, heq⟩ := Option.map_eq_some_iff.1 h
    obtain ⟨-, rfl⟩ := by simpa using heq
    exact Nat.lt_succ_of_lt (ih hr)

/-- The lexemes of a text, in order. -/
def lexemes (t : Text) : List Lexeme :=
  match t with
  | [] => []
  | '/' :: '/' :: r => .line (r.takeWhile (· != '\n')) :: lexemes (r.dropWhile (· != '\n'))
  | '/' :: '*' :: r =>
    match _h : closing? r with
    | some (body, rest) => .block body :: lexemes rest
    | none => .code '/' :: lexemes ('*' :: r)
  | c :: r => .code c :: lexemes r
termination_by t.length
decreasing_by
  · have := (List.dropWhile_sublist (· != '\n') (l := r)).length_le
    simp only [List.length_cons]
    omega
  · have := length_lt_of_closing? ‹_›
    simp only [List.length_cons]
    omega
  · simp
  · simp

/-- The text without its comments. -/
def withoutComments (t : Text) : Text := (lexemes t).flatMap Lexeme.kept

/-- Whether `//` stands in a text with no newline after it. -/
def opensLine : Text → Bool
  | [] => false
  | c :: r => (['/', '/'].isPrefixOf (c :: r) && !r.contains '\n') || opensLine r

/-- Whether no line comment could be taken to start inside a block comment and end after it: no `//`
    stands in the last line of a block comment, and no slash follows a block comment. -/
def apart : List Lexeme → Bool
  | [] => true
  | .block body :: ls =>
    !opensLine (Lexeme.block body).text && (ls.flatMap Lexeme.text).head? != some '/' && apart ls
  | .line _ :: ls => apart ls
  | .code _ :: ls => apart ls

/-- The text without the spaces and tabs at the ends of its lines: those with only such characters
    between them and the newline or the end of the text. -/
def trimLineEnds : Text → Text
  | [] => []
  | c :: t =>
    if isPadding c && (t.takeWhile (· != '\n')).all isPadding then trimLineEnds t
    else c :: trimLineEnds t

/-! ## The end of a block comment -/

theorem not_close_of_ne {c : Char} {r : Text} (h : ∀ s, c = '*' → r = '/' :: s → False) :
    ¬ ['*', '/'] <+: c :: r := by
  rintro ⟨s, hs⟩
  obtain ⟨rfl, rfl⟩ : '*' = c ∧ '/' :: s = r := by simpa using hs
  exact h s rfl rfl

/-- A block comment ends with the first `*/`. -/
theorem eq_append_of_closing? {t body rest : Text} (h : closing? t = some (body, rest)) :
    t = body ++ '*' :: '/' :: rest ∧ ¬ ['*', '/'] <:+: body ++ ['*'] := by
  fun_induction closing? t generalizing body with
  | case1 => exact absurd h (by simp)
  | case2 r =>
    obtain ⟨rfl, rfl⟩ := by simpa using h
    exact ⟨rfl, by decide⟩
  | case3 c r hc ih =>
    obtain ⟨⟨body', rest'⟩, hr, heq⟩ := Option.map_eq_some_iff.1 h
    obtain ⟨rfl, rfl⟩ := by simpa using heq
    obtain ⟨rfl, hno⟩ := ih hr
    refine ⟨rfl, ?_⟩
    have hfront : c :: (body' ++ ['*']) <+: c :: (body' ++ '*' :: '/' :: rest') :=
      ⟨'/' :: rest', by simp⟩
    rw [List.cons_append, List.infix_cons_iff, not_or]
    exact ⟨fun hpre => not_close_of_ne hc (hpre.trans hfront), hno⟩

theorem closing?_append {body : Text} (h : ¬ ['*', '/'] <:+: body ++ ['*']) (rest : Text) :
    closing? (body ++ '*' :: '/' :: rest) = some (body, rest) := by
  induction body with
  | nil => rfl
  | cons c body ih =>
    rw [List.cons_append, List.infix_cons_iff, not_or] at h
    rw [List.cons_append, closing?, ih h.2]
    · rfl
    · rintro s rfl hs
      cases body with
      | nil => exact absurd hs (by simp)
      | cons d body =>
        obtain rfl : d = '/' := by simpa using (List.cons.inj hs).1
        exact h.1 ⟨body ++ ['*'], rfl⟩

theorem closing?_eq_none_iff {t : Text} : closing? t = none ↔ ¬ ['*', '/'] <:+: t := by
  fun_induction closing? t with
  | case1 => simp
  | case2 r => simp [List.infix_cons_iff]
  | case3 c r hc ih =>
    rw [Option.map_eq_none_iff, ih, List.infix_cons_iff, not_or, iff_and_self]
    exact fun _ => not_close_of_ne hc

theorem through?_close (t : Text) :
    through? ['*', '/'] t = (closing? t).map fun (body, rest) => (body ++ ['*', '/'], rest) := by
  fun_induction closing? t with
  | case1 => rfl
  | case2 r => simp [through?]
  | case3 c r hc ih =>
    have hno : ¬ ['*', '/'].isPrefixOf (c :: r) = true := by
      rw [List.isPrefixOf_iff_prefix]
      exact not_close_of_ne hc
    rw [through?, if_neg hno, ih, Option.map_map, Option.map_map]
    rfl

/-! ## Nothing is lost -/

/-- The lexemes of a text concatenate to it. -/
theorem flatMap_text_lexemes (t : Text) : (lexemes t).flatMap Lexeme.text = t := by
  fun_induction lexemes t with
  | case1 => rfl
  | case2 r ih =>
    rw [List.flatMap_cons, ih, Lexeme.text, List.cons_append, List.cons_append,
      List.takeWhile_append_dropWhile]
  | case3 r body rest h ih =>
    rw [List.flatMap_cons, ih, (eq_append_of_closing? h).1, Lexeme.text]
    simp
  | case4 r h ih => rw [List.flatMap_cons, ih, Lexeme.text, List.singleton_append]
  | case5 c r _ _ ih => rw [List.flatMap_cons, ih, Lexeme.text, List.singleton_append]

/-! ## Open lines -/

theorem opensLine_iff {u : Text} :
    opensLine u = true ↔ ∃ a b, u = a ++ '/' :: '/' :: b ∧ '\n' ∉ b := by
  induction u with
  | nil => simp [opensLine]
  | cons c r ih =>
    rw [opensLine, Bool.or_eq_true, ih, Bool.and_eq_true, List.isPrefixOf_iff_prefix]
    constructor
    · rintro (⟨⟨b, hb⟩, hnl⟩ | ⟨a, b, rfl, hnl⟩)
      · obtain ⟨rfl, rfl⟩ : '/' = c ∧ '/' :: b = r := by simpa using hb
        exact ⟨[], b, rfl, by simpa using hnl⟩
      · exact ⟨c :: a, b, rfl, hnl⟩
    · rintro ⟨a, b, hab, hnl⟩
      cases a with
      | nil =>
        obtain ⟨rfl, rfl⟩ := List.cons.inj hab
        exact .inl ⟨⟨b, rfl⟩, by simpa using hnl⟩
      | cons d a =>
        obtain ⟨rfl, rfl⟩ := List.cons.inj hab
        exact .inr ⟨a, b, rfl, hnl⟩

/-- A part of a text opens no line if the text does not, and no newline follows the part. -/
theorem opensLine_of_append {a u b : Text} (h : opensLine (a ++ u ++ b) = false) (hb : '\n' ∉ b) :
    opensLine u = false := by
  rw [Bool.eq_false_iff, Ne, opensLine_iff] at h ⊢
  rintro ⟨x, y, rfl, hy⟩
  exact h ⟨a ++ x, y ++ b, by simp, by simp [hy, hb]⟩

theorem opensLine_of_suffix {u v : Text} (h : opensLine u = false) (hv : v <:+ u) :
    opensLine v = false := by
  obtain ⟨a, rfl⟩ := hv
  exact opensLine_of_append (b := []) (by simpa using h) (by simp)

/-- A `//` in a text that opens no line has a newline after it. -/
theorem newline_mem_of_opensLine {r : Text} (h : opensLine ('/' :: '/' :: r) = false) : '\n' ∈ r := by
  by_contra hr
  rw [Bool.eq_false_iff, Ne, opensLine_iff] at h
  exact h ⟨[], r, rfl, hr⟩

end Text

namespace Pass

open Text

/-! ## The first scan -/

theorem isFree_lineComment : Matcher.IsFree lineComment.read? :=
  Pattern.isFree_read? (by simp [lineComment, Piece.lit])

@[simp]
theorem dropLineComments_nil : dropLineComments [] = [] := Matcher.replaceAll_nil

/-- A line comment is dropped up to its newline. -/
theorem dropLineComments_marker (r : Text) :
    dropLineComments ('/' :: '/' :: r) = dropLineComments (r.dropWhile (· != '\n')) := by
  have hread : lineComment.read? none ('/' :: '/' :: r) =
      some ⟨["//".toList, r.takeWhile (· != '\n')], r.dropWhile (· != '\n')⟩ := by
    simp [lineComment, Piece.lit, Pattern.read?, Piece.take?]
  have hlt : (r.dropWhile (· != '\n')).length < ('/' :: '/' :: r).length := by
    have := (List.dropWhile_sublist (· != '\n') (l := r)).length_le
    simp only [List.length_cons]
    omega
  exact Matcher.replaceAll_of_eq_some isFree_lineComment hread hlt

theorem dropLineComments_cons {c : Char} {r : Text} (h : ¬ ['/', '/'] <+: c :: r) :
    dropLineComments (c :: r) = c :: dropLineComments r :=
  Matcher.replaceAll_cons isFree_lineComment
    (Pattern.read?_cons_of_eq_none (Piece.take?_word_eq_none h))

/-- Induction along the scan. -/
@[elab_as_elim]
theorem lineInduction {motive : Text → Prop} (nil : motive [])
    (marker : ∀ r, motive (r.dropWhile (· != '\n')) → motive ('/' :: '/' :: r))
    (cons : ∀ c r, ¬ ['/', '/'] <+: c :: r → motive r → motive (c :: r)) (t : Text) : motive t :=
  match t with
  | [] => nil
  | c :: r => by
    by_cases hm : ['/', '/'] <+: c :: r
    · obtain ⟨s, hs⟩ := hm
      have hlt : (s.dropWhile (· != '\n')).length < (c :: r).length := by
        rw [← hs]
        exact Nat.lt_succ_of_le (Nat.le_succ_of_le (List.dropWhile_sublist _).length_le)
      rw [← hs]
      exact marker s (lineInduction nil marker cons (s.dropWhile (· != '\n')))
    · exact cons c r hm (lineInduction nil marker cons r)
termination_by t.length
decreasing_by
  · exact hlt
  · simp

/-- What is left of a line when its comment is dropped starts with the newline, if there is any. -/
theorem dropWhile_line (r : Text) : r.dropWhile (· != '\n') = [] ∨
    ∃ s, r.dropWhile (· != '\n') = '\n' :: s := by
  induction r with
  | nil => exact .inl rfl
  | cons c r ih =>
    by_cases hc : c = '\n'
    · subst hc
      exact .inr ⟨r, rfl⟩
    · rw [List.dropWhile_cons_of_pos (by simpa using hc)]
      exact ih

/-- What comes first after the scan came first before it, unless it is a newline. -/
theorem head?_of_dropLineComments {t : Text} {d : Char} (hd : d ≠ '\n')
    (h : (dropLineComments t).head? = some d) : t.head? = some d := by
  cases t using lineInduction with
  | nil => exact absurd h (by simp)
  | marker r _ =>
    rw [dropLineComments_marker] at h
    rcases dropWhile_line r with hnil | ⟨s, hs⟩
    · rw [hnil] at h
      exact absurd h (by simp)
    · rw [hs, dropLineComments_cons (by simp [List.cons_prefix_cons])] at h
      exact absurd (Option.some.inj h).symm hd
  | cons c r hm _ =>
    rw [dropLineComments_cons hm] at h
    exact h

/-- The scan makes no `*/`. -/
theorem close_infix_of_dropLineComments {t : Text} (h : ['*', '/'] <:+: dropLineComments t) :
    ['*', '/'] <:+: t := by
  induction t using lineInduction with
  | nil => rwa [dropLineComments_nil] at h
  | marker r ih =>
    rw [dropLineComments_marker] at h
    have hsuffix : r.dropWhile (· != '\n') <:+ '/' :: '/' :: r :=
      (List.dropWhile_suffix _).trans ⟨['/', '/'], rfl⟩
    exact (ih h).trans hsuffix.isInfix
  | cons c r hm ih =>
    rw [dropLineComments_cons hm, List.infix_cons_iff] at h
    rcases h with ⟨w, hw⟩ | h
    · obtain ⟨rfl, hr⟩ : '*' = c ∧ '/' :: w = dropLineComments r := by simpa using hw
      have hhead : r.head? = some '/' :=
        head?_of_dropLineComments (by decide) (by rw [← hr]; rfl)
      obtain ⟨w', rfl⟩ := List.head?_eq_some_iff.1 hhead
      exact ⟨[], w', rfl⟩
    · exact (ih h).trans (List.suffix_cons c r).isInfix

theorem getLast?_of_suffix {u v : Text} {c : Char} (hv : v <:+ u) (h : v.getLast? = some c) :
    u.getLast? = some c := by
  obtain ⟨a, rfl⟩ := hv
  rw [List.getLast?_append, h]
  rfl

/-- **Line comments may be dropped part by part**, where no line comment runs from the first part into
    the second. -/
theorem dropLineComments_append {u v : Text} (hu : opensLine u = false)
    (huv : u.getLast? = some '/' → v.head? ≠ some '/') :
    dropLineComments (u ++ v) = dropLineComments u ++ dropLineComments v := by
  induction u using lineInduction with
  | nil => simp
  | marker r ih =>
    have hnl := newline_mem_of_opensLine hu
    have hsuffix : r.dropWhile (· != '\n') <:+ '/' :: '/' :: r :=
      (List.dropWhile_suffix _).trans ⟨['/', '/'], rfl⟩
    rw [List.cons_append, List.cons_append, dropLineComments_marker, dropLineComments_marker,
      dropWhile_append_of_mem hnl (by decide)]
    exact ih (opensLine_of_suffix hu hsuffix) fun hlast => huv (getLast?_of_suffix hsuffix hlast)
  | cons c r hm ih =>
    have hm' : ¬ ['/', '/'] <+: c :: (r ++ v) := by
      intro hpre
      cases r with
      | nil =>
        obtain ⟨w, hw⟩ := hpre
        obtain ⟨rfl, hv⟩ : '/' = c ∧ '/' :: w = v := by simpa using hw
        exact huv rfl (by rw [← hv]; rfl)
      | cons d r =>
        obtain ⟨rfl, rfl⟩ : '/' = c ∧ '/' = d := by simpa [List.cons_prefix_cons] using hpre
        exact hm ⟨r, rfl⟩
    have hsuffix : r <:+ c :: r := List.suffix_cons c r
    rw [List.cons_append, dropLineComments_cons hm', dropLineComments_cons hm, List.cons_append,
      ih (opensLine_of_suffix hu hsuffix) fun hlast => huv (getLast?_of_suffix hsuffix hlast)]

/-- A block comment keeps its markers in the scan, and the rest of the text is scanned by itself. -/
theorem dropLineComments_block {body rest : Text}
    (hblock : opensLine (Lexeme.block body).text = false) (hrest : rest.head? ≠ some '/') :
    dropLineComments ('/' :: '*' :: (body ++ '*' :: '/' :: rest)) =
      '/' :: '*' :: (dropLineComments body ++ '*' :: '/' :: dropLineComments rest) := by
  have hbody : opensLine body = false :=
    opensLine_of_append (a := ['/', '*']) (b := ['*', '/']) hblock (by decide)
  calc dropLineComments ('/' :: '*' :: (body ++ '*' :: '/' :: rest))
    _ = dropLineComments ((Lexeme.block body).text ++ rest) := by simp [Lexeme.text]
    _ = dropLineComments (Lexeme.block body).text ++ dropLineComments rest :=
      dropLineComments_append hblock fun _ => hrest
    _ = '/' :: '*' :: dropLineComments (body ++ ['*', '/']) ++ dropLineComments rest := by
      rw [Lexeme.text, dropLineComments_cons (by simp [List.cons_prefix_cons]),
        dropLineComments_cons (by simp [List.cons_prefix_cons])]
    _ = '/' :: '*' :: (dropLineComments body ++ dropLineComments ['*', '/']) ++
        dropLineComments rest := by
      rw [dropLineComments_append hbody fun _ => by decide]
    _ = '/' :: '*' :: (dropLineComments body ++ '*' :: '/' :: dropLineComments rest) := by
      rw [dropLineComments_cons (by decide), dropLineComments_cons (by decide)]
      simp

/-! ## The second scan -/

theorem isFree_blockComment : Matcher.IsFree blockComment.read? :=
  Pattern.isFree_read? (by simp [blockComment, Piece.lit])

@[simp]
theorem dropBlockComments_nil : dropBlockComments [] = [] := Matcher.replaceAll_nil

/-- A block comment is dropped with its markers. -/
theorem dropBlockComments_block {r body rest : Text} (h : closing? r = some (body, rest)) :
    dropBlockComments ('/' :: '*' :: r) = dropBlockComments rest := by
  have hread : blockComment.read? none ('/' :: '*' :: r) =
      some ⟨["/*".toList, body ++ ['*', '/']], rest⟩ := by
    simp [blockComment, Piece.lit, Pattern.read?, Piece.take?, through?_close, h]
  have hlt : rest.length < ('/' :: '*' :: r).length :=
    Nat.lt_succ_of_lt (Nat.lt_succ_of_lt (length_lt_of_closing? h))
  exact Matcher.replaceAll_of_eq_some isFree_blockComment hread hlt

/-- Where no block comment starts, a character is copied. -/
theorem dropBlockComments_cons {c : Char} {r : Text}
    (h : ∀ s, c = '/' → r = '*' :: s → closing? s = none) :
    dropBlockComments (c :: r) = c :: dropBlockComments r := by
  refine Matcher.replaceAll_cons isFree_blockComment ?_
  by_cases hm : ['/', '*'] <+: c :: r
  · obtain ⟨s, hs⟩ := hm
    obtain ⟨rfl, rfl⟩ : '/' = c ∧ '*' :: s = r := by simpa using hs
    have hclose := h s rfl rfl
    simp [blockComment, Piece.lit, Pattern.read?, Piece.take?, through?_close, hclose]
  · exact Pattern.read?_cons_of_eq_none (Piece.take?_word_eq_none hm)

/-- **The first two scans erase the comments** of a text in which they are apart. -/
theorem dropBlockComments_dropLineComments {t : Text} (h : apart (lexemes t) = true) :
    dropBlockComments (dropLineComments t) = withoutComments t := by
  rw [withoutComments]
  fun_induction lexemes t with
  | case1 => simp
  | case2 r ih =>
    rw [dropLineComments_marker, List.flatMap_cons, ih h]
    rfl
  | case3 r body rest hclose ih =>
    obtain ⟨⟨hblock, hrest⟩, hapart⟩ := by simpa [apart] using h
    rw [flatMap_text_lexemes] at hrest
    obtain ⟨rfl, hno⟩ := eq_append_of_closing? hclose
    have hbody : opensLine body = false :=
      opensLine_of_append (a := ['/', '*']) (b := ['*', '/']) hblock (by decide)
    have hno' : ¬ ['*', '/'] <:+: dropLineComments body ++ ['*'] := by
      intro hin
      have happend : dropLineComments (body ++ ['*']) = dropLineComments body ++ ['*'] := by
        rw [dropLineComments_append hbody fun _ => by decide, dropLineComments_cons (by decide)]
        simp
      exact hno (close_infix_of_dropLineComments (by rwa [happend]))
    rw [dropLineComments_block hblock hrest, dropBlockComments_block (closing?_append hno' _),
      ih hapart]
    rfl
  | case4 r hclose ih =>
    have hno : ¬ ['*', '/'] <:+: dropLineComments r := fun hin =>
      closing?_eq_none_iff.1 hclose (close_infix_of_dropLineComments hin)
    have hstar : dropLineComments ('*' :: r) = '*' :: dropLineComments r :=
      dropLineComments_cons (by simp [List.cons_prefix_cons])
    rw [dropLineComments_cons (by simp [List.cons_prefix_cons]), dropBlockComments_cons, ih h]
    · rfl
    · rintro s - hs
      rw [hstar] at hs
      obtain rfl := (List.cons.inj hs).2
      exact closing?_eq_none_iff.2 hno
  | case5 c r hline hblock ih =>
    have hm : ¬ ['/', '/'] <+: c :: r := by
      rintro ⟨s, hs⟩
      obtain ⟨rfl, rfl⟩ : '/' = c ∧ '/' :: s = r := by simpa using hs
      exact hline s rfl rfl
    rw [dropLineComments_cons hm, dropBlockComments_cons, ih h]
    · rfl
    · rintro s rfl hs
      have hhead : r.head? = some '*' :=
        head?_of_dropLineComments (by decide) (by rw [hs]; rfl)
      obtain ⟨w, rfl⟩ := List.head?_eq_some_iff.1 hhead
      exact absurd rfl (hblock w rfl)

/-! ## The third scan -/

theorem isFree_trailingPadding : Matcher.IsFree trailingPadding.read? :=
  Pattern.isFree_read? (by simp [trailingPadding])

theorem newline_ne_of_isPadding {c : Char} (h : isPadding c = true) : (c != '\n') = true := by
  rw [isPadding, Bool.or_eq_true, beq_iff_eq, beq_iff_eq] at h
  rcases h with rfl | rfl <;> decide

/-- After some padding, the line ends or goes on. -/
theorem all_isPadding_append {u s : Text} (hu : ∀ c ∈ u, isPadding c = true)
    (hs : ∀ c ∈ s.head?, isPadding c = false) :
    ((u ++ s).takeWhile (· != '\n')).all isPadding = s.head?.all (· == '\n') := by
  rw [List.takeWhile_append_of_pos fun c hc => newline_ne_of_isPadding (hu c hc), List.all_append,
    List.all_eq_true.2 hu, Bool.true_and]
  cases s with
  | nil => rfl
  | cons d s =>
    by_cases hd : d = '\n'
    · simp [hd]
    · have hpad := hs d rfl
      rw [List.takeWhile_cons_of_pos (by simpa using hd)]
      simp [hpad, hd]

theorem trimLineEnds_append {u s : Text} (hu : ∀ c ∈ u, isPadding c = true)
    (hs : ∀ c ∈ s.head?, isPadding c = false) (hend : s.head?.all (· == '\n') = true) :
    trimLineEnds (u ++ s) = trimLineEnds s := by
  induction u with
  | nil => rfl
  | cons c u ih =>
    have hu' : ∀ d ∈ u, isPadding d = true := fun d hd => hu d (by simp [hd])
    rw [List.cons_append, trimLineEnds, if_pos, ih hu']
    rw [hu c (by simp), all_isPadding_append hu' hs, hend]
    rfl

/-- **The last scan trims the ends of the lines.** -/
theorem dropTrailingPadding_eq (t : Text) : dropTrailingPadding t = trimLineEnds t :=
  match t with
  | [] => Matcher.replaceAll_nil
  | c :: r => by
    have hcopy (hread : trailingPadding.read? none (c :: r) = none) :
        dropTrailingPadding (c :: r) = c :: trimLineEnds r := by
      rw [← dropTrailingPadding_eq r]
      exact Matcher.replaceAll_cons isFree_trailingPadding hread
    by_cases hc : isPadding c = true
    · have hu : ∀ d ∈ r.takeWhile isPadding, isPadding d = true :=
        List.all_eq_true.1 List.all_takeWhile
      have hs : ∀ d ∈ (r.dropWhile isPadding).head?, isPadding d = false := by
        intro d hd
        have h := List.head?_dropWhile_not isPadding r
        rwa [hd] at h
      have hr : r.takeWhile isPadding ++ r.dropWhile isPadding = r :=
        List.takeWhile_append_dropWhile
      have hline := all_isPadding_append hu hs
      rw [hr] at hline
      by_cases hend : (r.dropWhile isPadding).head?.all (· == '\n') = true
      · -- the padding goes on to the end of the line
        have hread : trailingPadding.read? none (c :: r) =
            some ⟨[c :: r.takeWhile isPadding, []], r.dropWhile isPadding⟩ := by
          simp [trailingPadding, Pattern.read?, Piece.take?, hc, hend]
        have hlt : (r.dropWhile isPadding).length < (c :: r).length :=
          Nat.lt_succ_of_le (List.dropWhile_sublist _).length_le
        calc dropTrailingPadding (c :: r)
          _ = dropTrailingPadding (r.dropWhile isPadding) :=
            Matcher.replaceAll_of_eq_some isFree_trailingPadding hread hlt
          _ = trimLineEnds (r.dropWhile isPadding) := dropTrailingPadding_eq _
          _ = trimLineEnds r := by rw [← trimLineEnds_append hu hs hend, hr]
          _ = trimLineEnds (c :: r) := by rw [trimLineEnds, if_pos (by rw [hc, hline, hend]; rfl)]
      · -- something else follows it
        rw [hcopy, trimLineEnds, hline, if_neg (by simp [hend])]
        simp [trailingPadding, Pattern.read?, Piece.take?, hc, hend]
    · rw [hcopy, trimLineEnds, if_neg (by simp [hc])]
      simp [trailingPadding, Pattern.read?, Piece.take?, hc]
termination_by t.length
decreasing_by
  · simp
  · exact hlt

/-- **Removal of comments**, on texts in which no line comment can be taken to start inside a block
    comment and end after it: the comments are erased and the ends of the lines are trimmed. -/
theorem stripComments_apply (t : Text) (h : apart (lexemes t) = true) :
    stripComments.apply t = trimLineEnds (withoutComments t) := by
  rw [← dropBlockComments_dropLineComments h, ← dropTrailingPadding_eq]
  rfl

/-- A line comment may hold the marker of a block comment, and a block comment that of a line comment
    in a line that ends inside it. -/
theorem stripComments_apply_nested_markers :
    apart (lexemes "a; // b /* c\n/* // d\n */ e; \t\n/* f".toList) = true ∧
      stripComments.apply "a; // b /* c\n/* // d\n */ e; \t\n/* f".toList =
        "a;\n e;\n/* f".toList :=
  ⟨by decide +kernel, (stripComments_apply _ (by decide +kernel)).trans (by decide +kernel)⟩

/-- A `//` in the last line of a block comment is taken for the start of a line comment: the closing
    marker goes, and the code after it. -/
theorem stripComments_apply_ne :
    ∃ t, t = "/* see http://x */ int y;\n".toList ∧ '"' ∉ t ∧ '\'' ∉ t ∧
      stripComments.apply t ≠ trimLineEnds (withoutComments t) ∧
      stripComments.apply t = "/* see http:\n".toList ∧
      trimLineEnds (withoutComments t) = " int y;\n".toList :=
  ⟨_, rfl, by decide, by decide, by decide +kernel, by decide +kernel, by decide +kernel⟩

end Pass

end Retouch
