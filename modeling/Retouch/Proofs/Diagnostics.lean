/-
  Diagnostics read back from the output of a compiler.

  `Parts` describes the lines that carry a remark: a file name, a line number, perhaps a column, the
  kind and the message, with colons between them.  Such a line is read as its parts say
  (`Parts.Fits.remark?_text`), and no other line is read at all (`isRemarkLine_of_remark?`), so a
  carriage return at its end makes no difference (`remark?_append_return`).

  A `Notice` is a diagnostic as a compiler prints it: a line for the message and a line for each note.

  * `foldl_remarks`: the remarks of a notice add one diagnostic, with all of its notes;
  * `ofOutput_joined`: the output of a compiler gives back the notices that were printed, with any
    other lines in between and any notes in front.
-/
import Retouch.Diagnostic.Basic
import Retouch.Proofs.Digits
import Retouch.Proofs.Lines
import Retouch.Proofs.Scanning

namespace Retouch

/-! ## Trimming -/

namespace Text

theorem trimEnd_append_blank {c : Char} (h : isBlank c = true) (t : Text) :
    trimEnd (t ++ [c]) = trimEnd t := by
  rw [trimEnd, trimEnd, dropEndWhile, dropEndWhile, List.reverse_append, List.reverse_singleton,
    List.singleton_append, List.dropWhile_cons_of_pos h]

theorem trim_append_blank {c : Char} (h : isBlank c = true) (t : Text) :
    trim (t ++ [c]) = trim t := by
  rw [trim, trim, trimStart, trimStart, List.dropWhile_append]
  split
  · next hempty =>
    rw [List.isEmpty_iff.1 hempty, List.dropWhile_cons_of_pos h]
    rfl
  · exact trimEnd_append_blank h _

theorem trim_cons_blank {c : Char} (h : isBlank c = true) (t : Text) : trim (c :: t) = trim t := by
  rw [trim, trim, trimStart, trimStart, List.dropWhile_cons_of_pos h]

end Text

namespace Diagnostic

open Text

/-! ## Lines that carry a remark -/

/-- The words that say what kind of remark a line carries. -/
def kindWords : List Text := ["fatal error".toList, "error".toList, "warning".toList, "note".toList]

/-- The parts of a line that carries a remark. -/
structure Parts where
  file : Text
  line : Text
  column : Option Text
  blanks : Text
  word : Text
  message : Text

namespace Parts

/-- The column of a line with the colon after it, or nothing. -/
def columnText (p : Parts) : Text := p.column.elim [] (· ++ [':'])

/-- The line with the given parts: `FILE:LINE:[COLUMN:] WORD:MESSAGE`. -/
def text (p : Parts) : Text :=
  p.file ++ (':' :: (p.line ++ (':' :: (p.columnText ++ (p.blanks ++ (p.word ++ (':' :: p.message)))))))

/-- The parts are what they should be. -/
structure Fits (p : Parts) : Prop where
  file_ne : p.file ≠ []
  file : ∀ c ∈ p.file, c ≠ ':' ∧ c ≠ '\n'
  line_ne : p.line ≠ []
  line : ∀ c ∈ p.line, isDecimal c = true
  column : ∀ ds ∈ p.column, ds ≠ [] ∧ ∀ c ∈ ds, isDecimal c = true
  blanks : ∀ c ∈ p.blanks, isBlank c = true
  word : p.word ∈ kindWords

/-- What a line with these parts says. -/
def remark (p : Parts) : Remark :=
  ⟨kindOf p.word, numberOf p.line, p.column.map numberOf, trim p.message⟩

/-- After the place comes a word, perhaps behind white space, and no digit. -/
theorem Fits.head?_blanks {p : Parts} (h : p.Fits) :
    ∀ c ∈ (p.blanks ++ (p.word ++ (':' :: p.message))).head?, isDecimal c = false := by
  obtain ⟨file, line, column, blanks, word, message⟩ := p
  intro c hc
  cases blanks with
  | nil =>
    have hw := h.word
    simp only [kindWords, List.mem_cons, List.not_mem_nil, or_false] at hw
    rcases hw with rfl | rfl | rfl | rfl <;> (obtain rfl := Option.some.inj hc; decide)
  | cons b blanks =>
    obtain rfl := Option.some.inj hc
    exact isDecimal_of_isBlank (h.blanks b List.mem_cons_self)

theorem Fits.read?_place {p : Parts} (h : p.Fits) :
    placePattern.read? none p.text = some ⟨[p.file, [':'], p.line, [':']],
      p.columnText ++ (p.blanks ++ (p.word ++ (':' :: p.message)))⟩ := by
  have hfile : ∀ c ∈ p.file, (c != ':' && c != '\n') = true := by
    intro c hc
    simpa using h.file c hc
  refine Pattern.read?_cons (Piece.take?_run hfile (List.length_pos_iff.2 h.file_ne) (by simp)) ?_
  refine Pattern.read?_cons (Piece.take?_word [':'] _) ?_
  refine Pattern.read?_cons
    (Piece.take?_run h.line (List.length_pos_iff.2 h.line_ne) (by rintro c ⟨⟩; decide)) ?_
  exact Pattern.read?_cons (Piece.take?_word [':'] _) rfl

theorem Fits.read?_column {p : Parts} (h : p.Fits) {ds : Text} (hds : p.column = some ds) (t : Text) :
    columnPattern.read? none (ds ++ (':' :: t)) = some ⟨[ds, [':']], t⟩ := by
  obtain ⟨hne, hdec⟩ := h.column ds hds
  refine Pattern.read?_cons
    (Piece.take?_run hdec (List.length_pos_iff.2 hne) (by rintro c ⟨⟩; decide)) ?_
  exact Pattern.read?_cons (Piece.take?_word [':'] _) rfl

theorem Fits.read?_column_eq_none {p : Parts} (h : p.Fits) :
    columnPattern.read? none (p.blanks ++ (p.word ++ (':' :: p.message))) = none := by
  refine Pattern.read?_cons_of_eq_none ?_
  have htake : (p.blanks ++ (p.word ++ (':' :: p.message))).takeWhile isDecimal = [] := by
    have hhead := h.head?_blanks
    cases ht : p.blanks ++ (p.word ++ (':' :: p.message)) with
    | nil => rfl
    | cons c t =>
      rw [ht] at hhead
      rw [List.takeWhile_cons_of_neg (by rw [hhead c rfl]; decide)]
  rw [Piece.take?, htake, if_neg (by decide)]

theorem Fits.read?_kind {p : Parts} (h : p.Fits) :
    kindPattern.read? none (p.blanks ++ (p.word ++ (':' :: p.message))) =
      some ⟨[p.blanks, p.word, [':']], p.message⟩ := by
  have hword := h.word
  simp only [kindWords, List.mem_cons, List.not_mem_nil, or_false] at hword
  have hhead : ∀ c ∈ (p.word ++ (':' :: p.message)).head?, isBlank c = false := by
    rcases hword with hw | hw | hw | hw <;> (rw [hw]; rintro c ⟨⟩; decide)
  have htake : ∀ before, (Piece.oneOf kindWords).take? before (p.word ++ (':' :: p.message)) =
      some (p.word, ':' :: p.message) := by
    intro before
    rcases hword with hw | hw | hw | hw <;> (rw [hw]; rfl)
  refine Pattern.read?_cons (Piece.take?_run h.blanks (Nat.zero_le _) hhead) ?_
  refine Pattern.read?_cons (htake _) ?_
  exact Pattern.read?_cons (Piece.take?_word [':'] _) rfl

/-- **A line is read as its parts say.** -/
theorem Fits.remark?_text {p : Parts} (h : p.Fits) : remark? p.text = some p.remark := by
  rw [remark?, h.read?_place]
  cases hcol : p.column with
  | none =>
    have hnone := h.read?_column_eq_none
    have hkind := h.read?_kind
    simp only [Option.bind_eq_bind, Option.bind_some, columnText, hcol, Option.elim_none,
      List.nil_append, hnone, hkind]
    rw [remark, hcol]
    rfl
  | some ds =>
    have hsome := h.read?_column hcol (p.blanks ++ (p.word ++ (':' :: p.message)))
    have hkind := h.read?_kind
    simp only [Option.bind_eq_bind, Option.bind_some, columnText, hcol, Option.elim_some,
      List.append_assoc, List.singleton_append, hsome, hkind]
    rw [remark, hcol]
    rfl

end Parts

/-- A line that carries a remark. -/
def IsRemarkLine (l : Text) : Prop := ∃ p : Parts, p.Fits ∧ p.text = l

/-- The parts of the place at the front of a line. -/
theorem exists_of_read?_place {l : Text} {m : Match} (h : placePattern.read? none l = some m) :
    ∃ file line, m.pieces = [file, [':'], line, [':']] ∧ file ≠ [] ∧
      (∀ c ∈ file, c ≠ ':' ∧ c ≠ '\n') ∧ line ≠ [] ∧ (∀ c ∈ line, isDecimal c = true) ∧
      l = file ++ (':' :: (line ++ (':' :: m.rest))) := by
  have hall := Pattern.forall₂_takes h
  simp only [placePattern, Piece.lit, List.forall₂_cons_left_iff, List.forall₂_nil_left_iff,
    Piece.takes_word_iff, Piece.takes_run_iff] at hall
  obtain ⟨file, _, ⟨hfile, hfile'⟩, ⟨_, _, rfl, ⟨line, _, ⟨hline, hline'⟩, ⟨_, _, rfl, rfl, rfl⟩, rfl⟩,
    rfl⟩, hm⟩ := hall
  refine ⟨file, line, hm, List.length_pos_iff.1 hfile, fun c hc => by simpa using hfile' c hc,
    List.length_pos_iff.1 hline, hline', ?_⟩
  rw [← Pattern.append_read? h, Match.text, hm]
  simp

theorem exists_of_read?_column {t : Text} {m : Match} (h : columnPattern.read? none t = some m) :
    ∃ ds, ds ≠ [] ∧ (∀ c ∈ ds, isDecimal c = true) ∧ t = ds ++ [':'] ++ m.rest := by
  have hall := Pattern.forall₂_takes h
  simp only [columnPattern, Piece.lit, List.forall₂_cons_left_iff, List.forall₂_nil_left_iff,
    Piece.takes_word_iff, Piece.takes_run_iff] at hall
  obtain ⟨ds, _, ⟨hne, hdec⟩, ⟨_, _, rfl, rfl, rfl⟩, hm⟩ := hall
  refine ⟨ds, List.length_pos_iff.1 hne, hdec, ?_⟩
  rw [← Pattern.append_read? h, Match.text, hm]
  simp

theorem exists_of_read?_kind {t : Text} {m : Match} (h : kindPattern.read? none t = some m) :
    ∃ blanks, ∃ word ∈ kindWords, (∀ c ∈ blanks, isBlank c = true) ∧
      t = blanks ++ (word ++ (':' :: m.rest)) := by
  have hall := Pattern.forall₂_takes h
  simp only [kindPattern, Piece.lit, Piece.blanks, List.forall₂_cons_left_iff,
    List.forall₂_nil_left_iff, Piece.takes_word_iff, Piece.takes_run_iff] at hall
  obtain ⟨blanks, _, ⟨-, hblanks⟩, ⟨word, _, hword, ⟨_, _, rfl, rfl, rfl⟩, rfl⟩, hm⟩ := hall
  refine ⟨blanks, word, Piece.mem_of_takes_oneOf hword, hblanks, ?_⟩
  rw [← Pattern.append_read? h, Match.text, hm]
  simp

/-- Only a line with all parts is read. -/
theorem isRemarkLine_of_remark? {l : Text} {r : Remark} (h : remark? l = some r) :
    IsRemarkLine l := by
  obtain ⟨place, hplace, hafter⟩ := Option.bind_eq_some_iff.1 h
  obtain ⟨file, line, -, hfile, hfile', hline, hline', hl⟩ := exists_of_read?_place hplace
  rw [hl]
  cases hcol : columnPattern.read? none place.rest with
  | none =>
    simp only [hcol] at hafter
    obtain ⟨kind, hkind, -⟩ := Option.bind_eq_some_iff.1 hafter
    obtain ⟨blanks, word, hword, hblanks, hrest⟩ := exists_of_read?_kind hkind
    refine ⟨⟨file, line, none, blanks, word, kind.rest⟩,
      ⟨hfile, hfile', hline, hline', by simp, hblanks, hword⟩, ?_⟩
    rw [hrest]
    rfl
  | some c =>
    simp only [hcol] at hafter
    obtain ⟨kind, hkind, -⟩ := Option.bind_eq_some_iff.1 hafter
    obtain ⟨ds, hds, hdec, hcolumn⟩ := exists_of_read?_column hcol
    obtain ⟨blanks, word, hword, hblanks, hrest⟩ := exists_of_read?_kind hkind
    refine ⟨⟨file, line, some ds, blanks, word, kind.rest⟩,
      ⟨hfile, hfile', hline, hline', by simpa using ⟨hds, hdec⟩, hblanks, hword⟩, ?_⟩
    rw [hcolumn, hrest]
    rfl

theorem remark?_eq_none_iff {l : Text} : remark? l = none ↔ ¬ IsRemarkLine l := by
  constructor
  · rintro h ⟨p, hp, rfl⟩
    rw [hp.remark?_text] at h
    exact absurd h (by simp)
  · intro h
    cases hr : remark? l with
    | none => rfl
    | some r => exact absurd (isRemarkLine_of_remark? hr) h

/-- The message is the only part that may end with white space, and it is trimmed. -/
theorem remark?_append_return (l : Text) : remark? (l ++ ['\r']) = remark? l := by
  have hreturn : isBlank '\r' = true := by decide
  have hfits : ∀ (p : Parts) (m : Text), p.Fits → Parts.Fits { p with message := m } :=
    fun p m h => ⟨h.file_ne, h.file, h.line_ne, h.line, h.column, h.blanks, h.word⟩
  have htext : ∀ p : Parts,
      Parts.text { p with message := p.message ++ ['\r'] } = p.text ++ ['\r'] := by
    intro p
    simp [Parts.text, Parts.columnText]
  by_cases hl : IsRemarkLine l
  · obtain ⟨p, hp, rfl⟩ := hl
    rw [← htext, (hfits p _ hp).remark?_text, hp.remark?_text, Parts.remark, Parts.remark,
      trim_append_blank hreturn]
  · rw [remark?_eq_none_iff.2 hl, remark?_eq_none_iff]
    rintro ⟨p, hp, htext'⟩
    -- the line ends with the message, or with the colon in front of it
    rcases List.eq_nil_or_concat' p.message with hm | ⟨m, c, hm⟩
    · have hlast := congrArg List.getLast? htext'
      simp [Parts.text, hm, List.getLast?_append, List.getLast?_cons] at hlast
    · obtain rfl : c = '\r' := by
        have hlast := congrArg List.getLast? htext'
        simpa [Parts.text, hm, List.getLast?_append, List.getLast?_cons] using hlast
      refine hl ⟨{ p with message := m }, hfits p m hp, ?_⟩
      have heq := htext { p with message := m }
      simp only at heq
      rw [← hm, htext'] at heq
      exact (List.append_cancel_right heq).symm

theorem remark?_of_seen {l l' : Text} (h : Seen l l') : remark? l' = remark? l := by
  rcases h with rfl | rfl
  · rfl
  · exact (remark?_append_return l').symm

/-- The remarks in some lines with newlines between them. -/
theorem filterMap_bareLines_joined {ls : List Text} (h : ∀ l ∈ ls, '\n' ∉ l) :
    (bareLines (joined ls)).filterMap remark? = ls.filterMap remark? := by
  obtain ⟨ls', hseen, hread⟩ := exists_seen_joined h
  have hls' : ls'.filterMap remark? = ls.filterMap remark? := by
    clear hread h
    induction hseen with
    | nil => rfl
    | cons hl _ ih => rw [List.filterMap_cons, List.filterMap_cons, remark?_of_seen hl, ih]
  rcases hread with hread | hread
  · rw [hread, hls']
  · have hnil : remark? [] = none := rfl
    rw [← hls', ← hread, List.filterMap_append, List.filterMap_cons, hnil]
    simp

/-! ## Printed diagnostics -/

/-- What a compiler calls a diagnostic. -/
inductive Label where
  | error
  | fatalError
  | warning
deriving Repr, DecidableEq

namespace Label

/-- The word that is printed. -/
def word : Label → Text
  | error => "error".toList
  | fatalError => "fatal error".toList
  | warning => "warning".toList

/-- How serious the diagnostic is. -/
def severity : Label → Severity
  | error | fatalError => .error
  | warning => .warning

end Label

/-- A line of a file, and perhaps a column of it. -/
structure Site where
  file : Text
  line : Nat
  column : Option Nat
deriving Repr, DecidableEq

/-- The name of the file can be told from what follows it. -/
structure Site.Fits (p : Site) : Prop where
  file_ne : p.file ≠ []
  file : ∀ c ∈ p.file, c ≠ ':' ∧ c ≠ '\n'

/-- `FILE:LINE[:COLUMN]: WORD: MESSAGE`. -/
def printed (site : Site) (word message : Text) : Text :=
  site.file ++ [':'] ++ ofNat site.line ++ site.column.elim [] (fun c => [':'] ++ ofNat c) ++
    ": ".toList ++ word ++ ": ".toList ++ message

/-- A note of a compiler. -/
structure Note where
  site : Site
  message : Text
deriving Repr, DecidableEq

/-- A diagnostic as a compiler prints it.  Every note has a place of its own. -/
structure Notice where
  label : Label
  site : Site
  message : Text
  notes : List Note
deriving Repr, DecidableEq

/-- The line of a note. -/
def Note.text (n : Note) : Text := printed n.site "note".toList n.message

namespace Notice

/-- The lines of a notice. -/
def lines (n : Notice) : List Text :=
  printed n.site n.label.word n.message :: n.notes.map Note.text

/-- The diagnostic of a notice about a source. -/
def diagnostic (source : Text) (n : Notice) : Diagnostic :=
  ⟨n.label.severity, n.message, spanAt source n.site.line (n.site.column.getD 1), n.site.line,
    n.notes.map Note.message⟩

/-- The numbers of a notice are words of 64 bits, and its texts have no newline and no white space at
    their ends. -/
structure Fits (n : Notice) : Prop where
  site : n.site.Fits
  line : n.site.line < Nat.pow 2 64
  column : ∀ c ∈ n.site.column, c < Nat.pow 2 64
  message : '\n' ∉ n.message ∧ trim n.message = n.message
  notes : ∀ note ∈ n.notes, note.site.Fits ∧ '\n' ∉ note.message ∧ trim note.message = note.message

end Notice

/-- Some lines, with lines between them that carry no remark. -/
inductive Interspersed : List Text → List Text → Prop
  | nil : Interspersed [] []
  | line {l : Text} {ls out : List Text} : Interspersed ls out → Interspersed (l :: ls) (l :: out)
  | other {l : Text} {ls out : List Text} : ¬ IsRemarkLine l → '\n' ∉ l → Interspersed ls out →
      Interspersed ls (l :: out)

theorem Interspersed.filterMap_remark? {ls out : List Text} (h : Interspersed ls out) :
    out.filterMap remark? = ls.filterMap remark? := by
  induction h with
  | nil => rfl
  | line _ ih => rw [List.filterMap_cons, List.filterMap_cons, ih]
  | other hl _ _ ih => rw [List.filterMap_cons, remark?_eq_none_iff.2 hl, ih]

theorem Interspersed.newline_not_mem {ls out : List Text} (h : Interspersed ls out)
    (hls : ∀ l ∈ ls, '\n' ∉ l) : ∀ l ∈ out, '\n' ∉ l := by
  induction h with
  | nil => simp
  | line _ ih =>
    rw [List.forall_mem_cons] at hls ⊢
    exact ⟨hls.1, ih hls.2⟩
  | other _ hl _ ih =>
    rw [List.forall_mem_cons]
    exact ⟨hl, ih hls⟩

/-! ## Printed lines are read back -/

theorem numberOf_ofNat {n : Nat} (h : n < Nat.pow 2 64) : numberOf (ofNat n) = n := by
  rw [numberOf, numberBound, natBelow?_ofNat, if_pos h]
  rfl

namespace Site

variable {site : Site} {word : Text}

/-- The parts of a printed line. -/
def parts (site : Site) (word message : Text) : Parts :=
  ⟨site.file, ofNat site.line, site.column.map ofNat, [' '], word, ' ' :: message⟩

theorem text_parts (site : Site) (word message : Text) :
    (site.parts word message).text = printed site word message := by
  cases h : site.column <;> simp [parts, Parts.text, Parts.columnText, printed, h]

theorem Fits.parts (h : site.Fits) (hword : word ∈ kindWords) (message : Text) :
    (site.parts word message).Fits := by
  have hdigits : ∀ n, ofNat n ≠ [] ∧ ∀ c ∈ ofNat n, isDecimal c = true := fun n =>
    ⟨ofNat_ne_nil n, fun c hc => isDecimal_of_isDigit (isDigit_of_mem_ofNat hc)⟩
  refine ⟨h.file_ne, h.file, (hdigits _).1, (hdigits _).2, ?_, ?_, hword⟩
  · intro ds hds
    obtain ⟨n, -, rfl⟩ := Option.map_eq_some_iff.1 hds
    exact hdigits n
  · intro c hc
    rw [List.mem_singleton.1 hc]
    decide

theorem Fits.remark?_printed (h : site.Fits) (hword : word ∈ kindWords) (message : Text) :
    remark? (printed site word message) =
      some ⟨kindOf word, numberOf (ofNat site.line), site.column.map (numberOf ∘ ofNat),
        trim message⟩ := by
  rw [← text_parts, (h.parts hword message).remark?_text, Parts.remark, Site.parts,
    trim_cons_blank (by decide), Option.map_map]

theorem Fits.newline_not_mem (h : site.Fits) (hword : word ∈ kindWords) {message : Text}
    (hmessage : '\n' ∉ message) : '\n' ∉ printed site word message := by
  have hnum : ∀ n, '\n' ∉ ofNat n := fun n h => absurd (isDigit_of_mem_ofNat h) (by decide)
  have hfile : '\n' ∉ site.file := fun hmem => (h.file _ hmem).2 rfl
  have hword' : '\n' ∉ word := by
    have hall : ∀ w ∈ kindWords, '\n' ∉ w := by decide
    exact hall word hword
  cases hc : site.column <;> simp [printed, hc, hnum, hfile, hword', hmessage]

end Site

/-- The remark in the line of a note. -/
def Note.remark (n : Note) : Remark :=
  ⟨.note, numberOf (ofNat n.site.line), n.site.column.map (numberOf ∘ ofNat), trim n.message⟩

theorem filterMap_text {notes : List Note} (h : ∀ n ∈ notes, n.site.Fits) :
    (notes.map Note.text).filterMap remark? = notes.map Note.remark := by
  induction notes with
  | nil => rfl
  | cons n notes ih =>
    rw [List.forall_mem_cons] at h
    have hn : remark? n.text = some n.remark := h.1.remark?_printed (by decide) n.message
    rw [List.map_cons, List.filterMap_cons, hn, ih h.2, List.map_cons]

theorem kind_of_mem_remarks (notes : List Note) : ∀ r ∈ notes.map Note.remark, r.kind = .note := by
  intro r hr
  obtain ⟨n, -, rfl⟩ := List.mem_map.1 hr
  rfl

theorem Label.word_mem (l : Label) : l.word ∈ kindWords := by
  cases l <;> decide

theorem Notice.Fits.newline_not_mem {n : Notice} (h : n.Fits) : ∀ l ∈ n.lines, '\n' ∉ l := by
  rw [lines, List.forall_mem_cons]
  refine ⟨h.site.newline_not_mem n.label.word_mem h.message.1, fun l hl => ?_⟩
  obtain ⟨note, hnote, rfl⟩ := List.mem_map.1 hl
  exact (h.notes note hnote).1.newline_not_mem (by decide) (h.notes note hnote).2.1

/-! ## Remarks become diagnostics -/

theorem addRemark_of_note (source : Text) {r : Remark} (h : r.kind = .note) (ds : List Diagnostic) :
    addRemark source ds r =
      match ds with
      | [] => []
      | last :: ds => { last with notes := last.notes ++ [r.message] } :: ds := by
  cases ds <;> simp [addRemark, h]

/-- Notes in front of all diagnostics are dropped. -/
theorem foldl_leading (source : Text) {rs : List Remark} (h : ∀ r ∈ rs, r.kind = .note) :
    rs.foldl (addRemark source) [] = [] := by
  induction rs with
  | nil => rfl
  | cons r rs ih =>
    rw [List.forall_mem_cons] at h
    rw [List.foldl_cons, addRemark_of_note source h.1]
    exact ih h.2

/-- Notes go to the diagnostic before them. -/
theorem foldl_notes (source : Text) (d : Diagnostic) (ds : List Diagnostic) {rs : List Remark}
    (h : ∀ r ∈ rs, r.kind = .note) :
    rs.foldl (addRemark source) (d :: ds) =
      { d with notes := d.notes ++ rs.map Remark.message } :: ds := by
  induction rs generalizing d with
  | nil => simp
  | cons r rs ih =>
    rw [List.forall_mem_cons] at h
    rw [List.foldl_cons, addRemark_of_note source h.1]
    simp only
    rw [ih _ h.2]
    simp

/-- **The remarks of a notice add one diagnostic**, with all of its notes. -/
theorem foldl_remarks (source : Text) {n : Notice} (hn : n.Fits) (ds : List Diagnostic) :
    (n.lines.filterMap remark?).foldl (addRemark source) ds = n.diagnostic source :: ds := by
  have hcolumn : n.site.column.map (numberOf ∘ ofNat) = n.site.column := by
    cases hc : n.site.column with
    | none => rfl
    | some c =>
      have hlt := hn.column c hc
      rw [Option.map_some, Function.comp_apply, numberOf_ofNat hlt]
  have hnotes : n.notes.map (Remark.message ∘ Note.remark) = n.notes.map Note.message :=
    List.map_congr_left fun note hnote => (hn.notes note hnote).2.2
  have hadd : addRemark source ds
      ⟨kindOf n.label.word, n.site.line, n.site.column, n.message⟩ =
      { n.diagnostic source with notes := [] } :: ds := by
    obtain ⟨label, site, message, notes⟩ := n
    cases label <;> rfl
  rw [Notice.lines, List.filterMap_cons, hn.site.remark?_printed n.label.word_mem,
    filterMap_text fun note hnote => (hn.notes note hnote).1, numberOf_ofNat hn.line, hcolumn,
    hn.message.2, List.foldl_cons, hadd, foldl_notes source _ _ (kind_of_mem_remarks _),
    List.map_map, hnotes]
  rfl

theorem foldl_notices (source : Text) {ns : List Notice} (hns : ∀ n ∈ ns, n.Fits)
    (ds : List Diagnostic) :
    ((ns.flatMap Notice.lines).filterMap remark?).foldl (addRemark source) ds =
      (ns.map (Notice.diagnostic source)).reverse ++ ds := by
  induction ns generalizing ds with
  | nil => rfl
  | cons n ns ih =>
    rw [List.forall_mem_cons] at hns
    rw [List.flatMap_cons, List.filterMap_append, List.foldl_append, foldl_remarks source hns.1,
      ih hns.2]
    simp

/-- **Diagnostics are read back from the output of a compiler.**  Some notes in front and then the
    notices, with any lines between them that carry no remark, give exactly the diagnostics of the
    notices, in order and each with its own notes. -/
theorem ofOutput_joined (source : Text) (leading : List Note)
    (hleading : ∀ n ∈ leading, n.site.Fits ∧ '\n' ∉ n.message) (ns : List Notice)
    (hns : ∀ n ∈ ns, n.Fits) (out : List Text)
    (h : Interspersed (leading.map Note.text ++ ns.flatMap Notice.lines) out) :
    ofOutput (joined out) source = ns.map (Notice.diagnostic source) := by
  have hlines : ∀ l ∈ leading.map Note.text ++ ns.flatMap Notice.lines, '\n' ∉ l := by
    intro l hl
    rcases List.mem_append.1 hl with hl | hl
    · obtain ⟨n, hn, rfl⟩ := List.mem_map.1 hl
      exact (hleading n hn).1.newline_not_mem (by decide) (hleading n hn).2
    · obtain ⟨n, hn, hl⟩ := List.mem_flatMap.1 hl
      exact (hns n hn).newline_not_mem l hl
  rw [ofOutput, filterMap_bareLines_joined (h.newline_not_mem hlines), h.filterMap_remark?,
    List.filterMap_append, List.foldl_append, filterMap_text fun n hn => (hleading n hn).1,
    foldl_leading source (kind_of_mem_remarks _), foldl_notices source hns]
  simp

/-- A note in front, a caret line with its terminator, a fatal error without a column, and a warning
    whose message reads like an error, with a note in another file. -/
theorem ofOutput_joined_misleading_message :
    ofOutput (joined ["h.h:1: note: n".toList, "collect2: error\r".toList,
      "a b.cpp:3: fatal error: boom".toList, "a b.cpp:1:5: warning: error: x".toList, [],
      "h.h:7:2: note: why".toList, []]) "int x;\n\ny".toList =
    [⟨.error, "boom".toList, ⟨8, 9⟩, 3, []⟩,
      ⟨.warning, "error: x".toList, ⟨4, 6⟩, 1, ["why".toList]⟩] := by
  have hld : ¬ IsRemarkLine "collect2: error\r".toList := remark?_eq_none_iff.1 (by decide)
  have hempty : ¬ IsRemarkLine [] := remark?_eq_none_iff.1 (by decide)
  have hfits : ∀ {t : Text} {line : Nat} {column : Option Nat}, t ≠ [] →
      (t.all fun c => c ≠ ':' ∧ c ≠ '\n') = true → Site.Fits ⟨t, line, column⟩ :=
    fun hne h => ⟨hne, by simpa using h⟩
  refine ofOutput_joined _ [⟨⟨"h.h".toList, 1, none⟩, "n".toList⟩] ?_
    [⟨.fatalError, ⟨"a b.cpp".toList, 3, none⟩, "boom".toList, []⟩,
      ⟨.warning, ⟨"a b.cpp".toList, 1, some 5⟩, "error: x".toList,
        [⟨⟨"h.h".toList, 7, some 2⟩, "why".toList⟩]⟩] ?_ _ ?_
  · rintro n hn
    obtain rfl := List.mem_singleton.1 hn
    exact ⟨hfits (by decide) (by decide), by decide⟩
  · rw [List.forall_mem_cons, List.forall_mem_singleton]
    refine ⟨⟨hfits (by decide) (by decide), by decide, by simp, by decide, by simp⟩,
      ⟨hfits (by decide) (by decide), by decide, by simp, by decide, ?_⟩⟩
    rw [List.forall_mem_singleton]
    exact ⟨hfits (by decide) (by decide), by decide⟩
  · exact .line (.other hld (by decide) (.line (.line (.other hempty (by simp) (.line
      (.other hempty (by simp) .nil))))))

end Diagnostic

end Retouch
