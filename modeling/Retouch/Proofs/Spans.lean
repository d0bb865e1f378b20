/-
  Where diagnostics point.

  A diagnostic is about a line and a column that a compiler has printed, and both may be any numbers.
  Its span is counted in bytes: it runs from the column to the end of the line, or stands at the end
  of the source if there is no such line (`Points`).  A column behind the end of its line points at
  the end, and no span reaches into the terminator of its line, so it never covers a newline
  (`IsWithin`).

  * `points_spanAt`: the span of a place points there, in a source of less than 2³² bytes;
  * `Points.isWithin`: what points to a place lies in the source and within one line;
  * `locates_ofOutput`: the errors and warnings of a compiler become diagnostics one by one, and each
    has such a span.
-/
import Mathlib.Data.List.Forall2
import Retouch.Diagnostic.Basic
import Retouch.Proofs.Encoding
import Retouch.Proofs.Lines

namespace Retouch

open Text (newlineByte)

/-- The bytes of a source that a span covers. -/
def Span.bytes (source : Text) (s : Span) : List UInt8 :=
  (source.toBytes.drop s.start).take (s.stop - s.start)

/-- A span that ends where `v` ends covers the last bytes of `v`. -/
theorem Span.bytes_append (u v w : Text) {k : Nat} (h : k ≤ v.byteSize) :
    Span.bytes (u ++ (v ++ w)) ⟨u.byteSize + k, u.byteSize + v.byteSize⟩ = v.toBytes.drop k := by
  have hlen : (v.toBytes.drop k).length = u.byteSize + v.byteSize - (u.byteSize + k) := by
    rw [List.length_drop, Text.length_toBytes]
    omega
  rw [Span.bytes, Text.toBytes_append, Text.toBytes_append, ← Text.length_toBytes u,
    List.drop_length_add_append, List.drop_append_of_le_length (by rwa [Text.length_toBytes]),
    Text.length_toBytes, List.take_left' hlen]

/-- A span lies in a source and covers no newline. -/
structure Span.IsWithin (source : Text) (s : Span) : Prop where
  start_le : s.start ≤ s.stop
  stop_le : s.stop ≤ source.byteSize
  newline_not_mem : newlineByte ∉ s.bytes source

namespace Diagnostic

open Text

/-! ## Bodies of lines -/

theorem lineBody_prefix (l : Text) : lineBody l <+: l := dropEndWhile_prefix _ l

theorem ne_newline_of_getLast?_lineBody {l : Text} {c : Char} (h : c ∈ (lineBody l).getLast?) :
    c ≠ '\n' := by
  rw [lineBody, dropEndWhile, List.getLast?_reverse] at h
  have hnot := List.head?_dropWhile_not (fun c => c == '\n' || c == '\r') l.reverse
  rw [Option.mem_def.1 h] at hnot
  rintro rfl
  exact absurd hnot (by decide)

/-- The body of a line has no newline. -/
theorem newline_not_mem_lineBody {l : Text} (h : IsLine l) : '\n' ∉ lineBody l := by
  obtain ⟨ending, hl⟩ := lineBody_prefix l
  rcases List.eq_nil_or_concat' (lineBody l) with hnil | ⟨u, c, hu⟩
  · rw [hnil]
    exact List.not_mem_nil
  · have hc : c ≠ '\n' := ne_newline_of_getLast?_lineBody (by rw [hu]; simp)
    -- what stands before the last character of the body stands before that of the line
    have hdrop : l.dropLast = u ++ (c :: ending).dropLast := by
      rw [← hl, hu, List.append_assoc, List.singleton_append,
        List.dropLast_append_of_ne_nil (List.cons_ne_nil c ending)]
    rw [IsLine, hdrop, List.mem_append, not_or] at h
    rw [hu, List.mem_append, List.mem_singleton, not_or]
    exact ⟨h.1, Ne.symm hc⟩

/-! ## Spans of places -/

/-- A span runs from a column of a line to the end of the line, both counted from one, or stands at
    the end of the source if there is no such line. -/
inductive Points (source : Text) (line column : Nat) : Span → Prop
  | line {before : List Text} {l : Text} {after : List Text} :
      source.lines = before ++ l :: after → line = before.length + 1 →
      Points source line column
        ⟨byteSize before.flatten + min (column - 1) (lineBody l).byteSize,
          byteSize before.flatten + (lineBody l).byteSize⟩
  | noLine : line = 0 ∨ source.lines.length < line →
      Points source line column ⟨source.byteSize, source.byteSize⟩

theorem spanIn_append (column : Nat) (before : List Text) (l : Text) (after : List Text)
    (offset : Nat) :
    spanIn column (before ++ l :: after) offset (before.length + 1) =
      spanOf (offset + byteSize before.flatten + min (column - 1) (lineBody l).byteSize)
        (offset + byteSize before.flatten + (lineBody l).byteSize) := by
  induction before generalizing offset with
  | nil => rfl
  | cons b before ih =>
    rw [List.cons_append, spanIn, if_neg (by simp), List.length_cons, Nat.add_sub_cancel, ih,
      List.flatten_cons, byteSize_append, Nat.add_assoc offset]

theorem spanIn_of_length_lt (column : Nat) {ls : List Text} {line : Nat} (h : ls.length < line)
    (offset : Nat) :
    spanIn column ls offset line =
      spanOf (offset + byteSize ls.flatten) (offset + byteSize ls.flatten) := by
  induction ls generalizing line offset with
  | nil => rfl
  | cons l ls ih =>
    rw [List.length_cons] at h
    rw [spanIn, if_neg (by omega), ih (by omega), List.flatten_cons, byteSize_append,
      Nat.add_assoc offset]

/-- Positions in a source of less than 2³² bytes are kept as they are. -/
theorem spanOf_of_le {source : Text} (h : source.byteSize < Nat.pow 2 32) {start stop : Nat}
    (hstart : start ≤ stop) (hstop : stop ≤ source.byteSize) : spanOf start stop = ⟨start, stop⟩ := by
  rw [spanOf, Nat.mod_eq_of_lt (Nat.lt_of_le_of_lt (hstart.trans hstop) h),
    Nat.mod_eq_of_lt (Nat.lt_of_le_of_lt hstop h)]

theorem exists_lines_eq {source : Text} {line : Nat} (h : line ≠ 0)
    (hle : line ≤ source.lines.length) :
    ∃ before l after, source.lines = before ++ l :: after ∧ line = before.length + 1 := by
  have hlt : line - 1 < source.lines.length := by omega
  refine ⟨source.lines.take (line - 1), source.lines.get ⟨line - 1, hlt⟩,
    source.lines.drop (line - 1 + 1), ?_, ?_⟩
  · rw [List.get_eq_getElem, ← List.drop_eq_getElem_cons hlt, List.take_append_drop]
  · rw [List.length_take]
    omega

/-- A source is what stands before a line, its body and the rest. -/
theorem exists_append_lineBody {source : Text} {before after : List Text} {l : Text}
    (h : source.lines = before ++ l :: after) :
    ∃ rest, source = before.flatten ++ (lineBody l ++ rest) := by
  obtain ⟨ending, hl⟩ := lineBody_prefix l
  refine ⟨ending ++ after.flatten, ?_⟩
  rw [← flatten_lines source, h, List.flatten_append, List.flatten_cons,
    ← List.append_assoc (lineBody l), hl]

theorem byteSize_add_lineBody_le {source : Text} {before after : List Text} {l : Text}
    (h : source.lines = before ++ l :: after) :
    byteSize before.flatten + (lineBody l).byteSize ≤ source.byteSize := by
  obtain ⟨rest, hsource⟩ := exists_append_lineBody h
  rw [hsource, byteSize_append, byteSize_append]
  omega

/-- The span of a place points there. -/
theorem points_spanAt {source : Text} (h : source.byteSize < Nat.pow 2 32) (line column : Nat) :
    Points source line column (spanAt source line column) := by
  rw [spanAt]
  split
  · next hzero =>
    rw [spanOf_of_le h (Nat.le_refl _) (Nat.le_refl _)]
    exact .noLine (.inl hzero)
  · next hzero =>
    by_cases hlen : source.lines.length < line
    · rw [spanIn_of_length_lt column hlen, flatten_lines, Nat.zero_add,
        spanOf_of_le h (Nat.le_refl _) (Nat.le_refl _)]
      exact .noLine (.inr hlen)
    · obtain ⟨before, l, after, hlines, rfl⟩ := exists_lines_eq hzero (Nat.not_lt.1 hlen)
      rw [hlines, spanIn_append, Nat.zero_add, spanOf_of_le h
        (Nat.add_le_add_left (Nat.min_le_right _ _) _) (byteSize_add_lineBody_le hlines)]
      exact .line hlines rfl

/-- What points to a place lies in the source and within one line. -/
theorem Points.isWithin {source : Text} {line column : Nat} {s : Span}
    (h : Points source line column s) : s.IsWithin source := by
  cases h with
  | @line before l after hlines _ =>
    refine ⟨Nat.add_le_add_left (Nat.min_le_right _ _) _, byteSize_add_lineBody_le hlines, ?_⟩
    have hbody : '\n' ∉ lineBody l :=
      newline_not_mem_lineBody (isLine_of_mem_lines (t := source) (by rw [hlines]; simp))
    obtain ⟨rest, hsource⟩ := exists_append_lineBody hlines
    rw [hsource, Span.bytes_append _ _ _ (Nat.min_le_right _ _)]
    exact fun hmem => newlineByte_not_mem_toBytes hbody (List.mem_of_mem_drop hmem)
  | noLine => exact ⟨Nat.le_refl _, Nat.le_refl _, by simp [Span.bytes]⟩

/-! ## Diagnostics -/

/-- The errors and warnings in the output of a compiler. -/
def complaints (output : Text) : List Remark :=
  (output.bareLines.filterMap remark?).filter (·.kind ≠ .note)

/-- The diagnostic of an error or a warning, which has no notes yet. -/
def Remark.diagnostic (source : Text) (r : Remark) : Diagnostic :=
  ⟨if r.kind = .warning then .warning else .error, r.message,
    spanAt source r.line (r.column.getD 1), r.line, []⟩

/-- A diagnostic without its notes. -/
def withoutNotes (d : Diagnostic) : Diagnostic := { d with notes := [] }

/-- A note changes nothing but notes, and any other remark adds a diagnostic. -/
theorem map_withoutNotes_addRemark (source : Text) (ds : List Diagnostic) (r : Remark) :
    (addRemark source ds r).map withoutNotes =
      if r.kind = .note then ds.map withoutNotes
      else r.diagnostic source :: ds.map withoutNotes := by
  obtain ⟨kind, line, column, message⟩ := r
  cases kind with
  | error => rfl
  | warning => rfl
  | note => cases ds <;> rfl

theorem map_withoutNotes_foldl (source : Text) (rs : List Remark) (ds : List Diagnostic) :
    (rs.foldl (addRemark source) ds).map withoutNotes =
      ((rs.filter (·.kind ≠ .note)).map (Remark.diagnostic source)).reverse ++
        ds.map withoutNotes := by
  induction rs generalizing ds with
  | nil => rfl
  | cons r rs ih =>
    rw [List.foldl_cons, ih, map_withoutNotes_addRemark]
    by_cases hr : r.kind = .note
    · rw [if_pos hr, List.filter_cons_of_neg (by simpa using hr)]
    · rw [if_neg hr, List.filter_cons_of_pos (by simpa using hr), List.map_cons, List.reverse_cons,
        List.append_assoc, List.singleton_append]

/-- Diagnostics but for their notes are what errors and warnings say. -/
theorem map_withoutNotes_ofOutput (output source : Text) :
    (ofOutput output source).map withoutNotes =
      (complaints output).map (Remark.diagnostic source) := by
  rw [ofOutput, List.map_reverse, map_withoutNotes_foldl, List.map_nil, List.append_nil,
    List.reverse_reverse, complaints]

/-- A diagnostic says what a remark says, and its span points to the place of the remark. -/
structure Locates (source : Text) (r : Remark) (d : Diagnostic) : Prop where
  message : d.message = r.message
  line : d.line = r.line
  points : Points source r.line (r.column.getD 1) d.span
  within : d.span.IsWithin source

/-- **Diagnostics point into the lines they are about.**  The errors and warnings in the output of a
    compiler become diagnostics one by one.  The span of each runs from its column to the end of its
    line, without the carriage returns and newlines there, or stands at the end of the source if there
    is no such line; it lies in the source and covers no newline. -/
theorem locates_ofOutput (output source : Text) (h : source.byteSize < Nat.pow 2 32) :
    List.Forall₂ (Locates source) (complaints output) (ofOutput output source) := by
  have hall : List.Forall₂ (fun r d => r.diagnostic source = withoutNotes d) (complaints output)
      (ofOutput output source) := by
    have heq := (map_withoutNotes_ofOutput output source).symm
    rwa [← List.forall₂_eq_eq_eq, List.forall₂_map_left_iff, List.forall₂_map_right_iff] at heq
  refine hall.imp fun r d hd => ?_
  have hspan : d.span = spanAt source r.line (r.column.getD 1) := (congrArg Diagnostic.span hd).symm
  have hpoints := points_spanAt h r.line (r.column.getD 1)
  rw [← hspan] at hpoints
  exact ⟨(congrArg Diagnostic.message hd).symm, (congrArg Diagnostic.line hd).symm, hpoints,
    hpoints.isWithin⟩

/-- Column zero and columns behind the end of a line, lines before the first and after the last, a
    number that does not fit, and a column inside of a character. -/
theorem locates_ofOutput_odd_places :
    ∃ output source : Text,
      output = "f:2:0: error: a\nf:1:99: warning: b\nf:0: error: c\n".toList ++
        "f:9:1: error: d\nf:18446744073709551616:2: error: e\n".toList ∧
      source = "é = 1;\r\n\tx\r\r\n".toList ∧
      source.byteSize < Nat.pow 2 32 ∧
      (ofOutput output source).map Diagnostic.span =
        [⟨9, 11⟩, ⟨7, 7⟩, ⟨14, 14⟩, ⟨14, 14⟩, ⟨1, 7⟩] ∧
      List.Forall₂ (Locates source) (complaints output) (ofOutput output source) :=
  ⟨_, _, rfl, rfl, by decide, by decide +kernel, locates_ofOutput _ _ (by decide)⟩

end Diagnostic

end Retouch
