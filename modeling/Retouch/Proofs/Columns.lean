/-
  Runs of characters, and the columns of a printed row.

  The runs of a text are those of its parts, wherever it is cut beside a character that is none of
  theirs (`runs_append`).  The columns of a line are its runs of characters that are not white space.
  What a row of the table of a run is made of can therefore be read back from the printed text,
  however its entries are padded:

  * `columns_row`: the columns of a row are those of its entries;
  * `columns_stageRow` and `columns_totalRow`: so the numbers in a row are found in its columns;
  * `getLast?_lines_table`: the last line of a table is the row of the totals.
-/
import Retouch.Proofs.Digits
import Retouch.Proofs.Lines
import Retouch.Report.Run

namespace Retouch

namespace Text

/-! ## Runs -/

/-- The longest parts of a text that consist of characters with `p`, in order. -/
def runs (p : Char → Bool) (t : Text) : List Text := (t.splitOnP fun c => !p c).filter (· ≠ [])

section Runs

variable {p : Char → Bool} {u v : Text} {c : Char}

@[simp]
theorem runs_nil : runs p [] = [] := rfl

theorem runs_append_cons (hc : p c = false) (u v : Text) :
    runs p (u ++ c :: v) = runs p u ++ runs p v := by
  rw [runs, List.splitOnP_append_cons u v (by simpa using hc), List.filter_append]
  rfl

theorem runs_cons (hc : p c = false) (v : Text) : runs p (c :: v) = runs p v := by
  have hcut := runs_append_cons hc [] v
  rwa [List.nil_append, runs_nil, List.nil_append] at hcut

/-- A text may be cut beside a character without `p`. -/
theorem runs_append (h : u.getLast?.any p = false ∨ v.head?.any p = false) :
    runs p (u ++ v) = runs p u ++ runs p v := by
  rcases h with h | h
  · rcases List.eq_nil_or_concat u with rfl | ⟨u, c, rfl⟩
    · rfl
    · have hc : p c = false := by simpa using h
      rw [List.concat_eq_append, ← List.append_cons, runs_append_cons hc, runs_append_cons hc,
        runs_nil, List.append_nil]
  · cases v with
    | nil => rw [List.append_nil, runs_nil, List.append_nil]
    | cons c v =>
      have hc : p c = false := by simpa using h
      rw [runs_append_cons hc, runs_cons hc]

theorem runs_of_forall (hu : u ≠ []) (h : ∀ c ∈ u, p c = true) : runs p u = [u] := by
  rw [runs, List.splitOnP_eq_singleton fun c hc => by simpa using h c hc]
  simp [hu]

end Runs

/-! ## Columns -/

/-- The parts of a line between its white space. -/
def columns (line : Text) : List Text := runs (fun c => !isBlank c) line

section Columns

variable {c : Char}

@[simp]
theorem columns_nil : columns [] = [] := rfl

theorem columns_append_cons (hc : isBlank c = true) (u v : Text) :
    columns (u ++ c :: v) = columns u ++ columns v :=
  runs_append_cons (by rw [hc]; rfl) u v

theorem columns_replicate_append (n : Nat) (t : Text) :
    columns (List.replicate n ' ' ++ t) = columns t := by
  induction n with
  | zero => rfl
  | succ n ih =>
    rw [List.replicate_succ, List.cons_append, ← ih]
    exact columns_append_cons (by decide) [] _

@[simp]
theorem columns_padLeft (width : Nat) (t : Text) : columns (t.padLeft width) = columns t :=
  columns_replicate_append _ t

@[simp]
theorem columns_padRight (width : Nat) (t : Text) : columns (t.padRight width) = columns t := by
  rw [padRight]
  cases width - t.length with
  | zero => rw [List.replicate_zero, List.append_nil]
  | succ n =>
    have hpad : columns (List.replicate n ' ') = [] := by
      rw [← List.append_nil (List.replicate n ' '), columns_replicate_append, columns_nil]
    rw [List.replicate_succ, columns_append_cons (by decide), hpad, List.append_nil]

theorem columns_of_forall {t : Text} (ht : t ≠ []) (h : ∀ c ∈ t, isBlank c = false) :
    columns t = [t] :=
  runs_of_forall ht fun c hc => by rw [h c hc]; rfl

/-- A number is a column of its own. -/
@[simp]
theorem columns_ofNat (n : Nat) : columns (ofNat n) = [ofNat n] :=
  columns_of_forall (ofNat_ne_nil n) fun _ hc => isBlank_of_isDigit (isDigit_of_mem_ofNat hc)

end Columns

end Text

/-! ## Rows -/

namespace RunReport

open Text

/-- **The columns of a row are those of its entries**, one after another. -/
theorem columns_row (stage pass changed inserted deleted : Text) :
    columns (row stage pass changed inserted deleted) =
      columns stage ++ columns pass ++ columns changed ++ columns inserted ++ columns deleted := by
  have hspace : ∀ u v : Text, columns (u ++ [' '] ++ v) = columns u ++ columns v := fun u v => by
    rw [← List.append_cons]
    exact columns_append_cons (by decide) u v
  have hend : ∀ u : Text, columns (u ++ ['\n']) = columns u := fun u => by
    rw [columns_append_cons (by decide), columns_nil, List.append_nil]
  rw [row, hend, hspace, hspace, hspace, hspace]
  simp only [columns_padLeft, columns_padRight]

theorem columns_mark (s : StageReport) : columns s.mark = [s.mark] := by
  rw [StageReport.mark]
  cases s.changed <;> decide +kernel

/-- The row of a stage shows its place, its pass, whether it changed the text, and the lines that its
    script adds and drops. -/
theorem columns_stageRow (s : StageReport) :
    columns (stageRow s) = ofNat s.index :: columns s.pass.toList ++
      [s.mark, ofNat s.inserted, ofNat s.deleted] := by
  rw [stageRow, columns_row, columns_mark, columns_ofNat, columns_ofNat, columns_ofNat]
  simp

/-- The row of the totals shows the number of changes, and the lines added and dropped. -/
theorem columns_totalRow (r : RunReport) (changed : Nat) :
    columns (r.totalRow changed) =
      ["TOTAL".toList, ofNat changed, ofNat r.inserted, ofNat r.deleted] := by
  have htotal : columns "TOTAL".toList = ["TOTAL".toList] := by decide +kernel
  rw [totalRow, columns_row, htotal, columns_ofNat, columns_ofNat, columns_ofNat]
  rfl

theorem newline_not_mem_ofNat (n : Nat) : '\n' ∉ ofNat n := fun h =>
  absurd (isDigit_of_mem_ofNat h) (by decide)

theorem isEnded_totalRow (r : RunReport) (changed : Nat) : IsEnded (r.totalRow changed) := by
  refine ⟨_, ?_, rfl⟩
  simp [padLeft, padRight, newline_not_mem_ofNat]

/-- The last line of a table is the row of the totals. -/
theorem getLast?_lines_table (r : RunReport) (changed : Nat) :
    (r.table changed).lines.getLast? = some (r.totalRow changed) := by
  rw [table, rule, ← List.append_assoc, ← List.append_cons, lines_append_cons,
    (r.isEnded_totalRow changed).lines_eq, List.getLast?_concat]

end RunReport

end Retouch
