/-
  The unified rendering as a patch.

  `Patch.applied?` reads a text as a unified patch and applies it to a list of lines, one line of
  the patch at a time.  A `Patcher` is the state of this: how many lines of the current hunk are
  still to come on either side, the lines that are not read yet, and those that are written.  A
  header says where its hunk starts on both sides; a kept or dropped line must be the next line to
  read.

  * `header?_ranges`: the header of a hunk reads back as its two ranges;
  * `step_editText` and `foldlM_editText`: what one edit and what a run of edits do to the patcher;
  * `step_headerText`: a header moves the patcher over the kept lines in front of its hunk;
  * `foldlM_hunkLines`: the hunks of a script lead from its old lines to its new lines;
  * `lines_unifiedWith`: the lines of a rendering are two lines that name it and the lines of its
    hunks;
  * `applied?_unified_between`: the rendering of the script between two texts is a patch from the
    lines of the first to the lines of the second.
-/
import Retouch.Proofs.Digits
import Retouch.Proofs.Hunks
import Retouch.Proofs.Lines
import Retouch.Proofs.Replay

namespace Retouch

/-! ## Reading a patch -/

namespace Patch

/-- A range of lines: how many lines stand in front of it, and its length. -/
structure Range where
  offset : Nat
  length : Nat
deriving Repr, DecidableEq

/-- A number at the front of a text, and the text behind it. -/
def number? (t : Text) : Option (Nat × Text) :=
  if t.takeWhile Char.isDigit = [] then none
  else some (Text.digitsValue (t.takeWhile Char.isDigit), t.dropWhile Char.isDigit)

/-- The length of a range, behind its first line; it is one if it is left out. -/
def length? : Text → Option (Nat × Text)
  | ',' :: t => number? t
  | t => some (1, t)

/-- A range at the front of a text: its first line, counted from one, and its length.  An empty
    range stands behind the line that it names. -/
def range? (t : Text) : Option (Range × Text) := do
  let (first, t) ← number? t
  let (length, t) ← length? t
  if length = 0 then some (⟨first, 0⟩, t)
  else if first = 0 then none
  else some (⟨first - 1, length⟩, t)

/-- The two ranges of the header of a hunk. -/
def header? (line : Text) : Option (Range × Range) := do
  let t ← line.dropPrefix? "@@ -".toList
  let (old, t) ← range? t
  let t ← t.dropPrefix? " +".toList
  let (new, t) ← range? t
  if t = " @@\n".toList then some (old, new) else none

end Patch

/-- A patch that is being applied. -/
structure Patcher where
  /-- The number of lines that the current hunk has still to read. -/
  oldLeft : Nat
  /-- The number of lines that the current hunk has still to write. -/
  newLeft : Nat
  /-- The number of lines read. -/
  passed : Nat
  /-- The lines that are not read yet. -/
  ahead : List Text
  /-- The lines that are written. -/
  written : List Text

namespace Patcher

/-- Before the first hunk. -/
def start (lines : List Text) : Patcher := ⟨0, 0, 0, lines, []⟩

/-- Opens a hunk: the lines in front of it are copied, and must lead to both of its ranges. -/
def enter? (p : Patcher) (old new : Patch.Range) : Option Patcher :=
  let gap := old.offset - p.passed
  if p.passed ≤ old.offset ∧ gap ≤ p.ahead.length ∧ p.written.length + gap = new.offset then
    some ⟨old.length, new.length, old.offset, p.ahead.drop gap, p.written ++ p.ahead.take gap⟩
  else none

/-- Reads a line, which must be `l`. -/
def read? (p : Patcher) (l : Text) : Option Patcher :=
  match p.ahead with
  | [] => none
  | m :: ahead =>
    if l = m ∧ 0 < p.oldLeft then
      some { p with oldLeft := p.oldLeft - 1, passed := p.passed + 1, ahead := ahead }
    else none

/-- Writes the line `l`. -/
def write? (p : Patcher) (l : Text) : Option Patcher :=
  if 0 < p.newLeft then some { p with newLeft := p.newLeft - 1, written := p.written ++ [l] }
  else none

/-- Takes an edit of the current hunk. -/
def edit? (p : Patcher) : Text → Option Patcher
  | ' ' :: l => (p.read? l).bind (·.write? l)
  | '-' :: l => p.read? l
  | '+' :: l => p.write? l
  | _ => none

/-- Takes one line of the patch: a header if the hunk before it is complete, else an edit. -/
def step (p : Patcher) (line : Text) : Option Patcher :=
  if p.oldLeft = 0 ∧ p.newLeft = 0 then
    (Patch.header? line).bind fun r => p.enter? r.1 r.2
  else p.edit? line

/-- The lines at the end of the patch, if its last hunk is complete. -/
def result? (p : Patcher) : Option (List Text) :=
  if p.oldLeft = 0 ∧ p.newLeft = 0 then some (p.written ++ p.ahead) else none

end Patcher

/-- The lines after a patch has been applied to `lines`.  The empty patch changes nothing; all
    others have two lines that name the two sides, then hunks. -/
def Patch.applied? (patch : Text) (lines : List Text) : Option (List Text) :=
  match patch.lines with
  | [] => some lines
  | old :: new :: body =>
    if "--- ".toList <+: old ∧ "+++ ".toList <+: new then
      (body.foldlM Patcher.step (.start lines)).bind Patcher.result?
    else none
  | [_] => none

/-! ## Headers read back -/

namespace Patch

theorem number?_ofNat (n : Nat) {t : Text} (ht : ∀ c ∈ t.head?, c.isDigit = false) :
    number? (Text.ofNat n ++ t) = some (n, t) := by
  have hn : ∀ c ∈ Text.ofNat n, c.isDigit = true := fun c => Text.isDigit_of_mem_ofNat
  have ht₁ : t.takeWhile Char.isDigit = [] := by cases t <;> simp_all
  have ht₂ : t.dropWhile Char.isDigit = t := by cases t <;> simp_all
  rw [number?, List.takeWhile_append_of_pos hn, List.dropWhile_append_of_pos hn, ht₁, ht₂,
    List.append_nil, if_neg (Text.ofNat_ne_nil n), Text.digitsValue_ofNat]

/-- A range reads back in front of a text that goes on with neither a digit nor a comma. -/
theorem range?_rangeText (offset length : Nat) {c : Char} (t : Text) (hd : c.isDigit = false)
    (hc : c ≠ ',') :
    range? (Script.rangeText offset length ++ c :: t) = some (⟨offset, length⟩, c :: t) := by
  have hcomma : ∀ t : Text, ∀ c ∈ (',' :: t).head?, c.isDigit = false := by simp
  have hrest : ∀ c' ∈ (c :: t).head?, c'.isDigit = false := by simpa using hd
  rcases length with _ | _ | length
  · have hzero : ",0".toList = ',' :: Text.ofNat 0 := by decide
    rw [Script.rangeText, hzero, List.append_assoc, List.cons_append, range?,
      number?_ofNat _ (hcomma _)]
    simp [length?, number?_ofNat _ hrest]
  · have hone : length? (c :: t) = some (1, c :: t) := by
      rw [length?]
      rintro _ ⟨⟩
      exact hc rfl
    rw [Script.rangeText, range?, number?_ofNat _ hrest]
    simp [hone]
  · rw [Script.rangeText, List.append_assoc, List.append_assoc, List.singleton_append, range?,
      number?_ofNat _ (hcomma _)]
    · simp [length?, number?_ofNat _ hrest]
    · simp
    · simp

theorem header?_ranges (old new : Range) :
    header? ("@@ -".toList ++ Script.rangeText old.offset old.length ++ " +".toList ++
      Script.rangeText new.offset new.length ++ " @@\n".toList) = some (old, new) := by
  have hdrop : ∀ w t : Text, (w ++ t).dropPrefix? w = some t := fun w t =>
    List.dropPrefix?_eq_some_iff.2 ⟨w, rfl, by simp⟩
  have hold : range? (Script.rangeText old.offset old.length ++ (" +".toList ++
      (Script.rangeText new.offset new.length ++ " @@\n".toList))) = some (old, " +".toList ++
      (Script.rangeText new.offset new.length ++ " @@\n".toList)) :=
    range?_rangeText _ _ _ (by decide) (by decide)
  have hnew : range? (Script.rangeText new.offset new.length ++ " @@\n".toList) =
      some (new, " @@\n".toList) := range?_rangeText _ _ _ (by decide) (by decide)
  simp only [header?, List.append_assoc, hdrop, Option.bind_eq_bind, Option.bind_some, hold, hnew,
    if_true]

end Patch

/-! ## Lengths and lines of edits -/

namespace Script

theorem length_oldLines (s : Script) : s.oldLines.length = s.oldLength := by
  rw [oldLines, List.length_map, oldLength, List.countP_eq_length_filter]

theorem length_newLines (s : Script) : s.newLines.length = s.newLength := by
  rw [newLines, List.length_map, newLength, List.countP_eq_length_filter]

@[simp]
theorem oldLength_nil : oldLength [] = 0 := rfl

@[simp]
theorem newLength_nil : newLength [] = 0 := rfl

@[simp]
theorem oldLength_append (s t : Script) : oldLength (s ++ t) = oldLength s + oldLength t :=
  List.countP_append

@[simp]
theorem newLength_append (s t : Script) : newLength (s ++ t) = newLength s + newLength t :=
  List.countP_append

@[simp]
theorem oldLength_keep (l : Text) (s : Script) : oldLength (.keep l :: s) = oldLength s + 1 :=
  List.countP_cons_of_pos rfl

@[simp]
theorem newLength_keep (l : Text) (s : Script) : newLength (.keep l :: s) = newLength s + 1 :=
  List.countP_cons_of_pos rfl

@[simp]
theorem oldLength_drop (l : Text) (s : Script) : oldLength (.drop l :: s) = oldLength s + 1 :=
  List.countP_cons_of_pos rfl

@[simp]
theorem newLength_drop (l : Text) (s : Script) : newLength (.drop l :: s) = newLength s :=
  List.countP_cons_of_neg Bool.false_ne_true

@[simp]
theorem oldLength_add (l : Text) (s : Script) : oldLength (.add l :: s) = oldLength s :=
  List.countP_cons_of_neg Bool.false_ne_true

@[simp]
theorem newLength_add (l : Text) (s : Script) : newLength (.add l :: s) = newLength s + 1 :=
  List.countP_cons_of_pos rfl

theorem length_le_sides (s : Script) : s.length ≤ s.oldLength + s.newLength := by
  induction s with
  | nil => exact Nat.zero_le _
  | cons e s ih =>
    cases e <;>
      simp only [List.length_cons, oldLength_keep, newLength_keep, oldLength_drop, newLength_drop,
        oldLength_add, newLength_add] <;>
      omega

theorem editText_eq (e : Edit) : editText e = mark e :: Text.terminated e.line := by
  rw [editText, Text.terminated]
  split <;> simp

/-- The header line of a hunk with the edits `body` behind the edits `pre`. -/
def headerText (pre body : Script) : Text :=
  "@@ -".toList ++ rangeText pre.oldLength body.oldLength ++ " +".toList ++
    rangeText pre.newLength body.newLength ++ " @@\n".toList

theorem header?_headerText (pre body : Script) :
    Patch.header? (headerText pre body) =
      some (⟨pre.oldLength, body.oldLength⟩, ⟨pre.newLength, body.newLength⟩) :=
  Patch.header?_ranges ⟨_, _⟩ ⟨_, _⟩

/-- The lines of a hunk: its header, then its edits. -/
def hunkLines (s : Script) (h : Hunk) : List Text :=
  headerText (s.take h.start) ((s.take h.stop).drop h.start) ::
    ((s.take h.stop).drop h.start).map editText

/-- The lines of a rendering of some hunks. -/
def unifiedLines (s : Script) (label : Text) (hs : List Hunk) : List Text :=
  ("--- Before ".toList ++ label ++ ['\n']) :: ("+++ After ".toList ++ label ++ ['\n']) ::
    hs.flatMap (hunkLines s)

end Script

/-! ## Edits and hunks on the patcher -/

namespace Patcher

open Script

theorem read?_succ (l : Text) (o n k : Nat) (ahead written : List Text) :
    read? ⟨o + 1, n, k, l :: ahead, written⟩ l = some ⟨o, n, k + 1, ahead, written⟩ := by
  simp [read?]

theorem write?_succ (l : Text) (o n k : Nat) (ahead written : List Text) :
    write? ⟨o, n + 1, k, ahead, written⟩ l = some ⟨o, n, k, ahead, written ++ [l]⟩ := by
  simp [write?]

/-- The patcher between the edits `pre` and `rest` of a script, with the edits `body` of the current
    hunk still to come. -/
def amid (pre body rest : Script) : Patcher :=
  ⟨body.oldLength, body.newLength, pre.oldLength, (body ++ rest).oldLines.map Text.terminated,
    pre.newLines.map Text.terminated⟩

/-- **One edit** is taken with its line. -/
theorem step_editText (pre body rest : Script) (e : Edit) :
    step (amid pre (e :: body) rest) (editText e) = some (amid (pre ++ [e]) body rest) := by
  rw [editText_eq, amid, amid, step]
  cases e with
  | keep l =>
    simp [mark, Edit.line, edit?, read?_succ, write?_succ]
  | drop l =>
    simp [mark, Edit.line, edit?, read?_succ]
  | add l =>
    simp [mark, Edit.line, edit?, write?_succ]

/-- **A run of edits** is taken one by one. -/
theorem foldlM_editText (body : Script) : ∀ pre rest : Script,
    (body.map editText).foldlM step (amid pre body rest) = some (amid (pre ++ body) [] rest) := by
  induction body with
  | nil =>
    intro pre rest
    rw [List.append_nil]
    rfl
  | cons e body ih =>
    intro pre rest
    rw [List.map_cons, List.foldlM_cons, step_editText, List.append_cons pre e body]
    exact ih (pre ++ [e]) rest

/-- **A header** moves the patcher over the lines in front of its hunk. -/
theorem step_headerText {gap : Script} (hgap : ∀ e ∈ gap, e.isChange = false)
    (pre body rest : Script) :
    step (amid pre [] (gap ++ (body ++ rest))) (headerText (pre ++ gap) body) =
      some (amid (pre ++ gap) body rest) := by
  have hlines : gap.newLines = gap.oldLines := (oldLines_eq_newLines hgap).symm
  have hold : (gap.oldLines.map Text.terminated).length = gap.oldLength := by
    rw [List.length_map, length_oldLines]
  have hnew : gap.newLength = gap.oldLength := by
    rw [← length_oldLines, ← length_newLines, hlines]
  rw [step, if_pos ⟨rfl, rfl⟩, header?_headerText, Option.bind_some, enter?, if_pos]
  · simp only [amid, List.nil_append, oldLines_append, newLines_append, List.map_append,
      oldLength_append, Nat.add_sub_cancel_left, hlines, ← hold, List.drop_left, List.take_left]
  · simp only [amid, List.nil_append, oldLines_append, List.map_append, oldLength_append,
      newLength_append, Nat.add_sub_cancel_left, List.length_append, hold, hnew,
      List.length_map, length_newLines]
    exact ⟨Nat.le_add_right _ _, Nat.le_add_right _ _, trivial⟩

/-- **The hunks of a script** lead from its old lines to its new lines. -/
theorem foldlM_hunkLines {pre rest : Script} {hs : List Hunk} (h : Laid pre rest hs) :
    ((hs.flatMap (hunkLines (pre ++ rest))).foldlM step (amid pre [] rest)).bind result? =
      some ((pre ++ rest).newLines.map Text.terminated) := by
  induction h with
  | nil hrest =>
    simp [result?, amid, oldLines_eq_newLines hrest]
  | @cons pre gap body rest hs hgap _ ih =>
    have hall : pre ++ (gap ++ (body ++ rest)) = pre ++ gap ++ body ++ rest := by
      simp only [List.append_assoc]
    have hbefore : (pre ++ gap ++ body ++ rest).take (pre ++ gap).length = pre ++ gap := by
      rw [List.append_assoc (pre ++ gap), List.take_left]
    rw [List.flatMap_cons, hall, hunkLines, hbefore, List.take_left, List.drop_left,
      List.cons_append, List.foldlM_cons, step_headerText hgap, Option.bind_eq_bind,
      Option.bind_some, List.foldlM_append, foldlM_editText]
    exact ih

end Patcher

/-! ## The rendering as lines -/

namespace Script

open Text Patcher

theorem hunkText_eq (s : Script) (h : Hunk) : s.hunkText h = (hunkLines s h).flatten := by
  rw [hunkLines, List.flatten_cons, ← List.flatMap_def]
  rfl

theorem unifiedWith_eq (s : Script) (label : Text) (hs : List Hunk) :
    s.unifiedWith label hs = (s.unifiedLines label hs).flatten := by
  have hhunks : hs.flatMap s.hunkText = (hs.flatMap (hunkLines s)).flatten := by
    rw [List.flatMap_def, List.flatMap_def, List.flatten_flatten, List.map_map,
      List.map_congr_left fun h _ => hunkText_eq s h]
    rfl
  rw [unifiedLines, List.flatten_cons, List.flatten_cons, ← hhunks]
  exact List.append_assoc _ _ _

theorem newline_not_mem_ofNat (n : Nat) : '\n' ∉ Text.ofNat n := fun h =>
  absurd (Text.isDigit_of_mem_ofNat h) (by decide)

theorem newline_not_mem_rangeText (offset length : Nat) : '\n' ∉ rangeText offset length := by
  rcases length with _ | _ | length <;> simp [rangeText, newline_not_mem_ofNat]

theorem isEnded_headerText (pre body : Script) : IsEnded (headerText pre body) := by
  have hold : '\n' ∉ "@@ -".toList ++ rangeText pre.oldLength body.oldLength :=
    List.not_mem_append (by decide) (newline_not_mem_rangeText _ _)
  have hnew : '\n' ∉ " +".toList := by decide
  exact IsEnded.append (List.not_mem_append (List.not_mem_append hold hnew)
    (newline_not_mem_rangeText _ _)) ⟨" @@".toList, by decide, by decide⟩

theorem isEnded_editText {e : Edit} (h : IsLine e.line) : IsEnded (editText e) := by
  rw [editText_eq]
  refine IsEnded.append (t := [mark e]) ?_ h.isEnded_terminated
  cases e <;> simp [mark]

theorem isEnded_of_mem_hunkLines {s : Script} (hs : ∀ e ∈ s, IsLine e.line) {h : Hunk} {l : Text}
    (hl : l ∈ hunkLines s h) : IsEnded l := by
  rcases List.mem_cons.1 hl with rfl | hl
  · exact isEnded_headerText _ _
  · obtain ⟨e, he, rfl⟩ := List.mem_map.1 hl
    exact isEnded_editText (hs e (List.mem_of_mem_take (List.mem_of_mem_drop he)))

theorem lines_unifiedWith {s : Script} (hs : ∀ e ∈ s, IsLine e.line) {label : Text}
    (hl : '\n' ∉ label) (ranges : List Hunk) :
    (s.unifiedWith label ranges).lines = s.unifiedLines label ranges := by
  rw [unifiedWith_eq]
  refine lines_flatten fun l hmem => ?_
  rcases List.mem_cons.1 hmem with rfl | hmem
  · exact ⟨_, List.not_mem_append (by decide) hl, rfl⟩
  rcases List.mem_cons.1 hmem with rfl | hmem
  · exact ⟨_, List.not_mem_append (by decide) hl, rfl⟩
  obtain ⟨k, -, hk⟩ := List.mem_flatMap.1 hmem
  exact isEnded_of_mem_hunkLines hs hk

/-- **The rendering of a script is a patch** from its old lines to its new lines. -/
theorem applied?_unified {s : Script} (hs : ∀ e ∈ s, IsLine e.line) {label : Text}
    (hl : '\n' ∉ label) {c : Nat} (hc : s.length + c < wordSize) :
    ∃ rendering, s.unified? label c = some rendering ∧
      Patch.applied? rendering (s.oldLines.map terminated) =
        some (s.newLines.map terminated) := by
  refine ⟨_, (unified?_eq_ite s label c).trans (if_pos (fits_of_lt hc)), ?_⟩
  cases h : s.isUnchanged with
  | true =>
    have hkeep : ∀ e ∈ s, e.isChange = false := by simpa [isUnchanged] using h
    rw [if_pos rfl, oldLines_eq_newLines hkeep]
    rfl
  | false =>
    have hold : "--- ".toList <+: "--- Before ".toList ++ label ++ ['\n'] :=
      ⟨"Before ".toList ++ label ++ ['\n'], rfl⟩
    have hnew : "+++ ".toList <+: "+++ After ".toList ++ label ++ ['\n'] :=
      ⟨"After ".toList ++ label ++ ['\n'], rfl⟩
    have hstart : start (s.oldLines.map terminated) = amid [] [] s := rfl
    rw [if_neg Bool.false_ne_true, Patch.applied?, lines_unifiedWith hs hl, unifiedLines]
    dsimp only
    rw [if_pos ⟨hold, hnew⟩, hstart]
    exact foldlM_hunkLines (s.laid_hunks c)

/-- A comparison has at most one edit for each line of the two texts. -/
theorem length_between_le (before after : Text) :
    (between before after).length ≤ before.lines.length + after.lines.length := by
  rw [← oldLines_between before after, ← newLines_between before after, length_oldLines,
    length_newLines]
  exact length_le_sides _

theorem mem_oldLines_or_newLines {s : Script} {e : Edit} (h : e ∈ s) :
    e.line ∈ s.oldLines ∨ e.line ∈ s.newLines := by
  cases e with
  | keep l => exact Or.inl (List.mem_map.2 ⟨_, List.mem_filter.2 ⟨h, rfl⟩, rfl⟩)
  | drop l => exact Or.inl (List.mem_map.2 ⟨_, List.mem_filter.2 ⟨h, rfl⟩, rfl⟩)
  | add l => exact Or.inr (List.mem_map.2 ⟨_, List.mem_filter.2 ⟨h, rfl⟩, rfl⟩)

/-- **The rendering of a comparison is a faithful patch.**  There is one, and applied to the lines of
    the first text it finds each line that it keeps or drops where its headers say, and it gives the
    lines of the second; a last line without a newline counts as if it had one. -/
theorem applied?_unified_between (before after : Text) {label : Text} (hl : '\n' ∉ label) {c : Nat}
    (hc : (between before after).length + c < wordSize) :
    ∃ rendering, (between before after).unified? label c = some rendering ∧
      Patch.applied? rendering (before.lines.map terminated) =
        some (after.lines.map terminated) := by
  have hlines : ∀ e ∈ between before after, IsLine e.line := by
    intro e he
    rcases mem_oldLines_or_newLines he with h | h
    · rw [oldLines_between] at h
      exact isLine_of_mem_lines h
    · rw [newLines_between] at h
      exact isLine_of_mem_lines h
  have h := applied?_unified hlines hl hc
  rwa [oldLines_between, newLines_between] at h

/-- A line added at the front, and a last line without a newline that is dropped. -/
theorem applied?_unified_between_two_hunks :
    '\n' ∉ "x".toList ∧ (between "b\nc\nd".toList "a\nb\nc\n".toList).length + 0 < wordSize ∧
      ∃ rendering,
        (between "b\nc\nd".toList "a\nb\nc\n".toList).unified? "x".toList 0 = some rendering ∧
        Patch.applied? rendering ["b\n".toList, "c\n".toList, "d\n".toList] =
          some ["a\n".toList, "b\n".toList, "c\n".toList] := by
  have hl : '\n' ∉ "x".toList := by decide
  have hc : (between "b\nc\nd".toList "a\nb\nc\n".toList).length + 0 < wordSize :=
    calc (between "b\nc\nd".toList "a\nb\nc\n".toList).length
        ≤ (lines "b\nc\nd".toList).length + (lines "a\nb\nc\n".toList).length :=
          length_between_le _ _
      _ = 6 := by decide
      _ < wordSize := by decide
  exact ⟨hl, hc, applied?_unified_between _ _ hl hc⟩

end Script

end Retouch
