/-
  Records on lines.

  A text that is neither a table nor an array holds a record on each line, blank lines apart.  It is
  read as a whole or not at all: the first line that is neither blank nor a record is reported by its
  number, and blank lines count.

  * `lineRecords_of_fault` and `lineRecords_of_sound`: reading stops at the first faulty line, and
    without one it gives the records of all lines;
  * `lineRecords_bareLines`: a text may as well be cut at its newlines, since a carriage return at
    the end of a line is a blank;
  * `lineRecords_of_blank`: a script that adds and drops blank lines changes no record and moves the
    reported line along;
  * `parse_lines`: all of this for texts.
-/
import Retouch.Proofs.Corpora
import Retouch.Proofs.Digits
import Retouch.Proofs.JsonReading
import Retouch.Proofs.Replay

namespace Retouch.Corpus

open Json Text

/-! ## Blank lines -/

/-- A value has a character that is no white space. -/
theorem exists_not_isBlank {m : Nat} {t rest : Text} {j : Json}
    (h : readValue? m t = some (j, rest)) : ∃ c ∈ t, isBlank c = false := by
  have hmem : ∀ {c r}, skipSpace t = c :: r → c ∈ t := by
    intro c r hskip
    have hsub : skipSpace t ⊆ t := (List.dropWhile_suffix isSpace).subset
    exact hsub (by rw [hskip]; exact List.mem_cons_self)
  cases m with
  | zero => simp [readValue?] at h
  | succ m =>
    rw [readValue?] at h
    split at h
    · contradiction
    · next hskip => exact ⟨_, hmem hskip, by decide⟩
    · next hskip => exact ⟨_, hmem hskip, by decide⟩
    · next hskip => exact ⟨_, hmem hskip, by decide⟩
    · next hskip => exact ⟨_, hmem hskip, by decide⟩
    · next hskip => exact ⟨_, hmem hskip, by decide⟩
    · next hskip => exact ⟨_, hmem hskip, by decide⟩
    · obtain ⟨⟨n, rest'⟩, hread, -⟩ := Option.map_eq_some_iff.1 h
      obtain ⟨hn, hskip⟩ := isNumber_of_readNumber? hread
      obtain ⟨c, r, rfl, hc⟩ := hn.head?
      refine ⟨c, hmem hskip, ?_⟩
      rcases hc with rfl | hc
      · decide
      · exact isBlank_of_isDigit hc

theorem parse?_of_isBlankLine {l : Text} (h : isBlankLine l = true) : Record.parse? l = none := by
  have hread : readValue? (2 * l.length + 2) l = none := by
    by_contra hne
    obtain ⟨⟨j, rest⟩, hsome⟩ := Option.ne_none_iff_exists'.1 hne
    obtain ⟨c, hc, hblank⟩ := exists_not_isBlank hsome
    rw [isBlankLine_iff.1 h c hc] at hblank
    contradiction
  rw [Record.parse?, Json.parse?, hread]
  rfl

/-! ## Faulty lines -/

/-- Whether a line is neither blank nor a record. -/
def isFaulty (l : Text) : Bool := !isBlankLine l && (Record.parse? l).isNone

/-- Line `k`, counted from one, is the first faulty one. -/
def IsFirstFault (ls : List Text) (k : Nat) : Prop :=
  ∃ before l after, ls = before ++ l :: after ∧ k = before.length + 1 ∧ isFaulty l = true ∧
    ∀ l' ∈ before, isFaulty l' = false

theorem isFaulty_of_isBlankLine {l : Text} (h : isBlankLine l = true) : isFaulty l = false := by
  simp [isFaulty, h]

section
variable {l : Text}

theorem lineRecords_cons_of_faulty (h : isFaulty l = true) (n : Nat) (ls : List Text) :
    lineRecords n (l :: ls) = .error (.record n) := by
  simp only [isFaulty, Bool.and_eq_true, Bool.not_eq_true', Option.isNone_iff_eq_none] at h
  rw [lineRecords, h.1, h.2]
  rfl

/-- A blank line counts, but it gives no record. -/
theorem lineRecords_cons_of_sound (h : isFaulty l = false) (n : Nat) (ls : List Text) :
    lineRecords n (l :: ls) = (lineRecords (n + 1) ls).map ((Record.parse? l).toList ++ ·) := by
  cases hblank : isBlankLine l with
  | true =>
    rw [lineRecords, if_pos hblank, parse?_of_isBlankLine hblank]
    cases lineRecords (n + 1) ls <;> rfl
  | false =>
    cases hread : Record.parse? l with
    | none => simp [isFaulty, hblank, hread] at h
    | some r =>
      rw [lineRecords, hblank, hread]
      rfl

end

theorem lineRecords_append {before : List Text} (h : ∀ l ∈ before, isFaulty l = false) (n : Nat)
    (ls : List Text) :
    lineRecords n (before ++ ls) =
      (lineRecords (n + before.length) ls).map (before.filterMap Record.parse? ++ ·) := by
  induction before generalizing n with
  | nil =>
    rw [List.nil_append, List.length_nil, Nat.add_zero]
    cases lineRecords n ls <;> rfl
  | cons l before ih =>
    obtain ⟨hl, hbefore⟩ := List.forall_mem_cons.1 h
    rw [List.cons_append, lineRecords_cons_of_sound hl, ih hbefore, List.length_cons,
      Nat.add_right_comm, Nat.add_assoc]
    cases lineRecords (n + (before.length + 1)) ls with
    | error => rfl
    | ok rs => cases hread : Record.parse? l <;> simp [Except.map, hread]

/-- **Without a faulty line, every line that is a record gives it.** -/
theorem lineRecords_of_sound {ls : List Text} (h : ∀ l ∈ ls, isFaulty l = false) (n : Nat) :
    lineRecords n ls = .ok (ls.filterMap Record.parse?) := by
  have happend := lineRecords_append h n []
  simpa [lineRecords, Except.map] using happend

/-- **Reading stops at the first faulty line.** -/
theorem lineRecords_of_fault {before : List Text} {l : Text}
    (h : ∀ l' ∈ before, isFaulty l' = false) (hl : isFaulty l = true) (n : Nat)
    (after : List Text) :
    lineRecords n (before ++ l :: after) = .error (.record (n + before.length)) := by
  rw [lineRecords_append h, lineRecords_cons_of_faulty hl]
  rfl

/-- The list is sound, or it has a first faulty line. -/
theorem sound_or_isFirstFault (ls : List Text) :
    (∀ l ∈ ls, isFaulty l = false) ∨ ∃ k, IsFirstFault ls k := by
  cases hfind : ls.find? isFaulty with
  | none => exact .inl fun l hl => by simpa using List.find?_eq_none.1 hfind l hl
  | some l =>
    obtain ⟨hl, before, after, hls, hbefore⟩ := List.find?_eq_some_iff_append.1 hfind
    exact .inr ⟨_, before, l, after, hls, rfl, hl, by simpa using hbefore⟩

theorem lineRecords_eq_error_iff {ls : List Text} {k : Nat} :
    lineRecords 1 ls = .error (.record k) ↔ IsFirstFault ls k := by
  constructor
  · intro h
    rcases sound_or_isFirstFault ls with hsound | ⟨k', hfault⟩
    · rw [lineRecords_of_sound hsound] at h
      contradiction
    · obtain ⟨before, l, after, rfl, rfl, hl, hbefore⟩ := id hfault
      rw [lineRecords_of_fault hbefore hl, Except.error.injEq, Fault.record.injEq,
        Nat.add_comm] at h
      rwa [← h]
  · rintro ⟨before, l, after, rfl, rfl, hl, hbefore⟩
    rw [lineRecords_of_fault hbefore hl, Nat.add_comm]

/-! ## Texts cut at their newlines -/

/-- A carriage return at the end of a line is a blank, to a record and to white space alike. -/
theorem Seen.same {l l' : Text} (h : Seen l l') :
    isBlankLine l' = isBlankLine l ∧ Record.parse? l' = Record.parse? l := by
  rcases h with rfl | rfl
  · exact ⟨rfl, rfl⟩
  · constructor
    · rw [Bool.eq_iff_iff, isBlankLine_iff, isBlankLine_iff, List.forall_mem_append]
      have hreturn : ∀ c ∈ ['\r'], isBlank c = true := List.forall_mem_singleton.2 (by decide)
      exact ⟨fun h => ⟨h, hreturn⟩, fun h => h.1⟩
    · have hreturn : IsSpaces ['\r'] := List.forall_mem_singleton.2 (by decide)
      rw [Record.parse?, Record.parse?, parse?_append_spaces hreturn]

theorem lineRecords_of_seen {ls ls' : List Text} (h : List.Forall₂ Seen ls ls') (n : Nat) :
    lineRecords n ls' = lineRecords n ls := by
  induction h generalizing n with
  | nil => rfl
  | cons hl _ ih =>
    obtain ⟨hblank, hread⟩ := Seen.same hl
    rw [lineRecords, lineRecords, hblank, hread, ih]

theorem lineRecords_bareLines (n : Nat) (t : Text) :
    lineRecords n (bareLines t) = lineRecords n (t.splitOn '\n') := by
  have hlines : ∀ l ∈ t.splitOn '\n', '\n' ∉ l := fun l => newline_not_mem_of_mem_splitOn
  obtain ⟨ls, hseen, hread⟩ := exists_seen_joined hlines
  rw [joined_splitOn] at hread
  rw [← lineRecords_of_seen hseen]
  rcases hread with rfl | rfl
  · rfl
  · rw [lineRecords_append_empty]

theorem head?_trimStart_eq_filter (t : Text) :
    (trimStart t).head? = (t.filter (!isBlank ·)).head? := by
  rw [List.head?_filter, List.find?_eq_head?_dropWhile_not, trimStart]
  simp

theorem filter_joined (ls : List Text) :
    (joined ls).filter (!isBlank ·) = ls.flatMap (·.filter (!isBlank ·)) := by
  induction ls with
  | nil => rfl
  | cons l ls ih =>
    cases ls with
    | nil => simp [joined_singleton]
    | cons l' ls =>
      rw [List.flatMap_cons, ← ih, joined_cons_cons, List.filter_append,
        List.filter_cons_of_neg (by decide)]

/-- Whether a text is an array is seen from its lines without their white space. -/
theorem isArray_eq (t : Text) :
    isArray t = (((t.splitOn '\n').flatMap (·.filter (!isBlank ·))).head? == some '[') := by
  rw [isArray, head?_trimStart_eq_filter, ← filter_joined, joined_splitOn]

/-! ## Blank lines added and dropped -/

/-- The script leads from one text to another, both cut at their newlines, and all that it adds or
    drops is blank lines. -/
structure Respaces (s : Script) (t t' : Text) : Prop where
  old : s.oldLines = t.splitOn '\n'
  new : s.newLines = t'.splitOn '\n'
  blank : ∀ e ∈ s, e.isChange = true → isBlankLine e.line = true

theorem sound_sides {s : Script} (h : ∀ e ∈ s, isFaulty e.line = false) :
    (∀ l ∈ s.oldLines, isFaulty l = false) ∧ ∀ l ∈ s.newLines, isFaulty l = false := by
  simp only [Script.oldLines, Script.newLines, List.forall_mem_map, List.mem_filter]
  exact ⟨fun e he => h e he.1, fun e he => h e he.1⟩

section
variable {s : Script} (h : ∀ e ∈ s, e.isChange = true → isBlankLine e.line = true)
include h

/-- What does not see blank lines sees the same on both sides. -/
theorem flatMap_oldLines_eq {α : Type} {f : Text → List α}
    (hf : ∀ {l}, isBlankLine l = true → f l = []) : s.oldLines.flatMap f = s.newLines.flatMap f := by
  induction s with
  | nil => rfl
  | cons e s ih =>
    obtain ⟨he, hs⟩ := List.forall_mem_cons.1 h
    cases e with
    | keep l =>
      rw [Script.oldLines_keep, Script.newLines_keep, List.flatMap_cons, List.flatMap_cons, ih hs]
    | drop l =>
      have hl : f l = [] := hf (he rfl)
      rw [Script.oldLines_drop, Script.newLines_drop, List.flatMap_cons, hl, ih hs, List.nil_append]
    | add l =>
      have hl : f l = [] := hf (he rfl)
      rw [Script.oldLines_add, Script.newLines_add, List.flatMap_cons, hl, ih hs, List.nil_append]

theorem filterMap_oldLines_eq :
    s.oldLines.filterMap Record.parse? = s.newLines.filterMap Record.parse? := by
  rw [List.filterMap_eq_flatMap_toList, List.filterMap_eq_flatMap_toList]
  refine flatMap_oldLines_eq h fun hblank => ?_
  rw [parse?_of_isBlankLine hblank]
  rfl

/-- **Blank lines change no record, and move the reported line along.** -/
theorem lineRecords_of_blank (n : Nat) :
    (∃ rs, lineRecords n s.oldLines = .ok rs ∧ lineRecords n s.newLines = .ok rs) ∨
    ∃ (before : Script) (l : Text) (after : Script), s = before ++ .keep l :: after ∧
      lineRecords n s.oldLines = .error (.record (n + before.oldLines.length)) ∧
      lineRecords n s.newLines = .error (.record (n + before.newLines.length)) := by
  cases hfind : s.find? (isFaulty ·.line) with
  | none =>
    have hsound : ∀ e ∈ s, isFaulty e.line = false := fun e he => by
      simpa using List.find?_eq_none.1 hfind e he
    obtain ⟨hold, hnew⟩ := sound_sides hsound
    refine .inl ⟨_, lineRecords_of_sound hold n, ?_⟩
    rw [lineRecords_of_sound hnew, filterMap_oldLines_eq h]
  | some e =>
    obtain ⟨he, before, after, rfl, hbefore⟩ := List.find?_eq_some_iff_append.1 hfind
    have hsound : ∀ e ∈ before, isFaulty e.line = false := by simpa using hbefore
    obtain ⟨hold, hnew⟩ := sound_sides hsound
    -- a blank line is not faulty, so the first faulty line stands on both sides
    have hkeep : e.isChange = false := by
      rw [← Bool.not_eq_true]
      intro hchange
      rw [isFaulty_of_isBlankLine (h e (by simp) hchange)] at he
      contradiction
    obtain ⟨l, rfl⟩ : ∃ l, e = .keep l := by
      cases e <;> simp_all [Edit.isChange]
    refine .inr ⟨before, l, after, rfl, ?_, ?_⟩
    · rw [Script.oldLines_append]
      exact lineRecords_of_fault hold he n _
    · rw [Script.newLines_append]
      exact lineRecords_of_fault hnew he n _

end

theorem Respaces.isArray_eq {s : Script} {t t' : Text} (h : Respaces s t t') :
    isArray t' = isArray t := by
  have hsides := flatMap_oldLines_eq h.blank (f := (·.filter (!isBlank ·))) fun hl => by
    simpa [List.filter_eq_nil_iff] using isBlankLine_iff.1 hl
  rw [Corpus.isArray_eq, Corpus.isArray_eq, ← h.old, ← h.new, hsides]

/-! ## Texts -/

theorem parse_of_lines {path t : Text} (hpath : isTable path = false) (harray : isArray t = false) :
    parse path t = (lineRecords 1 (bareLines t)).map (·.filterMap Record.entry?) := by
  rw [parse, records, hpath, harray]
  rfl

/-- **Records on lines are read as a whole or not at all.**  The reported line is the first one that
    is neither blank nor a record; without such a line the entries are the records that have both
    fields, in order.  A script that adds and drops blank lines changes no entry, and the reported
    line moves by what the script adds and drops before it. -/
theorem parse_lines {path t : Text} (hpath : isTable path = false) (harray : isArray t = false) :
    (∀ k, parse path t = .error (.record k) ↔ IsFirstFault (bareLines t) k) ∧
    ((∀ k, ¬ IsFirstFault (bareLines t) k) → ∃ es, parse path t = .ok es ∧
      es.map ofEntry = ((bareLines t).filterMap Record.parse?).filter Record.isWhole) ∧
    ∀ (s : Script) (t' : Text), Respaces s t t' →
      (∀ es, parse path t' = .ok es ↔ parse path t = .ok es) ∧
      ∀ k, parse path t = .error (.record k) →
        ∃ (before : Script) (l : Text) (after : Script) (k' : Nat),
          s = before ++ .keep l :: after ∧ k = before.oldLines.length + 1 ∧
          parse path t' = .error (.record k') ∧ k' + before.deletions = k + before.insertions := by
  have hread := parse_of_lines hpath harray
  refine ⟨fun k => ?_, fun hnone => ?_, fun s t' hs => ?_⟩
  · rw [hread, ← lineRecords_eq_error_iff]
    cases lineRecords 1 (bareLines t) <;> simp [Except.map]
  · have hsound : ∀ l ∈ bareLines t, isFaulty l = false := by
      rcases sound_or_isFirstFault (bareLines t) with hsound | ⟨k, hfault⟩
      · exact hsound
      · exact absurd hfault (hnone k)
    rw [hread, lineRecords_of_sound hsound]
    exact ⟨_, rfl, map_ofEntry_filterMap _⟩
  · have hread' := parse_of_lines hpath (hs.isArray_eq.trans harray)
    rw [lineRecords_bareLines] at hread hread'
    rw [hread, hread', ← hs.old, ← hs.new]
    rcases lineRecords_of_blank hs.blank 1 with
      ⟨rs, hold, hnew⟩ | ⟨before, l, after, hsplit, hold, hnew⟩
    · rw [hold, hnew]
      exact ⟨fun es => Iff.rfl, fun k hk => by contradiction⟩
    · rw [hold, hnew]
      refine ⟨fun es => by simp [Except.map], fun k hk => ?_⟩
      have hk' : k = before.oldLines.length + 1 := by
        simp only [Except.map, Except.error.injEq, Fault.record.injEq] at hk
        omega
      have hlength := Script.length_newLines_add_deletions before
      exact ⟨before, l, after, _, hsplit, hk', rfl, by omega⟩

/-- A record without fields, a line with a no-break space, a whole record and an array of one item.
    Two other blank lines take the place of the first one and one more stands before the array, so
    the reported line moves from the fourth to the sixth. -/
theorem parse_lines_respaced :
    parse "c.jsonl".toList "\x7b\x7d\r\n\u00a0\n[\"a\",\"b\"]\n[1]\n".toList = .error (.record 4) ∧
    parse "c.jsonl".toList "\x7b\x7d\r\n\n\t\r\n[\"a\",\"b\"]\n \n[1]\n".toList =
      .error (.record 6) ∧
    parse "c.jsonl".toList "\x7b\x7d\r\n\u00a0\n[\"a\",\"b\"]".toList = .ok [⟨['a'], ['b']⟩] := by
  have hpath : isTable "c.jsonl".toList = false := by decide +kernel
  have hsound : ∀ l ∈ ["\x7b\x7d".toList, ['\u00a0'], "[\"a\",\"b\"]".toList], isFaulty l = false := by
    rw [List.forall_mem_cons, List.forall_mem_cons, List.forall_mem_singleton]
    decide +kernel
  obtain ⟨hfault, -, hmove⟩ := parse_lines
    (t := "\x7b\x7d\r\n\u00a0\n[\"a\",\"b\"]\n[1]\n".toList) hpath (by decide +kernel)
  have hfour := (hfault 4).2
    ⟨_, "[1]".toList, [], by decide +kernel, rfl, by decide +kernel, hsound⟩
  refine ⟨hfour, ?_, ?_⟩
  · obtain ⟨s, hs⟩ : ∃ s : Script, s = [.keep "\x7b\x7d\r".toList, .drop ['\u00a0'], .add [],
        .add ['\t', '\r'], .keep "[\"a\",\"b\"]".toList, .add [' '], .keep "[1]".toList,
        .keep []] := ⟨_, rfl⟩
    have hblank : ∀ e ∈ s, e.isChange = true → isBlankLine e.line = true := by
      simp only [hs, List.forall_mem_cons]
      decide +kernel
    have hrespaces : Respaces s "\x7b\x7d\r\n\u00a0\n[\"a\",\"b\"]\n[1]\n".toList
        "\x7b\x7d\r\n\n\t\r\n[\"a\",\"b\"]\n \n[1]\n".toList :=
      ⟨by rw [hs]; decide +kernel, by rw [hs]; decide +kernel, hblank⟩
    obtain ⟨before, l, after, k, hsplit, hold, hparse, hmoved⟩ := (hmove s _ hrespaces).2 4 hfour
    -- three lines stand before the array, and a line is kept after no other three
    have hcount : ∀ n < 8, 4 = (Script.oldLines (s.take n)).length + 1 →
        s[n]?.any (!·.isChange) = true →
        Script.deletions (s.take n) = 1 ∧ Script.insertions (s.take n) = 3 := by
      rw [hs]
      decide +kernel
    have hlength : before.length < 8 := by
      have hlength := congrArg List.length hsplit
      simp only [hs, List.length_append, List.length_cons, List.length_nil] at hlength
      omega
    have hcount := hcount before.length hlength
    rw [hsplit, List.take_left] at hcount
    obtain ⟨hdropped, hadded⟩ := hcount hold (by simp [Edit.isChange])
    obtain rfl : k = 6 := by omega
    exact hparse
  · obtain ⟨-, hread, -⟩ := parse_lines (t := "\x7b\x7d\r\n\u00a0\n[\"a\",\"b\"]".toList) hpath
      (by decide +kernel)
    have hlines : bareLines "\x7b\x7d\r\n\u00a0\n[\"a\",\"b\"]".toList =
        ["\x7b\x7d".toList, ['\u00a0'], "[\"a\",\"b\"]".toList] := by decide +kernel
    rw [hlines] at hread
    obtain ⟨es, hes, hmap⟩ := hread (by
      rintro k ⟨before, l, after, hls, -, hl, -⟩
      rw [hsound l (by simp only [hls, List.mem_append, List.mem_cons, true_or, or_true])] at hl
      exact absurd hl Bool.false_ne_true)
    have hrecords : (["\x7b\x7d".toList, ['\u00a0'], "[\"a\",\"b\"]".toList].filterMap
        Record.parse?).filter Record.isWhole = [ofEntry ⟨['a'], ['b']⟩] := by decide +kernel
    rw [hes, ← filterMap_entry?_map es, hmap, hrecords]
    rfl

end Retouch.Corpus
