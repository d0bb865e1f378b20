/-
  The formats of a corpus agree.

  A list of records has many texts in each format.  In JSON an object has the two fields in any order,
  among any other fields, and a missing field is left out or null (`Record.IsObject`); the objects are
  the items of an array (`ArrayText`), or stand on lines of their own, with blank lines anywhere
  (`LinesText`).  A table has a header and a row of two quoted cells for each entry (`TableText`).

  * `Record.IsObject.ofJson?`: such an object is read as its record;
  * `records_of_arrayText`, `records_of_linesText`, `records_of_tableText`: the records of a text are
    those it was written for;
  * `parse_written`: each format gives back the entries, and in JSON the records that lack a field
    are left out.
-/
import Mathlib.Data.List.Forall2
import Retouch.Corpus.Reader
import Retouch.Proofs.JsonText
import Retouch.Proofs.Lines

/-! ## Quoted cells -/

namespace Retouch.Csv

theorem readFrom_lineEnds {ends : Text} (h : ∀ c ∈ ends, isLineEnd c = true) (t : Text) :
    readFrom .record [] [] (ends ++ t) = readFrom .record [] [] t := by
  induction ends with
  | nil => rfl
  | cons c ends ih =>
    obtain ⟨hc, hends⟩ := List.forall_mem_cons.1 h
    rw [List.cons_append, readFrom, if_pos ⟨rfl, hc⟩, ih hends]
    exact State.noConfusion

/-- A line end behind a field ends the record. -/
theorem readFrom_lineEnd {state : State} (h : state = .plain ∨ state = .closing)
    (fields : List Text) (current : Text) {c : Char} (hc : isLineEnd c = true) (t : Text) :
    readFrom state fields current (c :: t) =
      (current.reverse :: fields).reverse :: readFrom .record [] [] t := by
  rcases h with rfl | rfl <;> simp [readFrom, hc]

/-- Between quotes a quote is written twice. -/
theorem readFrom_quoted (fields : List Text) (current s t : Text) :
    readFrom .quoted fields current
        (s.flatMap (fun c => if c = '"' then ['"', '"'] else [c]) ++ '"' :: t) =
      readFrom .closing fields (s.reverse ++ current) t := by
  induction s generalizing current with
  | nil => simp [readFrom]
  | cons c s ih =>
    rw [List.flatMap_cons, List.append_assoc, List.reverse_cons, List.append_assoc,
      List.singleton_append, ← ih]
    by_cases hc : c = '"'
    · subst hc
      simp [readFrom, isLineEnd]
    · simp [readFrom, hc]

theorem readFrom_quoteField {state : State} (h : state = .record ∨ state = .field)
    (fields : List Text) (s t : Text) :
    readFrom state fields [] (quoteField s ++ t) = readFrom .closing fields s.reverse t := by
  have hquoted := readFrom_quoted fields [] s t
  rw [List.append_nil] at hquoted
  rw [← hquoted, quoteField, List.append_assoc, List.append_assoc, List.singleton_append,
    List.singleton_append]
  rcases h with rfl | rfl <;> simp [readFrom, isLineEnd]

theorem readFrom_comma (fields : List Text) (current t : Text) :
    readFrom .closing fields current (',' :: t) =
      readFrom .field (current.reverse :: fields) [] t := by
  simp [readFrom, isLineEnd]

end Retouch.Csv

namespace Retouch.Corpus

open Json Text

/-! ## Objects -/

/-- What stands for a field of a record in an object. -/
inductive IsField (key : Text) : Option Text → List (Option Text × Json) → Prop
  | given (s : Text) : IsField key (some s) [(some key, .text s)]
  | null : IsField key none [(some key, .null)]
  | absent : IsField key none []

/-- A field with a name that a record does not use. -/
def IsOther (f : Option Text × Json) : Prop :=
  ∃ key, f.1 = some key ∧ key ≠ codeKey ∧ key ≠ optimizedKey

/-- The objects that stand for a record: its fields in any order, among any others. -/
def Record.IsObject (r : Record) (fs : List (Option Text × Json)) : Prop :=
  ∃ code optimized others, IsField codeKey r.code code ∧ IsField optimizedKey r.optimized optimized ∧
    (∀ f ∈ others, IsOther f) ∧ fs.Perm (code ++ optimized ++ others)

theorem IsField.key {key : Text} {v : Option Text} {fs : List (Option Text × Json)}
    (h : IsField key v fs) : ∀ f ∈ fs, f.1 = some key := by
  cases h <;> simp

theorem codeKey_ne : codeKey ≠ optimizedKey := by decide

/-- A field is found among fields with other names. -/
theorem fieldText?_of_perm {key : Text} {v : Option Text} {fs own others : List (Option Text × Json)}
    (hown : IsField key v own) (hothers : ∀ f ∈ others, f.1 ≠ some key)
    (h : fs.Perm (own ++ others)) : fieldText? key fs = some v := by
  have hfilter : fs.filter (·.1 == some key) = own := by
    have hperm := h.filter (·.1 == some key)
    have hnil : others.filter (·.1 == some key) = [] := by
      rw [List.filter_eq_nil_iff]
      intro f hf
      simpa using hothers f hf
    have hself : own.filter (·.1 == some key) = own := by
      rw [List.filter_eq_self]
      intro f hf
      simpa using hown.key f hf
    rw [List.filter_append, hnil, List.append_nil, hself] at hperm
    cases hown with
    | absent => exact List.perm_nil.1 hperm
    | _ => exact List.perm_singleton.1 hperm
  rw [fieldText?, hfilter]
  cases hown <;> rfl

theorem Record.IsObject.ofJson? {r : Record} {fs : List (Option Text × Json)} (h : r.IsObject fs) :
    Record.ofJson? (.obj fs) = some r := by
  obtain ⟨code, optimized, others, hcode, hoptimized, hothers, hperm⟩ := h
  have hkeys : fs.any (·.1.isNone) = false := by
    rw [List.any_eq_false]
    intro f hf
    have hmem := hperm.subset hf
    simp only [List.mem_append] at hmem
    rcases hmem with (hmem | hmem) | hmem
    · simp [hcode.key f hmem]
    · simp [hoptimized.key f hmem]
    · obtain ⟨key, hkey, -⟩ := hothers f hmem
      simp [hkey]
  have hread₁ : fieldText? codeKey fs = some r.code := by
    have hrest : ∀ f ∈ optimized ++ others, f.1 ≠ some codeKey := by
      intro f hf
      rcases List.mem_append.1 hf with hf | hf
      · simp [hoptimized.key f hf, codeKey_ne.symm]
      · obtain ⟨key, hkey, hne, -⟩ := hothers f hf
        simp [hkey, hne]
    exact fieldText?_of_perm hcode hrest (by simpa using hperm)
  have hread₂ : fieldText? optimizedKey fs = some r.optimized := by
    have hrest : ∀ f ∈ code ++ others, f.1 ≠ some optimizedKey := by
      intro f hf
      rcases List.mem_append.1 hf with hf | hf
      · simp [hcode.key f hf, codeKey_ne]
      · obtain ⟨key, hkey, -, hne⟩ := hothers f hf
        simp [hkey, hne]
    refine fieldText?_of_perm hoptimized hrest (hperm.trans ?_)
    rw [← List.append_assoc]
    exact List.perm_append_comm.append_right others
  rw [Record.ofJson?, hkeys, hread₁, hread₂]
  rfl

/-! ## Arrays -/

/-- The texts of an array of records. -/
def ArrayText (rs : List Record) (t : Text) : Prop :=
  ∃ fss u b, List.Forall₂ Record.IsObject rs fss ∧ Written (.value (.arr (fss.map .obj))) u ∧
    IsSpaces b ∧ t = u ++ b

theorem isBlank_of_isSpace {c : Char} (h : isSpace c = true) : isBlank c = true := by
  simp only [isSpace, Bool.or_eq_true, beq_iff_eq] at h
  rcases h with ((rfl | rfl) | rfl) | rfl <;> decide

theorem trimStart_append {b : Text} (h : ∀ c ∈ b, isBlank c = true) (t : Text) :
    trimStart (b ++ t) = trimStart t := List.dropWhile_append_of_pos h

theorem head?_trimStart {j : Json} {t : Text} (h : Written (.value j) t) {c : Char}
    (hc : bracket? j = some c) (hblank : isBlank c = false) (rest : Text) :
    (trimStart (t ++ rest)).head? = some c := by
  obtain ⟨b, r, rfl, hb⟩ := h.exists_of_bracket hc
  rw [List.append_assoc, trimStart_append fun c hc => isBlank_of_isSpace (hb c hc), List.cons_append,
    trimStart, List.dropWhile_cons_of_neg (by simp [hblank])]
  rfl

theorem mapM_ofJson? {rs : List Record} {fss : List (List (Option Text × Json))}
    (h : List.Forall₂ Record.IsObject rs fss) :
    (fss.map Json.obj).mapM Record.ofJson? = some rs := by
  induction h with
  | nil => rfl
  | cons hr _ ih =>
    rw [List.map_cons, List.mapM_cons, hr.ofJson?, ih]
    rfl

/-- **An array is read as the records it was written for.** -/
theorem records_of_arrayText {path t : Text} {rs : List Record} (hpath : isTable path = false)
    (h : ArrayText rs t) : records path t = .ok rs := by
  obtain ⟨fss, u, b, hrs, hu, hb, rfl⟩ := h
  have harray : isArray (u ++ b) = true := by
    rw [isArray, head?_trimStart hu rfl (by decide)]
    rfl
  rw [records, hpath, harray, arrayRecords?, parse?_of_written hu hb]
  simp [mapM_ofJson? hrs]

/-! ## Lines -/

/-- The lines of some records: each record has a line, and blank lines stand anywhere. -/
inductive IsLines : List Record → List Text → Prop
  | nil : IsLines [] []
  | blank {l : Text} {rs : List Record} {ls : List Text} : (∀ c ∈ l, isBlank c = true) → '\n' ∉ l →
      IsLines rs ls → IsLines rs (l :: ls)
  | record {r : Record} {fs : List (Option Text × Json)} {u b : Text} {rs : List Record}
      {ls : List Text} : r.IsObject fs → Written (.value (.obj fs)) u → IsSpaces b → '\n' ∉ u ++ b →
      IsLines rs ls → IsLines (r :: rs) ((u ++ b) :: ls)

/-- The texts of records on lines of their own. -/
def LinesText (rs : List Record) (t : Text) : Prop := ∃ ls, IsLines rs ls ∧ t = joined ls

theorem isBlankLine_iff {l : Text} : isBlankLine l = true ↔ ∀ c ∈ l, isBlank c = true := by
  rw [isBlankLine, List.isEmpty_iff, trim, trimEnd, dropEndWhile, List.reverse_eq_nil_iff,
    List.dropWhile_eq_nil_iff]
  constructor
  · intro h c hc
    rw [← List.takeWhile_append_dropWhile (p := isBlank) (l := l), List.mem_append] at hc
    rcases hc with hc | hc
    · exact List.mem_takeWhile_imp hc
    · exact h c (List.mem_reverse.2 hc)
  · intro h c hc
    exact h c ((List.dropWhile_suffix _).subset (List.mem_reverse.1 hc))

theorem IsLines.newline_not_mem {rs : List Record} {ls : List Text} (h : IsLines rs ls) :
    ∀ l ∈ ls, '\n' ∉ l := by
  induction h with
  | nil => simp
  | blank _ hl _ ih => exact List.forall_mem_cons.2 ⟨hl, ih⟩
  | record _ _ _ hl _ ih => exact List.forall_mem_cons.2 ⟨hl, ih⟩

/-- A carriage return at the end of a line is a blank. -/
theorem IsLines.seen {rs : List Record} {ls ls' : List Text} (h : IsLines rs ls)
    (hseen : List.Forall₂ Seen ls ls') : IsLines rs ls' := by
  induction h generalizing ls' with
  | nil =>
    cases hseen
    exact .nil
  | blank hblank hl _ ih =>
    obtain ⟨l', ls', hl', hls', rfl⟩ := List.forall₂_cons_left_iff.1 hseen
    rcases hl' with rfl | rfl
    · exact .blank hblank hl (ih hls')
    · refine .blank (fun c hc => hblank c (List.mem_append_left _ hc)) ?_ (ih hls')
      exact fun hc => hl (List.mem_append_left _ hc)
  | @record r fs u b rs ls hr hu hb hl _ ih =>
    obtain ⟨l', ls', hl', hls', rfl⟩ := List.forall₂_cons_left_iff.1 hseen
    rcases hl' with rfl | hl'
    · exact .record hr hu hb hl (ih hls')
    · -- the object ends with its brace, so the carriage return is one of the blanks after it
      rcases List.eq_nil_or_concat' b with rfl | ⟨b, c, rfl⟩
      · have hlast := hu.getLast? rfl
        rw [← List.append_nil u, hl', List.getLast?_concat] at hlast
        exact absurd hlast (by decide)
      · rw [← List.append_assoc] at hl' hl
        obtain ⟨rfl, -⟩ := List.append_inj' hl' rfl
        refine .record hr hu (fun c hc => hb c (List.mem_append_left _ hc)) ?_ (ih hls')
        exact fun hc => hl (List.mem_append_left _ hc)

theorem IsLines.lineRecords {rs : List Record} {ls : List Text} (h : IsLines rs ls) (n : Nat) :
    Corpus.lineRecords n ls = .ok rs := by
  induction h generalizing n with
  | nil => rfl
  | blank hblank _ _ ih =>
    rw [Corpus.lineRecords, if_pos (isBlankLine_iff.2 hblank)]
    exact ih (n + 1)
  | record hr hu hb _ _ ih =>
    rw [Corpus.lineRecords, if_neg, Record.parse?, parse?_of_written hu hb]
    · simp [hr.ofJson?, ih (n + 1), Except.map]
    · obtain ⟨b, r, rfl, -⟩ := hu.exists_of_bracket rfl
      rw [isBlankLine_iff]
      intro hblank
      exact absurd (hblank '{' (by simp)) (by decide)

theorem lineRecords_append_empty (n : Nat) (ls : List Text) :
    lineRecords n (ls ++ [[]]) = lineRecords n ls := by
  induction ls generalizing n with
  | nil => rfl
  | cons l ls ih => rw [List.cons_append, lineRecords, lineRecords, ih]

/-- Text on lines starts with an object. -/
theorem IsLines.head?_trimStart {rs : List Record} {ls : List Text} (h : IsLines rs ls) :
    ∀ c ∈ (trimStart (joined ls)).head?, c = '{' := by
  induction h with
  | nil => simp [joined, trimStart]
  | @blank l rs ls hblank _ _ ih =>
    cases ls with
    | nil =>
      rw [joined_singleton, ← List.append_nil l, trimStart_append hblank]
      simp [trimStart]
    | cons l' ls =>
      rw [joined_cons_cons, trimStart_append hblank, ← List.singleton_append, trimStart_append]
      · exact ih
      · exact List.forall_mem_singleton.2 (by decide)
  | @record r fs u b rs ls hr hu hb _ _ _ =>
    obtain ⟨rest, hrest⟩ : ∃ rest, joined ((u ++ b) :: ls) = u ++ rest := by
      cases ls with
      | nil => exact ⟨b, joined_singleton _⟩
      | cons l ls => exact ⟨_, by rw [joined_cons_cons, List.append_assoc]⟩
    rw [hrest, Corpus.head?_trimStart hu rfl (by decide)]
    rintro c ⟨⟩
    rfl

/-- **Lines are read as the records they were written for.** -/
theorem records_of_linesText {path t : Text} {rs : List Record} (hpath : isTable path = false)
    (h : LinesText rs t) : records path t = .ok rs := by
  obtain ⟨ls, hls, rfl⟩ := h
  have harray : isArray (joined ls) = false := by
    rw [isArray, beq_eq_false_iff_ne]
    intro hhead
    exact absurd (hls.head?_trimStart '[' hhead) (by decide)
  obtain ⟨ls', hseen, hread⟩ := exists_seen_joined hls.newline_not_mem
  have hrecords := (hls.seen hseen).lineRecords 1
  rw [records, hpath, harray]
  rcases hread with rfl | rfl
  · exact hrecords
  · rwa [lineRecords_append_empty] at hrecords

/-! ## Tables -/

/-- The rows of some entries: each entry has a row of two quoted cells, on a line of its own. -/
inductive IsRows : List Entry → Text → Prop
  | nil {ends : Text} : (∀ c ∈ ends, Csv.isLineEnd c = true) → IsRows [] ends
  | cons {e : Entry} {es : List Entry} {c : Char} {ends t : Text} : Csv.isLineEnd c = true →
      (∀ c ∈ ends, Csv.isLineEnd c = true) → IsRows es t →
      IsRows (e :: es)
        (c :: (ends ++ (Csv.quoteField e.code ++ (',' :: (Csv.quoteField e.optimized ++ t)))))

/-- The texts of a table of entries. -/
def TableText (es : List Entry) (t : Text) : Prop :=
  ∃ rows, IsRows es rows ∧ t = codeKey ++ (',' :: (optimizedKey ++ rows))

/-- A row behind the end of another one. -/
theorem IsRows.readFrom {es : List Entry} {t : Text} (h : IsRows es t) {state : Csv.State}
    (hstate : state = .plain ∨ state = .closing) (fields : List Text) (current : Text) :
    Csv.readFrom state fields current t =
      (current.reverse :: fields).reverse :: es.map fun e => [e.code, e.optimized] := by
  induction h generalizing state fields current with
  | @nil ends hends =>
    cases ends with
    | nil => rcases hstate with rfl | rfl <;> simp [Csv.readFrom]
    | cons c ends =>
      obtain ⟨hc, hends⟩ := List.forall_mem_cons.1 hends
      rw [Csv.readFrom_lineEnd hstate _ _ hc, ← List.append_nil ends, Csv.readFrom_lineEnds hends]
      rfl
  | cons hc hends _ ih =>
    rw [Csv.readFrom_lineEnd hstate _ _ hc, Csv.readFrom_lineEnds hends,
      Csv.readFrom_quoteField (.inl rfl), Csv.readFrom_comma, Csv.readFrom_quoteField (.inr rfl),
      ih (.inr rfl)]
    simp

/-- The record of an entry. -/
def ofEntry (e : Entry) : Record := ⟨some e.code, some e.optimized⟩

theorem read_of_tableText {es : List Entry} {t : Text} (h : TableText es t) :
    Csv.read (dropByteOrderMark t) =
      [codeKey, optimizedKey] :: es.map fun e => [e.code, e.optimized] := by
  obtain ⟨rows, hrows, rfl⟩ := h
  exact hrows.readFrom (.inl rfl) [codeKey] optimizedKey.reverse

theorem rowRecord_of_ne_nil {a b : Text} (ha : a ≠ []) (hb : b ≠ []) :
    rowRecord [codeKey, optimizedKey] [a, b] = .ok ⟨some a, some b⟩ := by
  have hcode : cell codeKey [codeKey, optimizedKey] [a, b] = .ok (some a) := by
    simp [cell, codeKey_ne.symm, ha]
  have hoptimized : cell optimizedKey [codeKey, optimizedKey] [a, b] = .ok (some b) := by
    simp [cell, codeKey_ne, hb]
  rw [rowRecord, if_neg (by simp), hcode, hoptimized]
  rfl

/-- **A table is read as the entries it was written for.** -/
theorem records_of_tableText {path t : Text} {es : List Entry} (hpath : isTable path = true)
    (hes : ∀ e ∈ es, e.code ≠ [] ∧ e.optimized ≠ []) (h : TableText es t) :
    records path t = .ok (es.map ofEntry) := by
  have hrows : (es.map fun e => [e.code, e.optimized]).mapM
      (rowRecord [codeKey, optimizedKey]) = .ok (es.map ofEntry) := by
    clear h
    induction es with
    | nil => rfl
    | cons e es ih =>
      obtain ⟨he, hes⟩ := List.forall_mem_cons.1 hes
      rw [List.map_cons, List.mapM_cons, rowRecord_of_ne_nil he.1 he.2, ih hes]
      rfl
  rw [records, hpath, tableRecords, read_of_tableText h]
  simp only [hrows]
  rfl

/-! ## Every list has a text -/

theorem exists_field (key : Text) (v : Option Text) :
    ∃ j t, IsField key v [(some key, j)] ∧ Written (.value j) t ∧ '\n' ∉ t := by
  cases v with
  | none => exact ⟨.null, _, .null, .null, by decide⟩
  | some s =>
    refine ⟨.text s, _, .given s, .string (quoted_escape s), ?_⟩
    simpa using (quoted_escape s).not_mem_newline

theorem exists_object (r : Record) :
    ∃ fs u, r.IsObject fs ∧ Written (.value (.obj fs)) u ∧ '\n' ∉ u := by
  obtain ⟨j₁, t₁, hcode, h₁, hline₁⟩ := exists_field codeKey r.code
  obtain ⟨j₂, t₂, hoptimized, h₂, hline₂⟩ := exists_field optimizedKey r.optimized
  refine ⟨_, _, ⟨_, _, [], hcode, hoptimized, by simp, .refl _⟩,
    .object (.fields (quoted_escape codeKey) isSpaces_nil h₁
      (.nextField (.fields (quoted_escape optimizedKey) isSpaces_nil h₂ .lastField))), ?_⟩
  have hkey₁ := (quoted_escape codeKey).not_mem_newline
  have hkey₂ := (quoted_escape optimizedKey).not_mem_newline
  simp only [List.mem_cons, List.mem_append, not_or] at hkey₁ hkey₂ ⊢
  simp [hline₁, hline₂, hkey₁, hkey₂]

theorem exists_arrayText (rs : List Record) : ∃ t, ArrayText rs t := by
  have hmore : ∀ rs : List Record, ∃ fss u, List.Forall₂ Record.IsObject rs fss ∧
      Written (.moreItems (fss.map .obj)) u := by
    intro rs
    induction rs with
    | nil => exact ⟨[], _, .nil, .lastItem⟩
    | cons r rs ih =>
      obtain ⟨fss, u, hrs, hu⟩ := ih
      obtain ⟨fs, v, hr, hv, -⟩ := exists_object r
      exact ⟨fs :: fss, _, .cons hr hrs, .nextItem (.items hv hu)⟩
  cases rs with
  | nil => exact ⟨_, [], _, [], .nil, .emptyArray isSpaces_nil, isSpaces_nil, rfl⟩
  | cons r rs =>
    obtain ⟨fss, u, hrs, hu⟩ := hmore rs
    obtain ⟨fs, v, hr, hv, -⟩ := exists_object r
    exact ⟨_, fs :: fss, _, [], .cons hr hrs, .array (.items hv hu), isSpaces_nil, rfl⟩

theorem exists_linesText (rs : List Record) : ∃ t, LinesText rs t := by
  have hlines : ∃ ls, IsLines rs ls := by
    induction rs with
    | nil => exact ⟨[], .nil⟩
    | cons r rs ih =>
      obtain ⟨ls, hls⟩ := ih
      obtain ⟨fs, u, hr, hu, hline⟩ := exists_object r
      exact ⟨_, .record hr hu isSpaces_nil (by simpa using hline) hls⟩
  obtain ⟨ls, hls⟩ := hlines
  exact ⟨_, ls, hls, rfl⟩

theorem exists_tableText (es : List Entry) : ∃ t, TableText es t := by
  have hrows : ∃ rows, IsRows es rows := by
    induction es with
    | nil => exact ⟨[], .nil (by simp)⟩
    | cons e es ih =>
      obtain ⟨rows, hrows⟩ := ih
      have hnone : ∀ c ∈ ([] : Text), Csv.isLineEnd c = true := by simp
      exact ⟨_, .cons (c := '\n') (by decide) hnone hrows⟩
  obtain ⟨rows, hrows⟩ := hrows
  exact ⟨_, rows, hrows, rfl⟩

/-! ## Entries -/

/-- Whether a record has both fields. -/
def Record.isWhole (r : Record) : Bool := r.code.isSome && r.optimized.isSome

theorem entry?_ofEntry (e : Entry) : Record.entry? (ofEntry e) = some e := rfl

theorem map_ofEntry_filterMap (rs : List Record) :
    (rs.filterMap Record.entry?).map ofEntry = rs.filter Record.isWhole := by
  induction rs with
  | nil => rfl
  | cons r rs ih =>
    obtain ⟨code, optimized⟩ := r
    cases code with
    | none =>
      rw [List.filterMap_cons_none rfl, ih, List.filter_cons_of_neg (by simp [Record.isWhole])]
    | some code =>
      cases optimized with
      | none =>
        rw [List.filterMap_cons_none rfl, ih, List.filter_cons_of_neg (by simp [Record.isWhole])]
      | some optimized =>
        have hentry : Record.entry? ⟨some code, some optimized⟩ = some ⟨code, optimized⟩ := rfl
        rw [List.filterMap_cons_some hentry, List.map_cons, ih, List.filter_cons_of_pos rfl]
        rfl

theorem filterMap_entry?_map (es : List Entry) :
    (es.map ofEntry).filterMap Record.entry? = es := by
  induction es with
  | nil => rfl
  | cons e es ih => rw [List.map_cons, List.filterMap_cons_some (entry?_ofEntry e), ih]

theorem parse_of_records {path t : Text} {rs : List Record} (h : records path t = .ok rs) :
    parse path t = .ok (rs.filterMap Record.entry?) := by
  rw [parse, h]
  rfl

/-- **The formats of a corpus agree.**  A list of entries is read back from an array, from lines and
    from a table; an array and lines of records give the records that have both fields, in order, and
    every list has a text in each format. -/
theorem parse_written {json csv : Text} (hjson : isTable json = false) (hcsv : isTable csv = true) :
    (∀ (es : List Entry) (t : Text),
      ArrayText (es.map ofEntry) t ∨ LinesText (es.map ofEntry) t → parse json t = .ok es) ∧
    (∀ (es : List Entry) (t : Text), (∀ e ∈ es, e.code ≠ [] ∧ e.optimized ≠ []) →
      TableText es t → parse csv t = .ok es) ∧
    (∀ (rs : List Record) (t : Text), ArrayText rs t ∨ LinesText rs t →
      ∃ es, parse json t = .ok es ∧ es.map ofEntry = rs.filter Record.isWhole) ∧
    (∀ rs : List Record, (∃ t, ArrayText rs t) ∧ ∃ t, LinesText rs t) ∧
    ∀ es : List Entry, ∃ t, TableText es t := by
  have hread : ∀ {rs : List Record} {t : Text}, ArrayText rs t ∨ LinesText rs t →
      parse json t = .ok (rs.filterMap Record.entry?) := by
    rintro rs t (h | h)
    · exact parse_of_records (records_of_arrayText hjson h)
    · exact parse_of_records (records_of_linesText hjson h)
  refine ⟨?_, ?_, ?_, fun rs => ⟨exists_arrayText rs, exists_linesText rs⟩, exists_tableText⟩
  · intro es t h
    rw [hread h, filterMap_entry?_map]
  · intro es t hes h
    rw [parse_of_records (records_of_tableText hcsv hes h), filterMap_entry?_map]
  · intro rs t h
    exact ⟨_, hread h, map_ofEntry_filterMap rs⟩

/-- A quote, a newline and a comma in the cells, the fields in the other order, one character of the
    array given by its code, and a blank line in front of the line of a record without improvement. -/
theorem parse_written_quoted_newline :
    parse "c.json".toList
        "[\x7b\"optimized_code\": \",\",\"code\":\"\\\"\\u000A\"\x7d]\n".toList =
      .ok [⟨['"', '\n'], [',']⟩] ∧
    parse "c.json".toList "\r\n\x7b\"code\":\"\"\x7d\n".toList = .ok [] ∧
    parse "c.CSV".toList "code,optimized_code\r\n\"\"\"\n\",\",\"".toList =
      .ok [⟨['"', '\n'], [',']⟩] := by
  have hjson : isTable "c.json".toList = false := by decide +kernel
  have hcsv : isTable "c.CSV".toList = true := by decide +kernel
  obtain ⟨hentries, htable, hrecords, -⟩ := parse_written hjson hcsv
  have hcode : Quoted ['"', '\n'] "\\\"\\u000A\"".toList :=
    .cons (t := ['\\', '"']) (.short (by decide))
      (.cons (t := "\\u000A".toList) (.code (.digits (p := 0) (q := 0) (r := 0) (s := 10)
        ⟨by decide, .inl rfl⟩ ⟨by decide, .inl rfl⟩ ⟨by decide, .inl rfl⟩
        ⟨by decide, .inr rfl⟩)) .nil)
  refine ⟨hentries _ _ (.inl ?_), ?_, htable _ _ (by simp) ?_⟩
  · refine ⟨[[(some optimizedKey, .text [',']), (some codeKey, .text ['"', '\n'])]], _, ['\n'],
      .cons ⟨_, _, [], .given _, .given _, by simp, .swap _ _ _⟩ .nil,
      .array (.items (.object (.fields (quoted_escape optimizedKey) isSpaces_nil
        (.blank (c := ' ') (by decide) (.string (quoted_escape [','])))
        (.nextField (.fields (quoted_escape codeKey) isSpaces_nil (.string hcode) .lastField))))
        .lastItem), by simp [IsSpaces, isSpace], ?_⟩
    decide +kernel
  · have hlines : LinesText [⟨some [], none⟩] "\r\n\x7b\"code\":\"\"\x7d\n".toList := by
      have hreturn : ∀ c ∈ ['\r'], isBlank c = true := List.forall_mem_singleton.2 (by decide)
      refine ⟨[['\r'], _ ++ [], []], .blank hreturn (by decide) (.record
        ⟨[(some codeKey, .text [])], [], [], .given [], .absent, by simp, .refl _⟩
        (.object (.fields (quoted_escape codeKey) isSpaces_nil (.string .nil) .lastField))
        isSpaces_nil (by decide +kernel) (.blank (by simp) (by simp) .nil)), ?_⟩
      decide +kernel
    obtain ⟨es, hes, hmap⟩ := hrecords _ _ (.inr hlines)
    obtain rfl : es = [] := by simpa [Record.isWhole] using hmap
    exact hes
  · have hends : ∀ c ∈ ['\n'], Csv.isLineEnd c = true := List.forall_mem_singleton.2 (by decide)
    refine ⟨_, .cons (c := '\r') (by decide) hends (.nil (show ∀ c ∈ ([] : Text), _ by simp)), ?_⟩
    decide +kernel

end Retouch.Corpus
