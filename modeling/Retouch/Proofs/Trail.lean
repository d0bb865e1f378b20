/-
  The trail of a run.

  `Linked s stages t` says that the stages lead from the source `s` to the source `t`, each from
  where the one before it ended.  What holds of a whole run is proved along this relation:

  * `Linked.foldlM_replay?`: the scripts of the stages, one after another, turn the first text into
    the last one;
  * `Linked.length_lines`: the lines that the stages add and drop account for the difference in
    length;
  * `Stage.changed_iff` and `Stage.changed_iff_unified`: a stage that changes the text, a script
    with a change and a rendering that is not empty are the same thing;
  * `prints_of_table?`: the columns of the printed table show the stages and their totals;
  * `auditable_run`: all of it for the run of any list of passes on any source.
-/
import Mathlib.Algebra.GroupWithZero.Nat
import Retouch.Proofs.Columns
import Retouch.Proofs.Hunks
import Retouch.Proofs.Shortest

namespace Retouch

namespace Script

/-! ## Scripts without changes -/

theorem isUnchanged_iff {s : Script} : s.isUnchanged = true ↔ ∀ e ∈ s, e.isChange = false := by
  simp [isUnchanged]

theorem isUnchanged_of_cost_eq_zero {s : Script} (h : s.cost = 0) : s.isUnchanged = true := by
  rw [isUnchanged_iff]
  intro e he
  rw [cost, Nat.add_eq_zero_iff, deletions, insertions, List.countP_eq_zero,
    List.countP_eq_zero] at h
  cases e with
  | keep l => rfl
  | drop l => exact absurd rfl (h.1 _ he)
  | add l => exact absurd rfl (h.2 _ he)

/-- The script between two texts has a change unless the texts are equal. -/
theorem isUnchanged_between {before after : Text} :
    (between before after).isUnchanged = true ↔ before = after := by
  constructor
  · intro h
    have hsides := oldLines_eq_newLines (isUnchanged_iff.1 h)
    rw [oldLines_between, newLines_between] at hsides
    exact lines_inj.1 hsides
  · rintro rfl
    -- keeping every line costs nothing
    have hkeep := distance_le_cost (before.lines.map .keep)
    rw [oldLines_map_keep, newLines_map_keep, cost_map_keep, ← cost_between] at hkeep
    exact isUnchanged_of_cost_eq_zero (Nat.le_zero.1 hkeep)

/-- A rendering is empty only if nothing changes. -/
theorem eq_nil_iff_of_unified? {s : Script} {label u : Text} {c : Nat}
    (h : s.unified? label c = some u) : u = [] ↔ s.isUnchanged = true := by
  rw [unified?_eq_ite] at h
  split at h
  · obtain rfl := Option.some.inj h
    split
    · next hs => exact ⟨fun _ => hs, fun _ => rfl⟩
    · next hs =>
      refine ⟨fun hnil => ?_, fun hs' => absurd hs' hs⟩
      have hmem : '\n' ∈ s.unifiedWith label (s.hunks c) :=
        List.mem_append_left _ (List.mem_append_left _ (List.mem_append_right _ List.mem_cons_self))
      rw [hnil] at hmem
      exact absurd hmem List.not_mem_nil
  · exact absurd h (by simp)

theorem isSome_unified? (s : Script) (label : Text) (c : Nat) :
    (s.unified? label c).isSome = true ↔ s.Fits c := by
  rw [unified?_eq_ite]
  split <;> simpa

end Script

/-! ## One stage -/

namespace Pass

theorem rewrite_text (q : Pass) (s : Source) : (q.rewrite s).text = q.apply s.text := by
  simp only [rewrite]
  split
  · next h => exact h.symm
  · rfl

theorem rewrite_language (q : Pass) (s : Source) : (q.rewrite s).language = s.language := by
  simp only [rewrite]
  split <;> rfl

end Pass

namespace Stage

theorem changed_iff_isUnchanged (st : Stage) :
    st.changed = true ↔ ¬ st.script.isUnchanged = true := by
  rw [script, Script.isUnchanged_between, changed, bne_iff_ne]

/-- A stage changes the text iff its script has a change. -/
theorem changed_iff (st : Stage) :
    st.changed = true ↔ ∃ e ∈ st.script, e.isChange = true := by
  rw [changed_iff_isUnchanged, Script.isUnchanged_iff]
  simp

/-- A stage changes the text iff a rendering of its script is not empty. -/
theorem changed_iff_unified (st : Stage) {label u : Text} {c : Nat}
    (h : st.script.unified? label c = some u) : st.changed = true ↔ u ≠ [] := by
  rw [changed_iff_isUnchanged, Ne, Script.eq_nil_iff_of_unified? h]

theorem replay?_script (st : Stage) :
    st.script.replay? st.before.text = some st.after.text := by
  rw [script, Script.replay?_eq_ite (Script.oldLines_between _ _) (Script.newLines_between _ _),
    if_pos rfl]

theorem length_lines (st : Stage) :
    st.after.text.lines.length + st.script.deletions =
      st.before.text.lines.length + st.script.insertions := by
  have h := st.script.length_newLines_add_deletions
  rwa [script, Script.oldLines_between, Script.newLines_between] at h

end Stage

/-! ## Stages in a row -/

/-- The stages lead from the source `s` to the source `t`, each from where the one before ended. -/
inductive Linked : Source → List Stage → Source → Prop
  | nil {s} : Linked s [] s
  | cons {st stages t} : Linked st.after stages t → Linked st.before (st :: stages) t

namespace Linked

variable {s t : Source} {stages : List Stage}

/-- The scripts of the stages, one after another, turn the first text into the last one. -/
theorem foldlM_replay? (h : Linked s stages t) :
    stages.foldlM (fun u st => st.script.replay? u) s.text = some t.text := by
  induction h with
  | nil => rfl
  | @cons st stages t _ ih =>
    rw [List.foldlM_cons, st.replay?_script]
    exact ih

/-- The lines that the stages add and drop account for the difference in length. -/
theorem length_lines (h : Linked s stages t) :
    t.text.lines.length + (stages.map (·.script.deletions)).sum =
      s.text.lines.length + (stages.map (·.script.insertions)).sum := by
  induction h with
  | nil => rfl
  | @cons st stages t _ ih =>
    have hst := st.length_lines
    simp only [List.map_cons, List.sum_cons]
    omega

theorem before_of_head? (h : Linked s stages t) : ∀ st ∈ stages.head?, st.before = s := by
  cases h with
  | nil => simp
  | cons _ => simp

theorem after_eq_before (h : Linked s stages t) :
    ∀ {i : Nat} {a b : Stage}, stages[i]? = some a → stages[i + 1]? = some b →
      a.after = b.before := by
  induction h with
  | nil => simp
  | @cons st stages t h ih =>
    intro i a b ha hb
    cases i with
    | zero =>
      obtain rfl : st = a := by simpa using ha
      exact (h.before_of_head? b (by simpa [List.head?_eq_getElem?] using hb)).symm
    | succ i => exact ih (by simpa using ha) (by simpa using hb)

/-- What every stage preserves holds along the stages, if it holds at the start. -/
theorem forall_of_step {p : Source → Prop} (h : Linked s stages t) (hs : p s)
    (hstep : ∀ st ∈ stages, p st.before → p st.after) :
    (∀ st ∈ stages, p st.before ∧ p st.after) ∧ p t := by
  induction h with
  | nil => exact ⟨by simp, hs⟩
  | @cons st stages t _ ih =>
    rw [List.forall_mem_cons] at hstep ⊢
    have hafter := hstep.1 hs
    obtain ⟨hall, hend⟩ := ih hafter hstep.2
    exact ⟨⟨⟨hs, hafter⟩, hall⟩, hend⟩

/-- The end of the last stage is the source that the stages lead to. -/
theorem getLast?_after (h : Linked s stages t) : (stages.getLast?.map (·.after)).getD s = t := by
  induction h with
  | nil => rfl
  | @cons st stages t _ ih =>
    rw [← ih, List.getLast?_cons]
    cases stages.getLast? <;> rfl

theorem language_eq (h : Linked s stages t)
    (hst : ∀ st ∈ stages, st.after.language = st.before.language) :
    (∀ st ∈ stages, st.before.language = s.language ∧ st.after.language = s.language) ∧
      t.language = s.language :=
  h.forall_of_step (p := fun u => u.language = s.language) rfl fun st hmem hbefore =>
    (hst st hmem).trans hbefore

end Linked

/-! ## Runs -/

namespace Pipeline

theorem length_stagesFrom (i : Nat) (p : Pipeline) (s : Source) :
    (stagesFrom i p s).length = p.length := by
  induction p generalizing i s with
  | nil => rfl
  | cons q p ih => rw [stagesFrom, List.length_cons, List.length_cons, ih]

/-- Each stage is its pass, applied to the source before it. -/
theorem getElem?_stagesFrom {i : Nat} {p : Pipeline} {s : Source} {k : Nat} {q : Pass} {st : Stage}
    (hq : p[k]? = some q) (hst : (stagesFrom i p s)[k]? = some st) :
    st.index = i + k ∧ st.pass = q.name ∧ st.after = q.rewrite st.before := by
  induction p generalizing i s k with
  | nil => simp at hq
  | cons q' p ih =>
    cases k with
    | zero =>
      obtain rfl : q' = q := by simpa using hq
      obtain rfl : _ = st := by simpa [stagesFrom] using hst
      exact ⟨rfl, rfl, rfl⟩
    | succ k =>
      obtain ⟨hi, hrest⟩ := ih (i := i + 1) (by simpa using hq) (by simpa [stagesFrom] using hst)
      exact ⟨by omega, hrest⟩

theorem exists_named_pass_of_mem {i : Nat} {p : Pipeline} {s : Source} {st : Stage}
    (h : st ∈ stagesFrom i p s) : ∃ q ∈ p, st.pass = q.name ∧ st.after = q.rewrite st.before := by
  obtain ⟨k, hk⟩ := List.getElem?_of_mem h
  have hlt : k < p.length := by
    rw [← length_stagesFrom i p s]
    exact (List.getElem?_eq_some_iff.1 hk).1
  exact ⟨p[k], List.getElem_mem hlt, (getElem?_stagesFrom (List.getElem?_eq_getElem hlt) hk).2⟩

theorem exists_pass_of_mem {i : Nat} {p : Pipeline} {s : Source} {st : Stage}
    (h : st ∈ stagesFrom i p s) : ∃ q ∈ p, st.after = q.rewrite st.before := by
  obtain ⟨q, hq, -, hafter⟩ := exists_named_pass_of_mem h
  exact ⟨q, hq, hafter⟩

theorem exists_linked (i : Nat) (p : Pipeline) (s : Source) :
    ∃ t, Linked s (stagesFrom i p s) t := by
  induction p generalizing i s with
  | nil => exact ⟨s, .nil⟩
  | cons q p ih =>
    obtain ⟨t, ht⟩ := ih (i + 1) (q.rewrite s)
    exact ⟨t, @Linked.cons ⟨i, q.name, s, q.rewrite s⟩ _ _ ht⟩

/-- **The stages of a run lead from its input to its output.** -/
theorem linked_run (p : Pipeline) (s : Source) : Linked s (p.run s).stages (p.run s).output := by
  obtain ⟨t, ht⟩ := exists_linked 0 p s
  have hout : (p.run s).output = t := ht.getLast?_after
  rw [hout]
  exact ht

/-- A run stays in its language. -/
theorem language_output_run (p : Pipeline) (s : Source) :
    (p.run s).output.language = s.language := by
  refine ((linked_run p s).language_eq fun st hst => ?_).2
  obtain ⟨q, -, hq⟩ := exists_pass_of_mem hst
  rw [hq, q.rewrite_language]

theorem text_getLast?_stagesFrom (i : Nat) (p : Pipeline) (s : Source) :
    (((stagesFrom i p s).getLast?.map (·.after)).getD s).text =
      p.foldl (fun t q => q.apply t) s.text := by
  induction p generalizing i s with
  | nil => rfl
  | cons q p ih =>
    rw [stagesFrom, List.foldl_cons, ← q.rewrite_text, ← ih (i + 1) (q.rewrite s),
      List.getLast?_cons]
    cases (stagesFrom (i + 1) p (q.rewrite s)).getLast? <;> rfl

/-- The text of the output is what the passes make of the input, one after another. -/
theorem text_output_run (p : Pipeline) (s : Source) :
    (p.run s).output.text = p.foldl (fun t q => q.apply t) s.text :=
  text_getLast?_stagesFrom 0 p s

end Pipeline

/-! ## The report of a run -/

namespace Stage

/-- What the row of a stage shows in its columns: the place of the stage, the name of its pass,
    whether it changed the text, and the lines that its script adds and drops. -/
def columns (st : Stage) : List Text :=
  Text.ofNat st.index :: Text.columns st.pass.toList ++
    [(if st.changed then "yes" else "no").toList, Text.ofNat st.script.insertions,
      Text.ofNat st.script.deletions]

theorem isSome_report? (st : Stage) :
    st.report?.isSome = true ↔ st.script.Fits reportContext := by
  rw [report?, Option.isSome_map, Script.isSome_unified?]

variable {st : Stage} {s : StageReport}

theorem inserted_of_report? (h : st.report? = some s) : s.inserted = st.script.insertions := by
  obtain ⟨diff, -, rfl⟩ := Option.map_eq_some_iff.1 h
  rfl

theorem deleted_of_report? (h : st.report? = some s) : s.deleted = st.script.deletions := by
  obtain ⟨diff, -, rfl⟩ := Option.map_eq_some_iff.1 h
  rfl

theorem columns_of_report? (h : st.report? = some s) :
    Text.columns (RunReport.stageRow s) = st.columns := by
  obtain ⟨diff, -, rfl⟩ := Option.map_eq_some_iff.1 h
  rw [RunReport.columns_stageRow]
  rfl

end Stage

theorem isSome_mapM {α β : Type} {f : α → Option β} {l : List α} :
    (l.mapM f).isSome = true ↔ ∀ a ∈ l, (f a).isSome = true := by
  induction l with
  | nil => simp
  | cons a l ih =>
    rw [List.mapM_cons, List.forall_mem_cons, ← ih]
    cases f a <;> cases l.mapM f <;> simp

/-- What each result says of its argument, the list of the results says of the arguments. -/
theorem map_eq_of_mapM_eq_some {α β γ : Type} {f : α → Option β} {g : β → γ} {g' : α → γ}
    (h : ∀ {a b}, f a = some b → g b = g' a) {l : List α} :
    ∀ {l' : List β}, l.mapM f = some l' → l'.map g = l.map g' := by
  induction l with
  | nil =>
    intro l' hl
    obtain rfl : [] = l' := by simpa using hl
    rfl
  | cons a l ih =>
    intro l' hl
    rw [List.mapM_cons] at hl
    obtain ⟨b, hb, hl⟩ := Option.bind_eq_some_iff.1 hl
    obtain ⟨bs, hbs, hl⟩ := Option.bind_eq_some_iff.1 hl
    obtain rfl : b :: bs = l' := Option.some.inj hl
    rw [List.map_cons, List.map_cons, h hb, ih hbs]

namespace RunReport

/-- Whether the row of a stage says that it changed the text: behind this column stand those for
    the lines. -/
def isMarked (row : Text) : Bool := (Text.columns row).reverse[2]? = some "yes".toList

theorem isMarked_of_columns {row : Text} {st : Stage} (h : Text.columns row = st.columns) :
    isMarked row = st.changed := by
  rw [isMarked, h, Stage.columns]
  cases st.changed <;> simp

end RunReport

namespace Trail

theorem result_eq_output (r : Trail) : r.result = r.output := by
  rw [result, output]
  cases r.stages.getLast? <;> rfl

theorem length_effective (r : Trail) : r.effective.length = r.stages.countP (·.changed) := by
  rw [effective, List.length_map, List.countP_eq_length_filter]

theorem isSome_table? (r : Trail) :
    r.table?.isSome = true ↔ ∀ st ∈ r.stages, st.script.Fits reportContext := by
  rw [table?, report?, Option.isSome_map, Option.isSome_map, isSome_mapM]
  exact forall₂_congr fun st _ => st.isSome_report?

theorem mapM_report? {r : Trail} {report : RunReport} (h : r.report? = some report) :
    r.stages.mapM Stage.report? = some report.stages := by
  obtain ⟨stages, hstages, rfl⟩ := Option.map_eq_some_iff.1 h
  exact hstages

/-- The text `table` prints the run `r` in the rows `rows` and in the row `total` below them. -/
structure Prints (r : Trail) (table : Text) (rows : List Text) (total : Text) : Prop where
  /-- The table consists of a heading, the rows, a rule and the row of the totals. -/
  eq_append : ∃ heading, table = heading ++ rows.flatten ++ Text.rule 54 ++ total
  /-- Each row shows one stage, in the order of the stages. -/
  rows_eq : rows.map Text.columns = r.stages.map Stage.columns
  /-- The row of the totals is the last line of the table. -/
  getLast?_lines : table.lines.getLast? = some total
  /-- The totals are the number of passes with an effect and the lines that all scripts add and
      drop. -/
  total_eq : Text.columns total = ["TOTAL".toList, Text.ofNat r.effective.length,
    Text.ofNat (r.stages.map (·.script.insertions)).sum,
    Text.ofNat (r.stages.map (·.script.deletions)).sum]
  /-- As many rows as passes have an effect are marked as changed. -/
  countP_isMarked : rows.countP RunReport.isMarked = r.effective.length

/-- **The printed table shows the run**: its rows the stages, and its last line their totals. -/
theorem prints_of_table? {r : Trail} {table : Text} (h : r.table? = some table) :
    ∃ rows total, Prints r table rows total := by
  obtain ⟨report, hreport, rfl⟩ := Option.map_eq_some_iff.1 h
  have hstages := mapM_report? hreport
  have hrows : (report.stages.map RunReport.stageRow).map Text.columns =
      r.stages.map Stage.columns := by
    rw [List.map_map]
    exact map_eq_of_mapM_eq_some Stage.columns_of_report? hstages
  refine ⟨report.stages.map RunReport.stageRow, report.totalRow r.effective.length,
    ⟨report.heading, ?_⟩, hrows, report.getLast?_lines_table _, ?_, ?_⟩
  · rw [← List.flatMap_def]
    rfl
  · have hinserted := map_eq_of_mapM_eq_some Stage.inserted_of_report? hstages
    have hdeleted := map_eq_of_mapM_eq_some Stage.deleted_of_report? hstages
    rw [RunReport.columns_totalRow, RunReport.inserted, RunReport.deleted, ← hinserted, ← hdeleted,
      List.sum_eq_foldr, List.sum_eq_foldr, List.foldr_map, List.foldr_map]
  · have hmarked : ∀ {a b}, Stage.report? a = some b →
        RunReport.isMarked (RunReport.stageRow b) = a.changed := fun hab =>
      RunReport.isMarked_of_columns (Stage.columns_of_report? hab)
    have hcount := congrArg (List.countP id) (map_eq_of_mapM_eq_some hmarked hstages)
    rw [List.countP_map, List.countP_map, Function.id_comp, Function.id_comp] at hcount
    rw [List.countP_map, length_effective, ← hcount, Function.comp_def]

/-- What the trail `r` must record of a run of the passes `p` on the source `s`. -/
structure Auditable (p : Pipeline) (s : Source) (r : Trail) : Prop where
  /-- The trail starts with the input. -/
  input_eq : r.input = s
  /-- There is one stage for each pass. -/
  length_stages : r.stages.length = p.length
  /-- The stages are in the order of the passes, and each is the application of its pass. -/
  stage_eq : ∀ {i : Nat} {q : Pass} {st : Stage}, p[i]? = some q → r.stages[i]? = some st →
    st.index = i ∧ st.pass = q.name ∧ st.after.text = q.apply st.before.text
  /-- The first stage starts from the input. -/
  first_before : ∀ st ∈ r.stages.head?, st.before = s
  /-- A stage that follows another one starts from where that one ended. -/
  after_eq_before : ∀ {i : Nat} {a b : Stage}, r.stages[i]? = some a → r.stages[i + 1]? = some b →
    a.after = b.before
  /-- The language never changes. -/
  language_eq : (∀ st ∈ r.stages, st.before.language = s.language ∧
    st.after.language = s.language) ∧ r.output.language = s.language
  /-- The scripts of the stages, one after another, turn the input into the output. -/
  replay : r.stages.foldlM (fun t st => st.script.replay? t) s.text = some r.output.text
  /-- Both ways to ask for the output give the same. -/
  result_eq : r.result = r.output
  /-- A stage changes the text iff its script has a change. -/
  changed_iff : ∀ st ∈ r.stages, (st.changed = true ↔ ∃ e ∈ st.script, e.isChange = true)
  /-- The script of a stage can be rendered exactly in the contexts that its changes fit in. -/
  isSome_unified? : ∀ st ∈ r.stages, ∀ label c,
    ((st.script.unified? label c).isSome = true ↔ st.script.Fits c)
  /-- A stage changes the text iff a rendering of its script is not empty. -/
  changed_iff_unified : ∀ st ∈ r.stages, ∀ label c, ∀ u ∈ st.script.unified? label c,
    (st.changed = true ↔ u ≠ [])
  /-- There is a table exactly if every stage can be rendered in the context of a report. -/
  isSome_table? : r.table?.isSome = true ↔ ∀ st ∈ r.stages, st.script.Fits reportContext
  /-- The table shows the stages in its rows, and their totals in its last line. -/
  prints : ∀ table ∈ r.table?, ∃ rows total, Prints r table rows total
  /-- The totals account for the lines of the output. -/
  length_output : (r.output.text.lines.length : Int) = s.text.lines.length +
    (r.stages.map (·.script.insertions)).sum - (r.stages.map (·.script.deletions)).sum

end Trail

/-- **Every run is auditable**, whatever its passes do and whatever its input is. -/
theorem Pipeline.auditable_run (p : Pipeline) (s : Source) : Trail.Auditable p s (p.run s) := by
  have hlinked := p.linked_run s
  refine
    { input_eq := rfl
      length_stages := length_stagesFrom 0 p s
      stage_eq := ?_
      first_before := hlinked.before_of_head?
      after_eq_before := hlinked.after_eq_before
      language_eq := ?_
      replay := hlinked.foldlM_replay?
      result_eq := Trail.result_eq_output _
      changed_iff := fun st _ => st.changed_iff
      isSome_unified? := fun st _ => st.script.isSome_unified?
      changed_iff_unified := fun st _ _ _ _ hu => st.changed_iff_unified hu
      isSome_table? := Trail.isSome_table? _
      prints := fun _ htable => Trail.prints_of_table? htable
      length_output := ?_ }
  · intro i q st hq hst
    obtain ⟨hi, hname, hafter⟩ := getElem?_stagesFrom hq hst
    refine ⟨by omega, hname, ?_⟩
    rw [hafter, Pass.rewrite_text]
  · refine hlinked.language_eq fun st hst => ?_
    obtain ⟨q, -, hafter⟩ := exists_pass_of_mem hst
    rw [hafter, q.rewrite_language]
  · have := hlinked.length_lines
    omega

end Retouch
