/-
  Replay of scripts.

  A script spells out two lists of lines: those that it keeps or drops (`oldLines`) and those that
  it keeps or adds (`newLines`).

  * `replayLines?_eq_some_iff`: a script runs on exactly one list of lines, its old lines, and gives
    its new lines;
  * `oldLines_dropsFirst` and `newLines_dropsFirst`: putting the drops first changes neither side;
  * `sides_conquer`: the script of a comparison spells out the two lists that are compared, at
    whatever points the search cuts them;
  * `replay?_between`: the script between two texts turns the first into the second, and runs on no
    other text.
-/
import Mathlib.Data.Nat.Init
import Retouch.Edit.Compare

namespace Retouch

namespace Script

/-! ## The two sides of a script -/

/-- The lines before the script has run: all that it keeps or drops. -/
def oldLines (s : Script) : List Text := (s.filter (!·.isAdd)).map Edit.line

/-- The lines after the script has run: all that it keeps or adds. -/
def newLines (s : Script) : List Text := (s.filter (!·.isDrop)).map Edit.line

@[simp]
theorem oldLines_nil : oldLines [] = [] := rfl

@[simp]
theorem newLines_nil : newLines [] = [] := rfl

@[simp]
theorem oldLines_keep (l : Text) (s : Script) : oldLines (.keep l :: s) = l :: oldLines s := rfl

@[simp]
theorem newLines_keep (l : Text) (s : Script) : newLines (.keep l :: s) = l :: newLines s := rfl

@[simp]
theorem oldLines_drop (l : Text) (s : Script) : oldLines (.drop l :: s) = l :: oldLines s := rfl

@[simp]
theorem newLines_drop (l : Text) (s : Script) : newLines (.drop l :: s) = newLines s := rfl

@[simp]
theorem oldLines_add (l : Text) (s : Script) : oldLines (.add l :: s) = oldLines s := rfl

@[simp]
theorem newLines_add (l : Text) (s : Script) : newLines (.add l :: s) = l :: newLines s := rfl

@[simp]
theorem oldLines_append (s t : Script) : oldLines (s ++ t) = oldLines s ++ oldLines t := by
  simp [oldLines]

@[simp]
theorem newLines_append (s t : Script) : newLines (s ++ t) = newLines s ++ newLines t := by
  simp [newLines]

@[simp]
theorem oldLines_map_keep (ls : List Text) : oldLines (ls.map .keep) = ls := by
  induction ls with
  | nil => rfl
  | cons l ls ih => rw [List.map_cons, oldLines_keep, ih]

@[simp]
theorem newLines_map_keep (ls : List Text) : newLines (ls.map .keep) = ls := by
  induction ls with
  | nil => rfl
  | cons l ls ih => rw [List.map_cons, newLines_keep, ih]

/-- What a script adds and drops is the difference between its two sides. -/
theorem length_newLines_add_deletions (s : Script) :
    s.newLines.length + s.deletions = s.oldLines.length + s.insertions := by
  have hnew : s.newLines.length + s.deletions = s.length := by
    rw [newLines, List.length_map, ← List.countP_eq_length_filter, deletions, Nat.add_comm,
      List.length_eq_countP_add_countP Edit.isDrop]
    simp
  have hold : s.oldLines.length + s.insertions = s.length := by
    rw [oldLines, List.length_map, ← List.countP_eq_length_filter, insertions, Nat.add_comm,
      List.length_eq_countP_add_countP Edit.isAdd]
    simp
  rw [hnew, hold]

/-- A script that keeps all lines has the same lines on both sides. -/
theorem oldLines_eq_newLines {s : Script} (h : ∀ e ∈ s, e.isChange = false) :
    s.oldLines = s.newLines := by
  induction s with
  | nil => rfl
  | cons e s ih =>
    have he := h e List.mem_cons_self
    have hs := ih fun e he => h e (List.mem_cons_of_mem _ he)
    cases e with
    | keep l => rw [oldLines_keep, newLines_keep, hs]
    | drop l => simp [Edit.isChange] at he
    | add l => simp [Edit.isChange] at he

theorem oldLines_replacing (a b : List Text) : (replacing a b).oldLines = a := by
  have ha : oldLines (a.map .drop) = a := by
    induction a with
    | nil => rfl
    | cons l a ih => rw [List.map_cons, oldLines_drop, ih]
  have hb : oldLines (b.map .add) = [] := by
    induction b with
    | nil => rfl
    | cons l b ih => rw [List.map_cons, oldLines_add, ih]
  rw [replacing, oldLines_append, ha, hb, List.append_nil]

theorem newLines_replacing (a b : List Text) : (replacing a b).newLines = b := by
  have ha : newLines (a.map .drop) = [] := by
    induction a with
    | nil => rfl
    | cons l a ih => rw [List.map_cons, newLines_drop, ih]
  have hb : newLines (b.map .add) = b := by
    induction b with
    | nil => rfl
    | cons l b ih => rw [List.map_cons, newLines_add, ih]
  rw [replacing, newLines_append, ha, hb, List.nil_append]

/-! ## Replay -/

/-- **A script runs on its old lines and on nothing else**, and gives its new lines. -/
theorem replayLines?_eq_some_iff (s : Script) (a b : List Text) :
    s.replayLines? a = some b ↔ a = s.oldLines ∧ b = s.newLines := by
  induction s generalizing a b with
  | nil => cases a <;> simp [replayLines?, eq_comm]
  | cons e s ih =>
    cases e with
    | add l =>
      simp only [replayLines?, Option.map_eq_some_iff, ih, oldLines_add, newLines_add]
      constructor
      · rintro ⟨c, ⟨ha, rfl⟩, rfl⟩
        exact ⟨ha, rfl⟩
      · rintro ⟨ha, rfl⟩
        exact ⟨_, ⟨ha, rfl⟩, rfl⟩
    | keep l =>
      cases a with
      | nil => simp [replayLines?]
      | cons m a =>
        rw [replayLines?, oldLines_keep, newLines_keep]
        split
        · next h =>
          subst h
          simp only [Option.map_eq_some_iff, ih, List.cons.injEq, true_and]
          constructor
          · rintro ⟨c, ⟨ha, rfl⟩, rfl⟩
            exact ⟨ha, rfl⟩
          · rintro ⟨ha, rfl⟩
            exact ⟨_, ⟨ha, rfl⟩, rfl⟩
        · next h =>
          constructor
          · intro hn
            cases hn
          · rintro ⟨ha, -⟩
            exact absurd (List.cons.inj ha).1.symm h
    | drop l =>
      cases a with
      | nil => simp [replayLines?]
      | cons m a =>
        rw [replayLines?, oldLines_drop, newLines_drop]
        split
        · next h => rw [ih, h, List.cons.injEq, eq_self, true_and]
        · next h =>
          constructor
          · intro hn
            cases hn
          · rintro ⟨ha, -⟩
            exact absurd (List.cons.inj ha).1.symm h

/-- A line list determines its text, and a text its lines. -/
theorem lines_inj {t u : Text} : t.lines = u.lines ↔ t = u := by
  constructor
  · intro h
    rw [← Text.flatten_lines t, h, Text.flatten_lines]
  · exact congrArg Text.lines

/-- A script whose sides are the lines of two texts runs on the first alone and gives the second. -/
theorem replay?_eq_ite {s : Script} {before after : Text} (ho : s.oldLines = before.lines)
    (hn : s.newLines = after.lines) (t : Text) :
    s.replay? t = if t = before then some after else none := by
  rw [replay?]
  split
  · next h =>
    have hr : s.replayLines? t.lines = some after.lines :=
      (replayLines?_eq_some_iff s _ _).2 ⟨by rw [h, ho], hn.symm⟩
    rw [hr, Option.map_some, Text.flatten_lines]
  · next h =>
    have hr : s.replayLines? t.lines = none := by
      rw [Option.eq_none_iff_forall_ne_some]
      intro b hb
      have := ((replayLines?_eq_some_iff s _ _).1 hb).1
      exact h (lines_inj.1 (this.trans ho))
    rw [hr, Option.map_none]

/-! ## Drops ahead of additions -/

/-- Seen through a filter that hides all additions or all drops, an edit is placed at the front. -/
theorem filter_place {p : Edit → Bool} (hp : ∀ l m, p (.add l) = false ∨ p (.drop m) = false)
    (e : Edit) (s : Script) : (place e s).filter p = (e :: s).filter p := by
  fun_induction place e s with
  | case1 l m s ih =>
    rw [List.filter_cons, ih]
    rcases hp l m with h | h <;> simp [List.filter_cons, h]
  | case2 => rfl

theorem dropsFirst_cons (e : Edit) (s : Script) : dropsFirst (e :: s) = place e s.dropsFirst := rfl

/-- Neither the drops nor the additions change their order, nor either of them that of the kept
    lines. -/
theorem filter_dropsFirst {p : Edit → Bool} (hp : ∀ l m, p (.add l) = false ∨ p (.drop m) = false)
    (s : Script) : s.dropsFirst.filter p = s.filter p := by
  induction s with
  | nil => rfl
  | cons e s ih => rw [dropsFirst_cons, filter_place hp, List.filter_cons, ih, List.filter_cons]

theorem oldLines_dropsFirst (s : Script) : s.dropsFirst.oldLines = s.oldLines := by
  rw [oldLines, filter_dropsFirst (fun _ _ => Or.inl rfl), oldLines]

theorem newLines_dropsFirst (s : Script) : s.dropsFirst.newLines = s.newLines := by
  rw [newLines, filter_dropsFirst (fun _ _ => Or.inr rfl), newLines]

end Script

/-! ## Common ends -/

theorem take_commonFront (a b : List Text) :
    a.take (commonFront a b) = b.take (commonFront a b) := by
  fun_induction commonFront a b with
  | case1 x a b ih => rw [List.take_succ_cons, List.take_succ_cons, ih]
  | case2 => rfl
  | case3 => rfl

theorem commonFront_le (a b : List Text) :
    commonFront a b ≤ a.length ∧ commonFront a b ≤ b.length := by
  fun_induction commonFront a b with
  | case1 x a b ih => exact ⟨Nat.succ_le_succ ih.1, Nat.succ_le_succ ih.2⟩
  | case2 => exact ⟨Nat.zero_le _, Nat.zero_le _⟩
  | case3 => exact ⟨Nat.zero_le _, Nat.zero_le _⟩

theorem commonBack_le (a b : List Text) :
    commonBack a b ≤ a.length ∧ commonBack a b ≤ b.length := by
  have := commonFront_le a.reverse b.reverse
  rwa [List.length_reverse, List.length_reverse] at this

theorem drop_commonBack (a b : List Text) :
    a.drop (a.length - commonBack a b) = b.drop (b.length - commonBack a b) := by
  have h := take_commonFront a.reverse b.reverse
  rw [List.take_reverse, List.take_reverse] at h
  exact List.reverse_inj.1 h

namespace Differing

/-- The first list is its common front, what differs, and its common back. -/
theorem append_left (a b : List Text) :
    (of a b).front ++ (of a b).left ++ (of a b).back = a := by
  simp only [of]
  rw [List.append_assoc, List.take_append_drop, List.take_append_drop]

/-- The second list is the common front, what differs in it, and the common back. -/
theorem append_right (a b : List Text) :
    (of a b).front ++ (of a b).right ++ (of a b).back = b := by
  simp only [of]
  rw [List.append_assoc, drop_commonBack, List.take_append_drop, take_commonFront,
    List.take_append_drop]

/-- A script for what differs, between the lines that both lists start and end with. -/
def within (c : Differing) (s : Script) : Script := c.front.map .keep ++ s ++ c.back.map .keep

theorem oldLines_within (c : Differing) (s : Script) :
    (c.within s).oldLines = c.front ++ s.oldLines ++ c.back := by
  simp [within]

theorem newLines_within (c : Differing) (s : Script) :
    (c.within s).newLines = c.front ++ s.newLines ++ c.back := by
  simp [within]

/-- Whether `(x, y)` cuts what differs into two parts, none of them empty on both sides. -/
def Cuts (c : Differing) (x y : Nat) : Prop :=
  x ≤ c.left.length ∧ y ≤ c.right.length ∧ 0 < x + y ∧ x + y < c.left.length + c.right.length

end Differing

/-! ## Comparison -/

namespace Script

section
variable {a b : List Text} {c : Differing} (hc : Differing.of a b = c) {w w' : Frontiers}
include hc

/-- If one side is empty, the other is dropped or added. -/
theorem conquer_of_empty (h : c.left = [] ∨ c.right = []) :
    conquer a b w = (c.within (replacing c.left c.right), w) := by
  subst hc
  have he : ((Differing.of a b).left.isEmpty || (Differing.of a b).right.isEmpty) = true := by
    simpa using h
  rw [conquer, if_pos he]
  rfl

/-- If the search finds a point that cuts both sides, the parts are compared in turn. -/
theorem conquer_of_cuts (hl : c.left ≠ []) (hr : c.right ≠ []) {x y : Nat}
    (hm : Search.middle? c.left.toArray c.right.toArray w = (some (x, y), w')) (hxy : c.Cuts x y)
    {s t : Script × Frontiers} (hs : conquer (c.left.take x) (c.right.take y) w' = s)
    (ht : conquer (c.left.drop x) (c.right.drop y) s.2 = t) :
    conquer a b w = (c.within (s.1 ++ t.1), t.2) := by
  subst hc hs ht
  have he : ¬ ((Differing.of a b).left.isEmpty || (Differing.of a b).right.isEmpty) = true := by
    simpa using ⟨hl, hr⟩
  unfold Differing.Cuts at hxy
  rw [conquer, if_neg he, hm]
  simp only [dif_pos hxy, Differing.within]

/-- In all other cases everything that differs is replaced. -/
theorem conquer_of_not_cuts (hl : c.left ≠ []) (hr : c.right ≠ []) {p : Option (Nat × Nat)}
    (hm : Search.middle? c.left.toArray c.right.toArray w = (p, w'))
    (hp : ∀ x y, p = some (x, y) → ¬ c.Cuts x y) :
    conquer a b w = (c.within (replacing c.left c.right), w') := by
  subst hc
  have he : ¬ ((Differing.of a b).left.isEmpty || (Differing.of a b).right.isEmpty) = true := by
    simpa using ⟨hl, hr⟩
  rw [conquer, if_neg he, hm]
  cases p with
  | none => rfl
  | some p =>
    have hp := hp p.1 p.2 rfl
    unfold Differing.Cuts at hp
    simp only [dif_neg hp, Differing.within]

end

/-- **The script of a comparison spells out the two lists that are compared.** -/
theorem sides_conquer (a b : List Text) (w : Frontiers) :
    (conquer a b w).1.oldLines = a ∧ (conquer a b w).1.newLines = b := by
  induction hn : a.length + b.length using Nat.strong_induction_on generalizing a b w with
  | _ n ih =>
    generalize hc : Differing.of a b = c
    -- it is enough to look at what differs; the parts of a cut are shorter than the whole
    have within_sides : ∀ s : Script, s.oldLines = c.left → s.newLines = c.right →
        (c.within s).oldLines = a ∧ (c.within s).newLines = b := by
      intro s ho hn
      rw [Differing.oldLines_within, Differing.newLines_within, ho, hn, ← hc]
      exact ⟨Differing.append_left a b, Differing.append_right a b⟩
    have replaced : ∀ w', conquer a b w = (c.within (replacing c.left c.right), w') →
        (conquer a b w).1.oldLines = a ∧ (conquer a b w).1.newLines = b := by
      intro w' h
      rw [h]
      exact within_sides _ (oldLines_replacing _ _) (newLines_replacing _ _)
    by_cases he : c.left = [] ∨ c.right = []
    · exact replaced w (conquer_of_empty hc he)
    · rw [not_or] at he
      rcases hm : Search.middle? c.left.toArray c.right.toArray w with ⟨p, w'⟩
      by_cases hp : ∃ x y, p = some (x, y) ∧ c.Cuts x y
      · obtain ⟨x, y, rfl, hxy⟩ := hp
        have hl : c.left.length ≤ a.length := hc ▸ Differing.length_left_le a b
        have hr : c.right.length ≤ b.length := hc ▸ Differing.length_right_le a b
        obtain ⟨hx, hy, h0, h1⟩ := hxy
        rw [conquer_of_cuts hc he.1 he.2 hm ⟨hx, hy, h0, h1⟩ rfl rfl]
        obtain ⟨ho₁, hn₁⟩ := ih _ (by simp only [List.length_take]; omega) (c.left.take x)
          (c.right.take y) w' rfl
        obtain ⟨ho₂, hn₂⟩ := ih _ (by simp only [List.length_drop]; omega) (c.left.drop x)
          (c.right.drop y) (conquer (c.left.take x) (c.right.take y) w').2 rfl
        refine within_sides _ ?_ ?_
        · rw [oldLines_append, ho₁, ho₂, List.take_append_drop]
        · rw [newLines_append, hn₁, hn₂, List.take_append_drop]
      · exact replaced w' (conquer_of_not_cuts hc he.1 he.2 hm fun x y h hxy => hp ⟨x, y, h, hxy⟩)

theorem oldLines_between (before after : Text) :
    (between before after).oldLines = before.lines := by
  rw [between, oldLines_dropsFirst]
  exact (sides_conquer _ _ _).1

theorem newLines_between (before after : Text) :
    (between before after).newLines = after.lines := by
  rw [between, newLines_dropsFirst]
  exact (sides_conquer _ _ _).2

/-- **The script between two texts turns the first into the second and runs on no other text.** -/
theorem replay?_between (before after t : Text) :
    (between before after).replay? t = if t = before then some after else none :=
  replay?_eq_ite (oldLines_between before after) (newLines_between before after) t

end Script

end Retouch
