/-
  Drops ahead of additions.

  Moving the drops of a run of changes ahead of its additions (`dropsFirst`) moves drops and additions
  against each other and nothing else: without its additions the script is the same as before, and
  without its drops as well (`SameSides`).  This is all that replay looks at.  The kept lines do not
  even change their places (`map_kept?_dropsFirst`).

  * `SameSides.replay?_eq`: scripts with the same sides run alike, on their own text and on any other;
  * `dropsLead_dropsFirst`: afterwards no drop comes right behind an addition;
  * `SameSides.eq_of_dropsLead`: only one script with given sides is of this kind;
  * `IsRun.dropsFirst_eq`: each run of changes is sorted in its place;
  * `isDropsFirst_dropsFirst`: what drops first amounts to.
-/
import Mathlib.Data.List.Chain
import Mathlib.Data.Option.Basic
import Retouch.Proofs.Replay

namespace Retouch

namespace Edit

/-- The line that the edit keeps, if it keeps one. -/
def kept? : Edit → Option Text
  | keep l => some l
  | drop _ | add _ => none

theorem isChange_eq (e : Edit) : e.isChange = e.kept?.isNone := by
  cases e <;> rfl

theorem isChange_eq_or (e : Edit) : e.isChange = (e.isDrop || e.isAdd) := by
  cases e <;> rfl

theorem isAdd_eq_false_of_isDrop {e : Edit} (h : e.isDrop = true) : e.isAdd = false := by
  cases e with
  | keep l => rfl
  | drop l => rfl
  | add l => cases h

/-- Whether the edit may stand before another in a run of changes with its drops first. -/
def mayPrecede (e e' : Edit) : Bool := !e.isAdd || e'.isAdd

theorem mayPrecede_iff {e e' : Edit} :
    e.mayPrecede e' = true ↔ (e.isAdd = true → e'.isAdd = true) := by
  rw [mayPrecede, Bool.or_eq_true, Bool.not_eq_true', ← Bool.not_eq_true, imp_iff_not_or]

theorem mayPrecede_trans (a b c : Edit) (hab : a.mayPrecede b = true) (hbc : b.mayPrecede c = true) :
    a.mayPrecede c = true :=
  mayPrecede_iff.2 fun ha => mayPrecede_iff.1 hbc (mayPrecede_iff.1 hab ha)

theorem mayPrecede_total (a b : Edit) : (a.mayPrecede b || b.mayPrecede a) = true := by
  simp only [mayPrecede]
  cases a.isAdd <;> cases b.isAdd <;> rfl

end Edit

namespace Script

/-! ## Scripts with the same sides -/

/-- The scripts keep and drop the same lines in the same order, and keep and add the same lines in
    the same order. -/
structure SameSides (s t : Script) : Prop where
  unadded : s.filter (!·.isAdd) = t.filter (!·.isAdd)
  undropped : s.filter (!·.isDrop) = t.filter (!·.isDrop)

/-- No drop comes right behind an addition. -/
def DropsLead (s : Script) : Prop := s.IsChain fun e e' => ¬ (e.isAdd = true ∧ e'.isDrop = true)

variable {s t : Script}

theorem sameSides_dropsFirst (s : Script) : SameSides s.dropsFirst s :=
  ⟨filter_dropsFirst (fun _ _ => .inl rfl) s, filter_dropsFirst (fun _ _ => .inr rfl) s⟩

theorem SameSides.replayLines?_eq (h : SameSides s t) (lines : List Text) :
    s.replayLines? lines = t.replayLines? lines := by
  have hold : s.oldLines = t.oldLines := congrArg (List.map Edit.line) h.unadded
  have hnew : s.newLines = t.newLines := congrArg (List.map Edit.line) h.undropped
  ext b
  rw [replayLines?_eq_some_iff, replayLines?_eq_some_iff, hold, hnew]

/-- **Scripts with the same sides run alike**: they fail on the same texts and give the same text on
    all others. -/
theorem SameSides.replay?_eq (h : SameSides s t) (text : Text) : s.replay? text = t.replay? text := by
  rw [replay?, replay?, h.replayLines?_eq]

/-! ## The order of drops and additions -/

theorem dropsLead_cons {e : Edit} :
    DropsLead (e :: s) ↔
      (∀ e' ∈ s.head?, ¬ (e.isAdd = true ∧ e'.isDrop = true)) ∧ DropsLead s :=
  List.isChain_cons

theorem DropsLead.place (h : DropsLead s) (e : Edit) : DropsLead (Script.place e s) := by
  fun_induction Script.place e s with
  | case1 l m s ih =>
    exact dropsLead_cons.2 ⟨fun _ _ h => absurd h.1 Bool.false_ne_true, ih (dropsLead_cons.1 h).2⟩
  | case2 e s hplace =>
    refine dropsLead_cons.2 ⟨?_, h⟩
    rintro e' he' ⟨hadd, hdrop⟩
    obtain ⟨s', rfl⟩ := List.head?_eq_some_iff.1 he'
    -- an addition in front of a drop is the case in which `place` goes on
    cases e with
    | add l =>
      cases e' with
      | drop m => exact hplace l m s' rfl rfl
      | keep m => cases hdrop
      | add m => cases hdrop
    | keep l => cases hadd
    | drop l => cases hadd

theorem dropsLead_dropsFirst (s : Script) : s.dropsFirst.DropsLead := by
  induction s with
  | nil => exact List.isChain_nil
  | cons e s ih => exact ih.place e

/-- Behind an addition, the next line that is not added is kept. -/
theorem DropsLead.head?_filter {l m : Text} (h : DropsLead (.add l :: s)) :
    (s.filter (!·.isAdd)).head? ≠ some (.drop m) := by
  induction s generalizing l with
  | nil => exact fun hm => nomatch hm
  | cons e s ih =>
    obtain ⟨hfirst, hs⟩ := dropsLead_cons.1 h
    cases e with
    | keep k => exact fun hm => nomatch Option.some.inj hm
    | drop k => exact absurd ⟨rfl, rfl⟩ (hfirst _ rfl)
    | add k => exact ih hs

/-- **Only one script with given sides has its drops first.** -/
theorem SameSides.eq_of_dropsLead (h : SameSides s t) (hs : DropsLead s) (ht : DropsLead t) :
    s = t := by
  induction s generalizing t with
  | nil =>
    cases t with
    | nil => rfl
    | cons f t =>
      cases f with
      | keep m => exact nomatch h.unadded
      | drop m => exact nomatch h.unadded
      | add m => exact nomatch h.undropped
  | cons e s ih =>
    have hs' := (dropsLead_cons.1 hs).2
    cases t with
    | nil =>
      cases e with
      | keep l => exact nomatch h.unadded
      | drop l => exact nomatch h.unadded
      | add l => exact nomatch h.undropped
    | cons f t =>
      have ht' := (dropsLead_cons.1 ht).2
      -- two changes of which one drops and one adds: behind the addition there is no drop to match
      cases e with
      | keep l =>
        cases f with
        | keep m =>
          obtain ⟨he, hold⟩ := List.cons.inj h.unadded
          rw [he, ih ⟨hold, (List.cons.inj h.undropped).2⟩ hs' ht']
        | drop m => exact nomatch (List.cons.inj h.unadded).1
        | add m => exact nomatch (List.cons.inj h.undropped).1
      | drop l =>
        cases f with
        | keep m => exact nomatch (List.cons.inj h.unadded).1
        | drop m =>
          obtain ⟨he, hold⟩ := List.cons.inj h.unadded
          rw [he, ih ⟨hold, h.undropped⟩ hs' ht']
        | add m => exact absurd (congrArg List.head? h.unadded).symm ht.head?_filter
      | add l =>
        cases f with
        | keep m => exact nomatch (List.cons.inj h.undropped).1
        | drop m => exact absurd (congrArg List.head? h.unadded) hs.head?_filter
        | add m =>
          obtain ⟨he, hnew⟩ := List.cons.inj h.undropped
          rw [he, ih (t := t) ⟨h.unadded, hnew⟩ hs' ht']

/-- A script with the same sides and its drops first is what `dropsFirst` gives. -/
theorem SameSides.eq_dropsFirst (h : SameSides t s) (ht : DropsLead t) : t = s.dropsFirst := by
  have hs := sameSides_dropsFirst s
  exact SameSides.eq_of_dropsLead
    ⟨h.unadded.trans hs.unadded.symm, h.undropped.trans hs.undropped.symm⟩ ht
    (dropsLead_dropsFirst s)

/-! ## The places of kept lines -/

theorem map_kept?_place (e : Edit) (s : Script) :
    (place e s).map Edit.kept? = (e :: s).map Edit.kept? := by
  fun_induction place e s with
  | case1 l m s ih => rw [List.map_cons, ih]; rfl
  | case2 => rfl

theorem map_kept?_dropsFirst (s : Script) :
    s.dropsFirst.map Edit.kept? = s.map Edit.kept? := by
  induction s with
  | nil => rfl
  | cons e s ih => rw [dropsFirst_cons, map_kept?_place, List.map_cons, ih, List.map_cons]

theorem map_isChange_dropsFirst (s : Script) :
    s.dropsFirst.map Edit.isChange = s.map Edit.isChange := by
  have h := congrArg (List.map Option.isNone) (map_kept?_dropsFirst s)
  rw [List.map_map, List.map_map] at h
  rwa [funext Edit.isChange_eq]

theorem length_dropsFirst (s : Script) : s.dropsFirst.length = s.length := by
  simpa using congrArg List.length (map_kept?_dropsFirst s)

theorem getElem?_eq_keep_iff {i : Nat} {l : Text} :
    s[i]? = some (.keep l) ↔ (s.map Edit.kept?)[i]? = some (some l) := by
  rw [List.getElem?_map, Option.map_eq_some_iff]
  constructor
  · intro h
    exact ⟨_, h, rfl⟩
  · rintro ⟨e, he, hkept⟩
    cases e with
    | keep k =>
      obtain rfl := Option.some.inj hkept
      exact he
    | drop k => cases hkept
    | add k => cases hkept

/-! ## Runs of changes -/

/-- Between `pre` and `post`, the edits `run` are a run of changes that goes on as far as it can. -/
structure IsRun (pre run post : Script) : Prop where
  isChange : ∀ e ∈ run, e.isChange = true
  before : ∀ e ∈ pre.getLast?, e.isChange = false
  behind : ∀ e ∈ post.head?, e.isChange = false

/-- A stable sort leaves those edits in their order that pass a filter and need no sorting. -/
theorem filter_mergeSort {p : Edit → Bool}
    (hp : ∀ e ∈ s, ∀ e' ∈ s, p e = true → p e' = true → e.mayPrecede e' = true) :
    (s.mergeSort Edit.mayPrecede).filter p = s.filter p := by
  have hsorted : (s.filter p).Pairwise fun e e' => e.mayPrecede e' = true :=
    List.pairwise_filter.2 (List.pairwise_of_forall_mem_list hp)
  have hsub : ((s.filter p).filter p).Sublist ((s.mergeSort Edit.mayPrecede).filter p) :=
    (List.sublist_mergeSort Edit.mayPrecede_trans Edit.mayPrecede_total hsorted
      List.filter_sublist).filter p
  rw [List.filter_filter] at hsub
  simp only [Bool.and_self] at hsub
  exact (hsub.eq_of_length ((List.mergeSort_perm s _).filter p).length_eq.symm).symm

theorem sameSides_mergeSort (h : ∀ e ∈ s, e.isChange = true) :
    SameSides (s.mergeSort Edit.mayPrecede) s := by
  constructor
  · refine filter_mergeSort fun e _ e' _ he _ => ?_
    rw [Edit.mayPrecede, he, Bool.true_or]
  · refine filter_mergeSort fun e _ e' he' _ hdrop => Edit.mayPrecede_iff.2 fun _ => ?_
    -- a change that is no drop is an addition
    have hchange := h e' he'
    rw [Bool.not_eq_true'] at hdrop
    rwa [Edit.isChange_eq_or, hdrop, Bool.false_or] at hchange

theorem dropsLead_mergeSort (s : Script) : DropsLead (s.mergeSort Edit.mayPrecede) := by
  have hsorted := List.pairwise_mergeSort Edit.mayPrecede_trans Edit.mayPrecede_total s
  refine (hsorted.imp fun {e e'} h => ?_).isChain
  rintro ⟨hadd, hdrop⟩
  have hadd' := Edit.mayPrecede_iff.1 h hadd
  rw [Edit.isAdd_eq_false_of_isDrop hdrop] at hadd'
  exact absurd hadd' Bool.false_ne_true

theorem SameSides.append {s' t' : Script} (h : SameSides s t) (h' : SameSides s' t') :
    SameSides (s ++ s') (t ++ t') := by
  constructor
  · rw [List.filter_append, List.filter_append, h.unadded, h'.unadded]
  · rw [List.filter_append, List.filter_append, h.undropped, h'.undropped]

/-- **A run of changes is sorted in its place**, whatever stands before and behind it. -/
theorem IsRun.dropsFirst_eq {pre run post : Script} (h : IsRun pre run post) :
    dropsFirst (pre ++ run ++ post) =
      pre.dropsFirst ++ run.mergeSort Edit.mayPrecede ++ post.dropsFirst := by
  have hsides : SameSides (pre.dropsFirst ++ run.mergeSort Edit.mayPrecede ++ post.dropsFirst)
      (pre ++ run ++ post) :=
    ((sameSides_dropsFirst pre).append (sameSides_mergeSort h.isChange)).append
      (sameSides_dropsFirst post)
  -- the edits around the run stay what they are, kept lines
  have hlast : ∀ b ∈ pre.dropsFirst.getLast?.map Edit.isChange, b = false := by
    rw [← List.getLast?_map, map_isChange_dropsFirst, List.getLast?_map]
    exact Option.forall_mem_map.2 h.before
  have hfirst : ∀ b ∈ post.dropsFirst.head?.map Edit.isChange, b = false := by
    rw [← List.head?_map, map_isChange_dropsFirst, List.head?_map]
    exact Option.forall_mem_map.2 h.behind
  have hlead : DropsLead (pre.dropsFirst ++ run.mergeSort Edit.mayPrecede ++ post.dropsFirst) := by
    refine List.isChain_append.2 ⟨List.isChain_append.2 ⟨dropsLead_dropsFirst pre,
      dropsLead_mergeSort run, ?_⟩, dropsLead_dropsFirst post, ?_⟩
    · rintro e he e' - ⟨hadd, -⟩
      have hkept := hlast _ (Option.mem_map_of_mem _ he)
      rw [Edit.isChange_eq_or, hadd, Bool.or_true] at hkept
      exact absurd hkept.symm Bool.false_ne_true
    · rintro e - e' he' ⟨-, hdrop⟩
      have hkept := hfirst _ (Option.mem_map_of_mem _ he')
      rw [Edit.isChange_eq_or, hdrop, Bool.true_or] at hkept
      exact absurd hkept.symm Bool.false_ne_true
  exact (hsides.eq_dropsFirst hlead).symm

/-! ## Drops first -/

/-- `t` is the script `s` with its drops first. -/
structure IsDropsFirst (s t : Script) : Prop where
  /-- Both scripts fail on the same texts and give the same text on all others. -/
  replay?_eq : ∀ text : Text, t.replay? text = s.replay? text
  /-- Every kept line stays in its place. -/
  keep_iff : ∀ (i : Nat) (l : Text), t[i]? = some (.keep l) ↔ s[i]? = some (.keep l)
  /-- The drops are the same in the same order. -/
  drops : t.filter Edit.isDrop = s.filter Edit.isDrop
  /-- The additions are the same in the same order. -/
  additions : t.filter Edit.isAdd = s.filter Edit.isAdd
  /-- No drop comes right behind an addition. -/
  dropsLead : t.DropsLead
  /-- Each run of changes is sorted in its place, by a stable sort. -/
  sorted : ∀ pre run post, s = pre ++ run ++ post → IsRun pre run post →
    (t.drop pre.length).take run.length = run.mergeSort Edit.mayPrecede
  /-- No other script with the same sides has its drops first. -/
  unique : ∀ u : Script, SameSides u s → u.DropsLead → u = t

/-- **Drops first, and nothing else.**  For every script, be it the script of a comparison or not,
    `dropsFirst` gives one that runs as before on every text, with each kept line in its place, the
    drops and the additions each in their order, and no drop right behind an addition; doing it again
    changes nothing. -/
theorem isDropsFirst_dropsFirst (s : Script) :
    IsDropsFirst s s.dropsFirst ∧ s.dropsFirst.dropsFirst = s.dropsFirst := by
  have hlead := dropsLead_dropsFirst s
  refine ⟨⟨(sameSides_dropsFirst s).replay?_eq, fun i l => ?_,
    filter_dropsFirst (fun _ _ => .inl rfl) s, filter_dropsFirst (fun _ _ => .inr rfl) s, hlead,
    ?_, fun u hu hlead' => hu.eq_dropsFirst hlead'⟩, ?_⟩
  · rw [getElem?_eq_keep_iff, getElem?_eq_keep_iff, map_kept?_dropsFirst]
  · rintro pre run post rfl hrun
    have hpre : pre.length = pre.dropsFirst.length := (length_dropsFirst pre).symm
    have hlen : run.length = (run.mergeSort Edit.mayPrecede).length :=
      (List.mergeSort_perm run _).length_eq.symm
    rw [hrun.dropsFirst_eq, List.append_assoc, hpre, List.drop_left, hlen, List.take_left]
  · exact (SameSides.eq_dropsFirst ⟨rfl, rfl⟩ hlead).symm

end Script

end Retouch
