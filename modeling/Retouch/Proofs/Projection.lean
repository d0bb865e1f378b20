/-
  Projection of a text onto the tokens of documents.

  The vector of a text has an entry for each id of its tokens.  The ids carry the proof that there is
  a weight at them, so no lookup can fail.  The same entries are found if the ids are plain numbers,
  which are counted in a table and then looked up with a check (`project?`).  Up to `idSize` tokens,
  an entry stands for one token.

  * `project?_eq`: each lookup of a weight finds one;
  * `vector_of_perm`: only the known tokens and their numbers matter;
  * `forall₂_isEntry_vector`: the entries are those of the distinct known tokens, in their order;
  * `vector_fit_known`: what the vector of a text is, and when two texts are near to the same entry.
-/
import Mathlib.Data.List.Forall2
import Retouch.Proofs.Retrieval
import Retouch.Proofs.Vocabulary

namespace Retouch

open Source (fingerprintOf)

section

variable {α β : Type}

theorem forall₂_filterMap {f : α → Option β} {l : List α} (h : ∀ a ∈ l, ∃ b, f a = some b) :
    List.Forall₂ (fun a b => f a = some b) l (l.filterMap f) := by
  induction l with
  | nil => exact .nil
  | cons a l ih =>
    obtain ⟨⟨b, hb⟩, hl⟩ := List.forall_mem_cons.1 h
    rw [List.filterMap_cons_some hb]
    exact .cons hb (ih hl)

theorem mapM_map_eq_some {γ : Type} {f : β → Option γ} {g : α → β} {k : α → γ} (l : List α)
    (h : ∀ a, f (g a) = some (k a)) : (l.map g).mapM f = some (l.map k) := by
  induction l with
  | nil => rfl
  | cons a l ih =>
    rw [List.map_cons, List.mapM_cons, h, ih]
    rfl

end

namespace SparseVector

theorem map_fst_normalized (v : SparseVector) :
    (normalized v).map Prod.fst = if 0 < norm v then v.map Prod.fst else [] := by
  rw [normalized]
  split <;> simp

end SparseVector

namespace Weights

variable {w : Weights} {ts : List Text} {t t' u : Text} {i : Nat}

/-! ## Weighed ids -/

/-- The number that is reached from zero in `n` steps. -/
def counted (n : Nat) : Float := (· + 1)^[n] 0

/-- The entry of an id that occurs `n` times. -/
def entry (w : Weights) (id : Fin w.idf.length) (n : Nat) : Nat × Float :=
  (id.val, counted n * w.idf.get id)

/-- What is weighed are the ids of the tokens, each once and in increasing order. -/
theorem weigh_eq {ids : List (Fin w.idf.length)} (hids : ids.Pairwise (· < ·))
    (hmem : ∀ id, id ∈ ids ↔ id ∈ ts.filterMap w.termId?) :
    w.weigh ts = ids.map fun id => w.entry id ((ts.filterMap w.termId?).count id) := by
  rw [weigh, tally_eq hids hmem, List.map_map]
  rfl

theorem exists_weigh_eq (w : Weights) (ts : List Text) :
    ∃ ids : List (Fin w.idf.length), ids.Pairwise (· < ·) ∧
      (∀ id, id ∈ ids ↔ id ∈ ts.filterMap w.termId?) ∧
      w.weigh ts = ids.map fun id => w.entry id ((ts.filterMap w.termId?).count id) := by
  obtain ⟨ids, hids, hmem, -⟩ :=
    exists_tally_eq (· + 1) (0 : Float) (ts.filterMap w.termId?)
  exact ⟨ids, hids, hmem, weigh_eq hids hmem⟩

theorem map_fst_weigh (w : Weights) (ts : List Text) :
    ∃ ids : List (Fin w.idf.length), ids.Pairwise (· < ·) ∧
      (∀ id, id ∈ ids ↔ id ∈ ts.filterMap w.termId?) ∧
      (w.weigh ts).map Prod.fst = ids.map Fin.val := by
  obtain ⟨ids, hids, hmem, heq⟩ := w.exists_weigh_eq ts
  refine ⟨ids, hids, hmem, ?_⟩
  rw [heq, List.map_map]
  rfl

theorem pairwise_vector (w : Weights) (t : Text) :
    ((w.vector t).map Prod.fst).Pairwise (· < ·) := by
  obtain ⟨ids, hids, -, hfst⟩ := w.map_fst_weigh (tokens t)
  rw [vector, SparseVector.map_fst_normalized]
  split
  · rw [hfst]
    exact List.pairwise_map.2 hids
  · exact .nil

theorem mem_vector_iff (h : 0 < (w.weigh (tokens t)).norm) :
    i ∈ (w.vector t).map Prod.fst ↔ ∃ id : Fin w.idf.length, id.val = i ∧
      ∃ u ∈ tokens t, w.termId? u = some id := by
  obtain ⟨ids, -, hmem, hfst⟩ := w.map_fst_weigh (tokens t)
  rw [vector, SparseVector.map_fst_normalized, if_pos h, hfst, List.mem_map]
  simp only [hmem, List.mem_filterMap, and_comm]

theorem vector_of_not_pos (h : ¬ 0 < (w.weigh (tokens t)).norm) : w.vector t = [] := by
  rw [vector, SparseVector.normalized, if_neg h]

theorem lt_size_of_mem_vector (h : i ∈ (w.vector t).map Prod.fst) : i < w.size := by
  by_cases hpos : 0 < (w.weigh (tokens t)).norm
  · obtain ⟨id, rfl, -⟩ := (mem_vector_iff hpos).1 h
    exact id.isLt
  · rw [vector_of_not_pos hpos] at h
    exact absurd h List.not_mem_nil

/-! ## Known tokens -/

/-- The tokens of a text that have an id. -/
def known (w : Weights) (t : Text) : List Text := (tokens t).filter fun u => (w.termId? u).isSome

theorem filterMap_known (w : Weights) (t : Text) :
    (w.known t).filterMap w.termId? = (tokens t).filterMap w.termId? := by
  rw [known, List.filterMap_filter]
  refine List.filterMap_congr fun u _ => ?_
  cases w.termId? u <;> rfl

/-- Only the known tokens and how often each occurs matter. -/
theorem vector_of_perm (h : (w.known t).Perm (w.known t')) : w.vector t = w.vector t' := by
  have hids : ((tokens t).filterMap w.termId?).Perm ((tokens t').filterMap w.termId?) := by
    rw [← filterMap_known, ← filterMap_known]
    exact h.filterMap _
  rw [vector, vector, weigh, weigh, tally_of_perm hids]

/-! ## Looking weights up -/

/-- The ids of some tokens as plain numbers, with how often they occur. -/
def countIds (w : Weights) (ts : List Text) : List (Nat × Float) :=
  tally (· + 1) 0 (ts.filterMap fun u => (w.termId? u).map Fin.val)

/-- The entry of a number that was counted, if there is a weight at it. -/
def weighed? (w : Weights) (e : Nat × Float) : Option (Nat × Float) :=
  w.idf[e.1]?.map fun weight => (e.1, e.2 * weight)

/-- The vector of a text, from the counts of its ids; nothing if there is no weight at one. -/
def project? (w : Weights) (t : Text) : Option SparseVector :=
  ((w.countIds (tokens t)).mapM w.weighed?).map SparseVector.normalized

theorem countIds_eq (w : Weights) (ts : List Text) :
    w.countIds ts =
      (tally (· + 1) (0 : Float) (ts.filterMap w.termId?)).map fun e => (e.1.val, e.2) := by
  have hnumbers : (ts.filterMap fun u => (w.termId? u).map Fin.val) =
      (ts.filterMap w.termId?).map Fin.val := by
    rw [List.map_filterMap]
  rw [countIds, hnumbers, tally_map Fin.val_strictMono]

/-- **No lookup of a weight fails**, and what is found is the vector. -/
theorem project?_eq (w : Weights) (t : Text) : w.project? t = some (w.vector t) := by
  have hlookup : ∀ e : Fin w.idf.length × Float,
      w.weighed? (e.1.val, e.2) = some (e.1.val, e.2 * w.idf.get e.1) := fun e => by
    rw [weighed?, List.getElem?_eq_getElem e.1.isLt]
    rfl
  rw [project?, countIds_eq, mapM_map_eq_some _ hlookup]
  rfl

/-! ## One entry for each known token -/

/-- `e` is the entry of the token `u` in the vector of a text: its id, and how often it occurs times
    its weight, over the length of all that is weighed. -/
def IsEntry (w : Weights) (t u : Text) (e : Nat × Float) : Prop :=
  ∃ id, w.termId? u = some id ∧ e.1 = id.val ∧
    e.2 = counted ((tokens t).count u) * w.idf.get id / (w.weigh (tokens t)).norm

section Fit

variable {documents : List Text} {v : Text} {id id' : Fin (fit documents).idf.length}

theorem termId?_inj (hsize : (fit documents).size ≤ idSize)
    (hu : (fit documents).termId? u = some id) (hv : (fit documents).termId? v = some id) :
    u = v := by
  rw [termId?_fit_eq_some_iff_of_le hsize] at hu hv
  exact Option.some.inj (hu.symm.trans hv)

/-- The ids are in the order of the tokens. -/
theorem lt_of_termId? (hsize : (fit documents).size ≤ idSize)
    (hu : (fit documents).termId? u = some id) (hv : (fit documents).termId? v = some id')
    (hlt : u < v) : id < id' := by
  rw [termId?_fit_eq_some_iff_of_le hsize] at hu hv
  obtain ⟨hi, rfl⟩ := List.getElem?_eq_some_iff.1 hu
  obtain ⟨hj, rfl⟩ := List.getElem?_eq_some_iff.1 hv
  have hsorted := List.pairwise_iff_getElem.1 (pairwise_vocabulary documents)
  rcases lt_trichotomy id id' with h | rfl | h
  · exact h
  · exact absurd hlt (lt_irrefl _)
  · exact absurd (hsorted _ _ hj hi h) (lt_asymm hlt)

/-- The tokens with one id are equal. -/
theorem count_filterMap_termId? (hsize : (fit documents).size ≤ idSize)
    (hu : (fit documents).termId? u = some id) (ts : List Text) :
    (ts.filterMap (fit documents).termId?).count id = ts.count u := by
  rw [List.count_filterMap, List.count]
  refine List.countP_congr fun v _ => ?_
  rw [beq_iff_eq, beq_iff_eq]
  constructor
  · exact fun hv => termId?_inj hsize hv hu
  · rintro rfl
    exact hu

/-- **The entries of the vector are those of the distinct known tokens**, in their order. -/
theorem forall₂_isEntry_vector (hsize : (fit documents).size ≤ idSize)
    (h : 0 < ((fit documents).weigh (tokens t)).norm) :
    List.Forall₂ ((fit documents).IsEntry t) (distinct ((fit documents).known t))
      ((fit documents).vector t) := by
  have hids := forall₂_filterMap (f := (fit documents).termId?)
    (l := distinct ((fit documents).known t)) fun u hu =>
      Option.isSome_iff_exists.1 (List.mem_filter.1 (mem_distinct.1 hu)).2
  have hpairwise : ((distinct ((fit documents).known t)).filterMap
      (fit documents).termId?).Pairwise (· < ·) := by
    rw [List.pairwise_filterMap]
    exact (pairwise_distinct _).imp fun hlt _ hu _ hv => lt_of_termId? hsize hu hv hlt
  have hmem : ∀ id, id ∈ (distinct ((fit documents).known t)).filterMap (fit documents).termId? ↔
      id ∈ (tokens t).filterMap (fit documents).termId? := by
    intro id
    rw [← filterMap_known, List.mem_filterMap, List.mem_filterMap]
    simp only [mem_distinct]
  rw [vector, SparseVector.normalized, if_pos h, weigh_eq hpairwise hmem, List.map_map,
    List.forall₂_map_right_iff]
  refine hids.imp fun u id hu => ⟨id, hu, rfl, ?_⟩
  rw [Function.comp_apply, entry, count_filterMap_termId? hsize hu, ← weigh_eq hpairwise hmem]

end Fit

end Weights

/-! ## Texts with the same known tokens -/

namespace Index

/-- Two texts that are no entries and have the same known tokens are near to the same entry. -/
theorem nearest?_build_of_perm {entries : Corpus} {t t' : Text}
    (h : ((build entries).weights.known t).Perm ((build entries).weights.known t'))
    (ht : ∀ e ∈ entries, fingerprintOf e.code ≠ fingerprintOf t)
    (ht' : ∀ e ∈ entries, fingerprintOf e.code ≠ fingerprintOf t') :
    (build entries).nearest? t = (build entries).nearest? t' := by
  have hnone : ∀ {t : Text}, (∀ e ∈ entries, fingerprintOf e.code ≠ fingerprintOf t) →
      (build entries).fingerprints.findIdx? (· == fingerprintOf t) = none := by
    intro t ht
    rw [findIdx?_fingerprints_build, List.findIdx?_eq_none_iff]
    exact fun e he => beq_false_of_ne (ht e he)
  simp only [nearest?, hnone ht, hnone ht', Weights.vector_of_perm h]

end Index

namespace Weights

/-- **The vector of a text has one entry for each distinct known token.**  There is a weight at each
    id that is counted, and the ids increase and are below the number of tokens of the documents.  If
    what is weighed has a length, the entries have the ids of the tokens of the text; and if the tokens
    of the documents have an id each, they are the entries of the distinct known tokens in their order.
    There are no entries otherwise.  Two texts whose known tokens are the same up to their order have
    the same vector, so they are near to the same entry of a corpus with the same score, unless one of
    them has the fingerprint of an entry. -/
theorem vector_fit_known (documents : List Text) (t : Text) :
    (fit documents).project? t = some ((fit documents).vector t) ∧
    (((fit documents).vector t).map Prod.fst).Pairwise (· < ·) ∧
    (∀ i ∈ ((fit documents).vector t).map Prod.fst, i < (fit documents).size) ∧
    (if 0 < ((fit documents).weigh (tokens t)).norm then
      (∀ i, i ∈ ((fit documents).vector t).map Prod.fst ↔
        ∃ id : Fin (fit documents).idf.length, id.val = i ∧
          ∃ u ∈ tokens t, (fit documents).termId? u = some id) ∧
      ((fit documents).size ≤ idSize →
        List.Forall₂ ((fit documents).IsEntry t) (distinct ((fit documents).known t))
          ((fit documents).vector t))
    else (fit documents).vector t = []) ∧
    ∀ t', ((fit documents).known t).Perm ((fit documents).known t') →
      (fit documents).vector t = (fit documents).vector t' ∧
      ∀ entries : Corpus, entries.map (·.code) = documents →
        (∀ e ∈ entries, fingerprintOf e.code ≠ fingerprintOf t ∧
          fingerprintOf e.code ≠ fingerprintOf t') →
        (Index.build entries).nearest? t = (Index.build entries).nearest? t' := by
  refine ⟨project?_eq _ t, pairwise_vector _ t, fun i => lt_size_of_mem_vector, ?_,
    fun t' hperm => ⟨vector_of_perm hperm, ?_⟩⟩
  · split
    · next hpos =>
      exact ⟨fun i => mem_vector_iff hpos, fun hsize => forall₂_isEntry_vector hsize hpos⟩
    · next hneg => exact vector_of_not_pos hneg
  · rintro entries rfl hprint
    exact Index.nearest?_build_of_perm hperm (fun e he => (hprint e he).1) fun e he =>
      (hprint e he).2

/-- Tokens of a corpus in another order and other spellings, with an unknown one among them.  The
    weights are known if the logarithm of one is zero, and then the two known tokens have entries. -/
theorem vector_fit_known_other_order :
    ∃ (entries : Corpus) (documents : List Text),
      entries = [⟨"ab if".toList, ['p']⟩, ⟨"if ab".toList, ['q']⟩] ∧
      documents = entries.map (·.code) ∧
      (fit documents).size ≤ idSize ∧
      (fit documents).known "AB zz IF if".toList = ["ab".toList, "if".toList, "if".toList] ∧
      (fit documents).vector "AB zz IF if".toList = (fit documents).vector "if+ab+If".toList ∧
      (Index.build entries).nearest? "AB zz IF if".toList =
        (Index.build entries).nearest? "if+ab+If".toList ∧
      (Float.log 1 = 0 → 0 < ((fit documents).weigh (tokens "AB zz IF if".toList)).norm ∧
        List.Forall₂ ((fit documents).IsEntry "AB zz IF if".toList) ["ab".toList, "if".toList]
          ((fit documents).vector "AB zz IF if".toList) ∧
        (fit documents).vector "AB zz IF if".toList =
          [(0, 1 / Float.sqrt 5), (1, 2 / Float.sqrt 5)]) := by
  obtain ⟨-, -, -, hentries, hperm⟩ :=
    vector_fit_known ["ab if".toList, "if ab".toList] "AB zz IF if".toList
  obtain ⟨hvector, hnearest⟩ := hperm "if+ab+If".toList (by decide +kernel)
  have hsize : (fit ["ab if".toList, "if ab".toList]).size = 2 := by decide +kernel
  have hle : (fit ["ab if".toList, "if ab".toList]).size ≤ idSize := by
    rw [hsize]
    decide
  have hdistinct : distinct ((fit ["ab if".toList, "if ab".toList]).known "AB zz IF if".toList) =
      ["ab".toList, "if".toList] := by decide +kernel
  refine ⟨_, _, rfl, rfl, hle, by decide +kernel, hvector, hnearest _ rfl (by decide +kernel),
    fun hlog => ?_⟩
  have hpos : 0 < ((fit ["ab if".toList, "if ab".toList]).weigh
      (tokens "AB zz IF if".toList)).norm := by
    rw [fit_same_tokens hlog]
    decide +kernel
  rw [if_pos hpos, hdistinct] at hentries
  refine ⟨hpos, hentries.2 hle, ?_⟩
  show (fit ["ab if".toList, "if ab".toList]).vector _ = _
  rw [fit_same_tokens hlog]
  decide +kernel

end Weights

end Retouch
