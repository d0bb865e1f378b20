/-
  The tokens of documents and their ids.

  Fitting numbers the tokens of some documents in increasing order and weighs each by the number of
  documents that have it.  A list in strictly increasing order is determined by its members
  (`List.Pairwise.eq_of_mem_iff`), so neither the order of the documents nor the way the tokens were
  collected matters.

  * `tally_eq`: a table has each key once, its value stepped as often as the key occurs;
  * `documentCounts_eq`: so each token stands with the number of documents that have it;
  * `termId?_fit_eq_some_iff`: an id is a place among the tokens, in a word of 32 bits;
  * `get_idf_of_termId?`: up to `idSize` tokens, the ids and the weights agree;
  * `exists_shared_id`: beyond, two tokens have one id;
  * `fit_enumerates`: what fitting gives, for any documents.
-/
import Mathlib.Data.List.Count
import Mathlib.Data.List.Sort
import Mathlib.Data.Nat.SuccPred
import Retouch.Proofs.Encoding
import Retouch.Retrieval.Weights

namespace Retouch

variable {t u : Text} {ts : List Text}

/-! ## Tokens in increasing order -/

theorem mem_insertTerm : u ∈ insertTerm t ts ↔ u = t ∨ u ∈ ts := by
  induction ts with
  | nil => exact List.mem_cons
  | cons v ts ih =>
    rw [insertTerm]
    split
    · exact List.mem_cons
    · split
      · next heq => simp [heq]
      · rw [List.mem_cons, ih, List.mem_cons, or_left_comm]

theorem pairwise_insertTerm (h : ts.Pairwise (· < ·)) : (insertTerm t ts).Pairwise (· < ·) := by
  induction ts with
  | nil => exact List.pairwise_singleton _ _
  | cons v ts ih =>
    obtain ⟨hv, hts⟩ := List.pairwise_cons.1 h
    rw [insertTerm]
    split
    · next hlt =>
      refine List.pairwise_cons.2 ⟨fun x hx => ?_, h⟩
      rcases List.mem_cons.1 hx with rfl | hx
      · exact hlt
      · exact lt_trans hlt (hv x hx)
    · next hnlt =>
      split
      · exact h
      · next hne =>
        refine List.pairwise_cons.2 ⟨fun x hx => ?_, ih hts⟩
        rcases mem_insertTerm.1 hx with rfl | hx
        · exact lt_of_le_of_ne (not_lt.1 hnlt) (Ne.symm hne)
        · exact hv x hx

theorem mem_distinct : t ∈ distinct ts ↔ t ∈ ts := by
  induction ts with
  | nil => rfl
  | cons u ts ih => rw [distinct, List.foldr_cons, mem_insertTerm, ← distinct, ih, List.mem_cons]

theorem pairwise_distinct (ts : List Text) : (distinct ts).Pairwise (· < ·) := by
  induction ts with
  | nil => exact .nil
  | cons u ts ih => exact pairwise_insertTerm ih

theorem nodup_distinct (ts : List Text) : (distinct ts).Nodup := (pairwise_distinct ts).imp ne_of_lt

/-! ## Tables -/

section Tables

variable {α β : Type} [LinearOrder α] {step : β → β} {start : β} {count : α → Nat}
  {table table' : List (α × β)} {keys keys' : List α} {a : α}

/-- A table has the keys that count, in increasing order, and as many steps lead to their values. -/
def Tallies (step : β → β) (start : β) (count : α → Nat) (table : List (α × β)) : Prop :=
  ∃ keys : List α, keys.Pairwise (· < ·) ∧ (∀ a, a ∈ keys ↔ 0 < count a) ∧
    table = keys.map fun a => (a, step^[count a] start)

theorem tallies_nil : Tallies step start (fun _ : α => 0) [] := ⟨[], .nil, by simp, rfl⟩

theorem Tallies.congr {count' : α → Nat} (h : Tallies step start count table)
    (hcount : ∀ a, count a = count' a) : Tallies step start count' table := by
  rwa [funext hcount] at h

/-- A table is determined by the counts. -/
theorem Tallies.unique (h : Tallies step start count table) (h' : Tallies step start count table') :
    table = table' := by
  obtain ⟨keys, hkeys, hmem, rfl⟩ := h
  obtain ⟨keys', hkeys', hmem', rfl⟩ := h'
  rw [hkeys.eq_of_mem_iff hkeys' fun a => (hmem a).trans (hmem' a).symm]

variable [DecidableLT α] [DecidableEq α]

theorem exists_stepKey_map (hkeys : keys.Pairwise (· < ·)) (ha : a ∉ keys → count a = 0) :
    ∃ keys' : List α, keys'.Pairwise (· < ·) ∧ (∀ b, b ∈ keys' ↔ b = a ∨ b ∈ keys) ∧
      stepKey step start a (keys.map fun b => (b, step^[count b] start)) =
        keys'.map fun b => (b, step^[count b + if b = a then 1 else 0] start) := by
  -- other keys keep their values
  have hother : ∀ l : List α, a ∉ l →
      l.map (fun b => (b, step^[count b + if b = a then 1 else 0] start)) =
        l.map fun b => (b, step^[count b] start) := by
    intro l hl
    refine List.map_congr_left fun b hb => ?_
    rw [if_neg (ne_of_mem_of_not_mem hb hl), Nat.add_zero]
  induction keys with
  | nil => exact ⟨[a], List.pairwise_singleton _ _, by simp, by simp [stepKey, ha]⟩
  | cons v keys ih =>
    obtain ⟨hv, htail⟩ := List.pairwise_cons.1 hkeys
    rw [List.map_cons, stepKey]
    split
    · next hlt =>
      have hlt' : ∀ b ∈ v :: keys, a < b := by
        rw [List.forall_mem_cons]
        exact ⟨hlt, fun b hb => lt_trans hlt (hv b hb)⟩
      have hnew : a ∉ v :: keys := fun hmem => lt_irrefl a (hlt' a hmem)
      refine ⟨a :: v :: keys, List.pairwise_cons.2 ⟨hlt', hkeys⟩, fun b => List.mem_cons, ?_⟩
      rw [List.map_cons, if_pos rfl, ha hnew, hother _ hnew, List.map_cons]
      rfl
    · split
      · next heq =>
        subst heq
        refine ⟨a :: keys, hkeys, by simp, ?_⟩
        rw [List.map_cons, if_pos rfl, hother _ fun hmem => lt_irrefl a (hv a hmem),
          Function.iterate_succ_apply']
      · next hnlt hne =>
        have ha' : a ∉ keys → count a = 0 := fun hmem => ha (by simp [hne, hmem])
        obtain ⟨keys', hkeys', hmem, heq⟩ := ih htail ha'
        refine ⟨v :: keys', List.pairwise_cons.2 ⟨fun b hb => ?_, hkeys'⟩, fun b => ?_, ?_⟩
        · rcases (hmem b).1 hb with rfl | hb
          · exact lt_of_le_of_ne (not_lt.1 hnlt) (Ne.symm hne)
          · exact hv b hb
        · rw [List.mem_cons, hmem, List.mem_cons, or_left_comm]
        · rw [List.map_cons, if_neg (Ne.symm hne), Nat.add_zero, heq]

/-- One more key. -/
theorem Tallies.stepKey (h : Tallies step start count table) (a : α) :
    Tallies step start (fun b => count b + if b = a then 1 else 0)
      (Retouch.stepKey step start a table) := by
  obtain ⟨keys, hkeys, hmem, rfl⟩ := h
  have ha : a ∉ keys → count a = 0 :=
    fun h => Nat.eq_zero_of_not_pos fun hpos => h ((hmem a).2 hpos)
  obtain ⟨keys', hkeys', hmem', heq⟩ := exists_stepKey_map hkeys ha
  refine ⟨keys', hkeys', fun b => ?_, heq⟩
  rw [hmem', hmem]
  by_cases hb : b = a <;> simp [hb]

variable [BEq α] [LawfulBEq α]

theorem Tallies.foldl (h : Tallies step start count table) (keys : List α) :
    Tallies step start (fun b => count b + keys.count b)
      (keys.foldl (fun table a => Retouch.stepKey step start a table) table) := by
  induction keys generalizing count table with
  | nil => exact h
  | cons a keys ih =>
    refine (ih (h.stepKey a)).congr fun b => ?_
    simp only [List.count_cons, beq_iff_eq, eq_comm (a := a)]
    omega

theorem tallies_tally (step : β → β) (start : β) (keys : List α) :
    Tallies step start (fun a => keys.count a) (tally step start keys) :=
  (tallies_nil.foldl keys).congr fun _ => Nat.zero_add _

/-- **A table has each key once, in increasing order.**  Its value is stepped as often as the key
    occurs. -/
theorem tally_eq (hkeys' : keys'.Pairwise (· < ·)) (hmem : ∀ a, a ∈ keys' ↔ a ∈ keys) :
    tally step start keys = keys'.map fun a => (a, step^[keys.count a] start) := by
  refine (tallies_tally step start keys).unique ⟨keys', hkeys', fun a => ?_, rfl⟩
  rw [hmem, List.count_pos_iff]

theorem exists_tally_eq (step : β → β) (start : β) (keys : List α) :
    ∃ keys' : List α, keys'.Pairwise (· < ·) ∧ (∀ a, a ∈ keys' ↔ a ∈ keys) ∧
      tally step start keys = keys'.map fun a => (a, step^[keys.count a] start) := by
  obtain ⟨keys', hkeys', hmem, heq⟩ := tallies_tally step start keys
  exact ⟨keys', hkeys', fun a => (hmem a).trans List.count_pos_iff, heq⟩

omit [BEq α] [LawfulBEq α] in
/-- The order of the keys does not matter. -/
theorem tally_of_perm (h : keys.Perm keys') : tally step start keys = tally step start keys' := by
  refine (tallies_tally step start keys).unique ((tallies_tally step start keys').congr fun a => ?_)
  exact (h.count_eq a).symm

omit [BEq α] [LawfulBEq α] in
/-- Keys may be renamed in their order. -/
theorem tally_map {γ : Type} [LinearOrder γ] [DecidableLT γ] [DecidableEq γ] {f : α → γ}
    (hf : StrictMono f) (keys : List α) :
    tally step start (keys.map f) = (tally step start keys).map fun e => (f e.1, e.2) := by
  obtain ⟨keys', hkeys', hmem, heq⟩ := exists_tally_eq step start keys
  have hpairwise : (keys'.map f).Pairwise (· < ·) := List.pairwise_map.2 (hkeys'.imp (hf ·))
  have hmem' : ∀ c, c ∈ keys'.map f ↔ c ∈ keys.map f := fun c => by simp only [List.mem_map, hmem]
  rw [heq, List.map_map, tally_eq hpairwise hmem', List.map_map]
  refine List.map_congr_left fun a _ => ?_
  simp only [Function.comp_apply, List.count_map_of_injective _ _ hf.injective]

end Tables

/-! ## Counting documents -/

section Documents

variable {documents : List Text}

/-- The number of documents that have a token, however often they have it. -/
def documentCount (documents : List Text) (t : Text) : Nat :=
  documents.countP fun d => t ∈ tokens d

theorem documentCount_pos_iff : 0 < documentCount documents t ↔ ∃ d ∈ documents, t ∈ tokens d := by
  simp [documentCount, List.countP_pos_iff]

/-- The tokens of some documents, in increasing order. -/
def vocabulary (documents : List Text) : List Text := distinct (documents.flatMap tokens)

theorem mem_vocabulary : t ∈ vocabulary documents ↔ ∃ d ∈ documents, t ∈ tokens d := by
  rw [vocabulary, mem_distinct, List.mem_flatMap]

theorem pairwise_vocabulary (documents : List Text) : (vocabulary documents).Pairwise (· < ·) :=
  pairwise_distinct _

theorem nodup_vocabulary (documents : List Text) : (vocabulary documents).Nodup := nodup_distinct _

/-- A document counts once for each of its tokens. -/
theorem count_flatMap_distinct (documents : List Text) (t : Text) :
    (documents.flatMap fun d => distinct (tokens d)).count t = documentCount documents t := by
  induction documents with
  | nil => rfl
  | cons d documents ih =>
    rw [List.flatMap_cons, List.count_append, ih, documentCount, documentCount, List.countP_cons,
      (nodup_distinct _).count, Nat.add_comm]
    simp only [mem_distinct, decide_eq_true_eq]

theorem documentCounts_eq (documents : List Text) :
    documentCounts documents =
      (vocabulary documents).map fun t => (t, documentCount documents t) := by
  have hmem : ∀ t, t ∈ vocabulary documents ↔ t ∈ documents.flatMap fun d => distinct (tokens d) := by
    intro t
    rw [mem_vocabulary, List.mem_flatMap]
    simp only [mem_distinct]
  rw [documentCounts, tally_eq (pairwise_vocabulary documents) hmem]
  refine List.map_congr_left fun t _ => ?_
  rw [count_flatMap_distinct]
  exact congrArg (t, ·) ((Nat.succ_iterate 0 _).trans (Nat.zero_add _))

/-- The order of the documents does not matter. -/
theorem documentCounts_of_perm {documents' : List Text} (h : documents.Perm documents') :
    documentCounts documents = documentCounts documents' :=
  tally_of_perm (h.flatMap_right _)

end Documents

/-! ## Fitting -/

theorem lookup_eq_some_iff {α β : Type} [BEq α] [LawfulBEq α] {l : List (α × β)}
    (h : (l.map Prod.fst).Nodup) {a : α} {b : β} : l.lookup a = some b ↔ (a, b) ∈ l := by
  induction l with
  | nil => simp
  | cons e l ih =>
    rw [List.map_cons, List.nodup_cons] at h
    rw [List.lookup_cons]
    by_cases ha : a = e.1
    · have hother : (a, b) ∉ l := fun hmem => h.1 (List.mem_map.2 ⟨_, hmem, ha⟩)
      simp only [beq_of_eq ha, Option.some_inj, List.mem_cons, Prod.ext_iff, hother, or_false]
      exact ⟨fun hb => ⟨ha, hb.symm⟩, fun he => he.2.symm⟩
    · simp only [beq_false_of_ne ha, ih h.2, List.mem_cons, Prod.ext_iff, ha, false_and, false_or]

namespace Weights

variable {documents : List Text} {n : Nat} {counts : List (Text × Nat)}

theorem map_fst_ids_ofCounts (n : Nat) (counts : List (Text × Nat)) :
    (ofCounts n counts).ids.map Prod.fst = counts.map Prod.fst :=
  List.ext_getElem (by simp [ofCounts]) fun i hi hi' => by simp [ofCounts]

theorem mem_ids_ofCounts {i : Fin (ofCounts n counts).idf.length} :
    (t, i) ∈ (ofCounts n counts).ids ↔
      ∃ place : Nat, (counts.map Prod.fst)[place]? = some t ∧ i.val = place % idSize := by
  refine List.mem_mapFinIdx.trans ?_
  simp only [List.getElem?_map, Option.map_eq_some_iff, List.getElem?_eq_some_iff]
  constructor
  · rintro ⟨place, hplace, heq⟩
    obtain ⟨rfl, rfl⟩ := Prod.mk.inj heq
    exact ⟨place, ⟨_, ⟨hplace, rfl⟩, rfl⟩, rfl⟩
  · rintro ⟨place, ⟨_, ⟨hplace, rfl⟩, rfl⟩, hi⟩
    exact ⟨place, hplace, Prod.ext rfl (Fin.ext hi.symm)⟩

theorem map_fst_documentCounts (documents : List Text) :
    (documentCounts documents).map Prod.fst = vocabulary documents := by
  rw [documentCounts_eq, List.map_map]
  exact List.map_id _

/-- An id is a place among the tokens, in a word of 32 bits. -/
theorem termId?_fit_eq_some_iff {i : Fin (fit documents).idf.length} :
    (fit documents).termId? t = some i ↔
      ∃ place : Nat, (vocabulary documents)[place]? = some t ∧ i.val = place % idSize := by
  have hnodup : ((fit documents).ids.map Prod.fst).Nodup := by
    rw [fit, map_fst_ids_ofCounts, map_fst_documentCounts]
    exact nodup_vocabulary documents
  rw [termId?, lookup_eq_some_iff hnodup, ← map_fst_documentCounts]
  exact mem_ids_ofCounts

/-- At the place of a token stands its weight. -/
theorem idf_fit (documents : List Text) :
    (fit documents).idf = (vocabulary documents).map fun t =>
      termWeight documents.length (documentCount documents t) := by
  have hidf : (fit documents).idf =
      (documentCounts documents).map fun e => termWeight documents.length e.2 := rfl
  rw [hidf, documentCounts_eq, List.map_map]
  rfl

theorem size_fit (documents : List Text) :
    (fit documents).size = (vocabulary documents).length := by
  rw [size, idf_fit, List.length_map]

theorem isSome_termId?_fit :
    ((fit documents).termId? t).isSome = true ↔ t ∈ vocabulary documents := by
  rw [Option.isSome_iff_exists]
  constructor
  · rintro ⟨i, hi⟩
    obtain ⟨place, hplace, -⟩ := termId?_fit_eq_some_iff.1 hi
    exact List.mem_of_getElem? hplace
  · intro ht
    obtain ⟨place, hplace⟩ := List.mem_iff_getElem?.1 ht
    have hlt : place % idSize < (fit documents).idf.length := by
      have hplace := (List.getElem?_eq_some_iff.1 hplace).1
      rw [← size_fit] at hplace
      exact Nat.lt_of_le_of_lt (Nat.mod_le _ _) hplace
    exact ⟨⟨_, hlt⟩, termId?_fit_eq_some_iff.2 ⟨place, hplace, rfl⟩⟩

/-- Up to `idSize` tokens, an id is a place among them. -/
theorem termId?_fit_eq_some_iff_of_le (hsize : (fit documents).size ≤ idSize)
    {i : Fin (fit documents).idf.length} :
    (fit documents).termId? t = some i ↔ (vocabulary documents)[i.val]? = some t := by
  rw [size_fit] at hsize
  rw [termId?_fit_eq_some_iff]
  constructor
  · rintro ⟨place, hplace, hi⟩
    have hlt := (List.getElem?_eq_some_iff.1 hplace).1
    rwa [hi, Nat.mod_eq_of_lt (Nat.lt_of_lt_of_le hlt hsize)]
  · intro hplace
    have hlt := (List.getElem?_eq_some_iff.1 hplace).1
    exact ⟨i, hplace, (Nat.mod_eq_of_lt (Nat.lt_of_lt_of_le hlt hsize)).symm⟩

/-- **The ids and the weights agree**: at the id of a token stands its weight. -/
theorem get_idf_of_termId? (hsize : (fit documents).size ≤ idSize)
    {i : Fin (fit documents).idf.length} (h : (fit documents).termId? t = some i) :
    (fit documents).idf.get i = termWeight documents.length (documentCount documents t) := by
  have hplace := (termId?_fit_eq_some_iff_of_le hsize).1 h
  have hidf := congrArg (·[i.val]?) (idf_fit documents)
  simp only [List.getElem?_map, hplace, List.getElem?_eq_getElem i.isLt] at hidf
  exact Option.some.inj hidf

/-- The order of the documents does not matter. -/
theorem fit_of_perm {documents' : List Text} (h : documents.Perm documents') :
    fit documents' = fit documents :=
  congrArg₂ ofCounts h.length_eq.symm (documentCounts_of_perm h).symm

/-! ## Tokens that all documents have -/

/-- The weights and the ids of some tokens, if the weights are known. -/
theorem ofCounts_eq {idf : List Float} (hlength : idf.length = counts.length)
    (hidf : counts.map (fun e => termWeight n e.2) = idf) :
    ofCounts n counts = ⟨idf, counts.mapFinIdx fun i e hi =>
      (e.1, ⟨i % idSize, Nat.lt_of_le_of_lt (Nat.mod_le i idSize) (hlength ▸ hi)⟩)⟩ := by
  subst hidf
  rfl

/-- The weight of a token that both of two documents have, if the logarithm of one is zero. -/
theorem termWeight_two_two (hlog : Float.log 1 = 0) : termWeight 2 2 = 1 := by
  have hquotient : (1 + (2 : Nat).toFloat) / (1 + (2 : Nat).toFloat) = 1 := by decide +kernel
  rw [termWeight, hquotient, hlog]
  decide +kernel

/-- The weights of two documents with the same tokens, if the logarithm of one is zero. -/
theorem fit_same_tokens (hlog : Float.log 1 = 0) :
    fit ["ab if".toList, "if ab".toList] = ⟨[1, 1], [("ab".toList, 0), ("if".toList, 1)]⟩ := by
  have hcounts : documentCounts ["ab if".toList, "if ab".toList] =
      [("ab".toList, 2), ("if".toList, 2)] := by decide +kernel
  have hidf : [("ab".toList, 2), ("if".toList, 2)].map (fun e : Text × Nat => termWeight 2 e.2) =
      [1, 1] := by
    rw [List.map_cons, List.map_cons, List.map_nil, termWeight_two_two hlog]
  rw [fit, hcounts]
  exact (ofCounts_eq rfl hidf).trans (congrArg (Weights.mk [1, 1]) (by decide +kernel))

/-! ## What fitting gives -/

/-- **Beyond `idSize` tokens the ids are not apart**: the first token and the one behind the first
    `idSize` tokens have the same. -/
theorem exists_shared_id (hsize : idSize < (fit documents).size) :
    ∃ t u, t < u ∧ ∃ i, (fit documents).termId? t = some i ∧ (fit documents).termId? u = some i := by
  have hvocabulary := hsize
  rw [size_fit] at hvocabulary
  have hpos : 0 < (vocabulary documents).length := Nat.lt_of_le_of_lt (Nat.zero_le _) hvocabulary
  refine ⟨(vocabulary documents)[0], (vocabulary documents)[idSize],
    List.pairwise_iff_getElem.1 (pairwise_vocabulary documents) 0 idSize hpos hvocabulary
      (Nat.pow_pos (by decide)),
    ⟨0, Nat.lt_of_le_of_lt (Nat.zero_le _) hsize⟩, ?_, ?_⟩
  · exact termId?_fit_eq_some_iff.2 ⟨0, List.getElem?_eq_getElem hpos, (Nat.zero_mod _).symm⟩
  · exact termId?_fit_eq_some_iff.2
      ⟨idSize, List.getElem?_eq_getElem hvocabulary, (Nat.mod_self _).symm⟩

/-- **Fitting numbers the tokens of the documents in the order of their bytes.**  The tokens of the
    documents have ids and no other text has one, and at the place of each token stands the weight
    that follows from the number of documents and of those that have the token.  An id is the place of
    its token in a word of 32 bits.  So if there are no more tokens than such words, the ids are the
    numbers below the size, each for one token, and the weight of the token stands there.  It does not
    matter in what order the documents come. -/
theorem fit_enumerates (documents : List Text) :
    ∃ terms : List Text,
      (terms.map Text.toBytes).Pairwise (· < ·) ∧
      (∀ t, t ∈ terms ↔ ∃ d ∈ documents, t ∈ tokens d) ∧
      (fit documents).idf =
        terms.map (fun t => termWeight documents.length (documentCount documents t)) ∧
      (∀ t ∈ terms, 1 ≤ documentCount documents t ∧
        documentCount documents t ≤ documents.length) ∧
      (∀ t, ((fit documents).termId? t).isSome = true ↔ ∃ d ∈ documents, t ∈ tokens d) ∧
      (∀ t i, (fit documents).termId? t = some i ↔
        ∃ place : Nat, terms[place]? = some t ∧ i.val = place % idSize) ∧
      ((fit documents).size ≤ idSize → ∀ t i,
        ((fit documents).termId? t = some i ↔ terms[i.val]? = some t) ∧
        ((fit documents).termId? t = some i →
          (fit documents).idf.get i =
            termWeight documents.length (documentCount documents t))) ∧
      ∀ documents', documents.Perm documents' → fit documents' = fit documents := by
  refine ⟨vocabulary documents, ?_, fun t => mem_vocabulary, idf_fit documents, fun t ht => ?_,
    fun t => isSome_termId?_fit.trans mem_vocabulary, fun t i => termId?_fit_eq_some_iff,
    fun hsize t i => ⟨termId?_fit_eq_some_iff_of_le hsize, get_idf_of_termId? hsize⟩,
    fun _ => fit_of_perm⟩
  · exact List.pairwise_map.2 ((pairwise_vocabulary documents).imp Text.toBytes_lt_toBytes)
  · exact ⟨documentCount_pos_iff.2 (mem_vocabulary.1 ht), List.countP_le_length⟩

/-- A token that is repeated in one document, in two spellings, and tokens of other documents. -/
theorem fit_enumerates_repeated_token :
    ∃ (documents : List Text) (i : Fin (fit documents).idf.length),
      documents = ["zz If if".toList, "zz iF x".toList, "ab".toList] ∧
      (fit documents).size ≤ idSize ∧ i.val = 1 ∧
      (fit documents).termId? "if".toList = some i ∧
      (fit documents).idf.get i = termWeight 3 2 ∧
      fit documents.reverse = fit documents := by
  obtain ⟨terms, -, -, -, -, -, -, hid, hperm⟩ :=
    fit_enumerates ["zz If if".toList, "zz iF x".toList, "ab".toList]
  have hsize : (fit ["zz If if".toList, "zz iF x".toList, "ab".toList]).size = 3 := by
    decide +kernel
  have hle : (fit ["zz If if".toList, "zz iF x".toList, "ab".toList]).size ≤ idSize := by
    rw [hsize]
    decide
  have hcount : documentCount ["zz If if".toList, "zz iF x".toList, "ab".toList] "if".toList = 2 := by
    decide +kernel
  obtain ⟨i, hterm, hval⟩ : ∃ i,
      (fit ["zz If if".toList, "zz iF x".toList, "ab".toList]).termId? "if".toList = some i ∧
        i.val = 1 :=
    Option.map_eq_some_iff.1 (by decide +kernel)
  have hget := (hid hle _ i).2 hterm
  rw [hcount] at hget
  exact ⟨_, i, rfl, hle, hval, hterm, hget, hperm _ (List.reverse_perm _).symm⟩

end Weights

end Retouch
