/-
  Exact texts and the rows of a corpus.

  The index of a corpus has a vector and a fingerprint for each entry, in the order of the entries, so
  a row found among the fingerprints or among the vectors is the row of an entry.  A text with the
  fingerprint of an entry is answered by the first such row, before any similarity is looked at.  This
  row need not be the most similar one: a text without tokens is similar to nothing, not even to
  itself.

  * `Index.exists_nearest?_build`: the first row with the fingerprint of a text is nearest to it;
  * `Index.score_of_nearest?_build`: without such a row, the score is the similarity of the entry in
    the row that is found;
  * `Retriever.retrieve?_new_aligned`: what is retrieved for a text.
-/
import Retouch.Proofs.Nearest

namespace Retouch

open Source (fingerprintOf)

namespace Index

variable {entries : Corpus} {t : Text} {row : Nat} {e : Entry}

theorem rows_build_ne_nil (h : e ∈ entries) : (build entries).rows ≠ [] := by
  rw [← List.length_pos_iff, length_rows_build]
  exact List.length_pos_of_mem h

/-- A text with the fingerprint of an entry is nearest to the first such entry, with similarity
    one. -/
theorem exists_nearest?_build (h : ∃ e ∈ entries, fingerprintOf e.code = fingerprintOf t) :
    ∃ row e, (build entries).nearest? t = some (row, 1) ∧ entries[row]? = some e ∧
      fingerprintOf e.code = fingerprintOf t ∧
      ∀ j < row, ∀ e', entries[j]? = some e' → fingerprintOf e'.code ≠ fingerprintOf t := by
  obtain ⟨e₀, he₀, hprint₀⟩ := h
  have hsome : (entries.findIdx? (fingerprintOf ·.code == fingerprintOf t)).isSome = true := by
    rw [List.findIdx?_isSome, List.any_eq_true]
    exact ⟨e₀, he₀, beq_iff_eq.2 hprint₀⟩
  obtain ⟨row, hrow⟩ := Option.isSome_iff_exists.1 hsome
  obtain ⟨hlt, hprint, hfirst⟩ := List.findIdx?_eq_some_iff_getElem.1 hrow
  refine ⟨row, entries.get ⟨row, hlt⟩, ?_, List.getElem?_eq_getElem hlt, beq_iff_eq.1 hprint, ?_⟩
  · rw [nearest?, if_neg (by simpa using rows_build_ne_nil he₀)]
    simp only [findIdx?_fingerprints_build, hrow]
  · intro j hj e' he' hprint'
    obtain ⟨hjlt, rfl⟩ := List.getElem?_eq_some_iff.1 he'
    exact hfirst j hj (beq_iff_eq.2 hprint')

/-- The score of a text without the fingerprint of an entry is its similarity to the entry in the row
    that is found. -/
theorem score_of_nearest?_build {x : Float}
    (ht : ∀ e ∈ entries, fingerprintOf e.code ≠ fingerprintOf t)
    (h : (build entries).nearest? t = some (row, x)) (he : entries[row]? = some e) :
    x = ((build entries).weights.vector t).dot ((build entries).weights.vector e.code) := by
  have hprint : fingerprintOf t ∉ (build entries).fingerprints := by
    simpa [build] using ht
  rw [nearest?_eq_best? (rows_build_ne_nil (List.mem_of_getElem? he)) hprint] at h
  have hrow : (similarities (build entries) t)[row]? = some x := mem_numbered.1 (best?_mem h)
  simpa [similarities, build, he, eq_comm] using hrow

end Index

namespace Retriever

/-- **Exact texts and the rows of a corpus.**  Something is retrieved unless the corpus is empty, and
    it is the entry in the row that is named.  If the text is the code of an entry and no other code
    has its fingerprint, it is the first entry with this code, with score one, whatever the tokens of
    the text are.  If no code has its fingerprint, the score is the similarity to that entry. -/
theorem retrieve?_new_aligned (entries : Corpus) (t : Text) :
    ((new entries).retrieve? t = none ↔ entries = []) ∧
    (∀ n, (new entries).retrieve? t = some n →
      n.index < entries.length ∧ entries[n.index]? = some n.entry) ∧
    ((∀ e ∈ entries, fingerprintOf e.code = fingerprintOf t → e.code = t) →
      (∃ e ∈ entries, e.code = t) →
      ∃ n, (new entries).retrieve? t = some n ∧ n.score = 1 ∧ n.entry.code = t ∧
        ∀ j < n.index, ∀ e, entries[j]? = some e → e.code ≠ t) ∧
    ((∀ e ∈ entries, fingerprintOf e.code ≠ fingerprintOf t) →
      ∀ n, (new entries).retrieve? t = some n →
      n.score = ((Weights.fit (entries.map (·.code))).vector t).dot
        ((Weights.fit (entries.map (·.code))).vector n.entry.code)) := by
  refine ⟨retrieve?_new_eq_none_iff, fun n hn => ?_, fun hprint hcode => ?_, fun hprint n hn => ?_⟩
  · have hentry : entries[n.index]? = some n.entry := getElem?_of_retrieve? hn
    exact ⟨(List.getElem?_eq_some_iff.1 hentry).1, hentry⟩
  · obtain ⟨e₀, he₀, hcode₀⟩ := hcode
    obtain ⟨row, e, hnear, he, hprint', hfirst⟩ :=
      Index.exists_nearest?_build ⟨e₀, he₀, congrArg fingerprintOf hcode₀⟩
    refine ⟨⟨row, 1, e⟩, retrieve?_eq_some_iff.2 ⟨hnear, he⟩, rfl,
      hprint e (List.mem_of_getElem? he) hprint', fun j hj e' he' hcode' => ?_⟩
    exact hfirst j hj e' he' (congrArg fingerprintOf hcode')
  · obtain ⟨hnear, hentry⟩ := retrieve?_eq_some_iff.1 hn
    exact Index.score_of_nearest?_build hprint hnear hentry

/-- Texts without tokens, one of them twice in a corpus; and a corpus without that text. -/
theorem retrieve?_new_aligned_no_tokens :
    (∃ entries : Corpus, entries = [⟨['+'], ['p']⟩, ⟨['-'], ['q']⟩, ⟨['-'], ['r']⟩] ∧
      ∃ n, (new entries).retrieve? ['-'] = some n ∧ n.score = 1 ∧ n.entry.code = ['-'] ∧
        ∀ j < n.index, ∀ e, entries[j]? = some e → e.code ≠ ['-']) ∧
    ∃ entries : Corpus, entries = [⟨['+'], ['p']⟩] ∧ ∀ n, (new entries).retrieve? ['-'] = some n →
      n.score = ((Weights.fit (entries.map (·.code))).vector ['-']).dot
        ((Weights.fit (entries.map (·.code))).vector n.entry.code) := by
  have hne : fingerprintOf ['+'] ≠ fingerprintOf ['-'] := by decide +kernel
  refine ⟨⟨_, rfl, ?_⟩, ⟨_, rfl, ?_⟩⟩
  · refine (retrieve?_new_aligned _ ['-']).2.2.1 ?_ ⟨⟨['-'], ['q']⟩, by simp, rfl⟩
    simp only [List.forall_mem_cons, List.not_mem_nil, false_imp_iff, implies_true, and_true]
    exact fun h => absurd h hne
  · exact (retrieve?_new_aligned _ ['-']).2.2.2 (List.forall_mem_singleton.2 hne)

end Retriever

end Retouch
