/-
  Answers and their origins.

  `Decision` lists what a selector can decide about a neighbour, in the order in which it looks:
  whether there is one, whether it has an improvement, whether it is near enough.  The two ways to
  answer, `select` and `optimize`, both follow it.

  * `decision_choose`: a choice is one of these decisions;
  * `agrees_optimize`: an answer is what `select` gives, and its origin says truly where it comes from
    and, if from the pipeline, why.
-/
import Retouch.Proofs.Retrieval
import Retouch.Proofs.Trail
import Retouch.Selection

namespace Retouch

namespace Selector

/-- The selector over a corpus, or over none. -/
def ofCorpus (c : Option Corpus) (p : Pipeline) (threshold : Option Float) : Selector :=
  ⟨c.map Retriever.new, p, threshold⟩

/-- Whether a neighbour's score is below the threshold. -/
def IsBelow (s : Selector) (n : Neighbour) : Prop := ∃ least ∈ s.threshold, n.score < least

/-! ## Decisions -/

/-- What is decided about a neighbour, and why. -/
inductive Decision (s : Selector) : Option Neighbour → Except Fallback Neighbour → Prop
  | unavailable : Decision s none (.error .corpusUnavailable)
  | empty {n : Neighbour} : n.entry.optimized = [] →
      Decision s (some n) (.error (.emptyOptimized n.index))
  | below {n : Neighbour} : n.entry.optimized ≠ [] → s.IsBelow n →
      Decision s (some n) (.error (.belowThreshold n.index n.score))
  | stored {n : Neighbour} : n.entry.optimized ≠ [] → ¬ s.IsBelow n → Decision s (some n) (.ok n)

variable {s : Selector} {q : Source} {n : Neighbour} {n? : Option Neighbour}

theorem any_threshold_iff : s.threshold.any (n.score < ·) = true ↔ s.IsBelow n := by
  cases h : s.threshold with
  | none => simp [IsBelow, h]
  | some least => simp [IsBelow, h]

theorem decision_choose (s : Selector) (n? : Option Neighbour) : Decision s n? (s.choose n?) := by
  cases n? with
  | none => exact .unavailable
  | some n =>
    simp only [choose]
    split
    · next h => exact .empty (by simpa [Entry.hasOptimized] using h)
    · next h =>
      have hne : n.entry.optimized ≠ [] := by simpa [Entry.hasOptimized] using h
      split
      · next hbelow => exact .below hne (any_threshold_iff.1 hbelow)
      · next hbelow => exact .stored hne (mt any_threshold_iff.2 hbelow)

theorem choose_eq_ok_iff :
    s.choose n? = .ok n ↔ n? = some n ∧ n.entry.optimized ≠ [] ∧ ¬ s.IsBelow n := by
  have hd := s.decision_choose n?
  generalize s.choose n? = d at hd
  cases hd with
  | unavailable => simp
  | empty h => grind
  | below _ h => grind
  | stored _ h => grind

theorem choose_eq_corpusUnavailable_iff :
    s.choose n? = .error .corpusUnavailable ↔ n? = none := by
  have hd := s.decision_choose n?
  generalize s.choose n? = d at hd
  cases hd <;> simp

theorem choose_eq_emptyOptimized_iff {index : Nat} :
    s.choose n? = .error (.emptyOptimized index) ↔
      ∃ n, n? = some n ∧ n.entry.optimized = [] ∧ n.index = index := by
  have hd := s.decision_choose n?
  generalize s.choose n? = d at hd
  cases hd with
  | unavailable => simp
  | empty h => simp [h]
  | below h _ => simp [h]
  | stored h _ => simp [h]

theorem choose_eq_belowThreshold_iff {index : Nat} {score : Float} :
    s.choose n? = .error (.belowThreshold index score) ↔
      ∃ n, n? = some n ∧ n.entry.optimized ≠ [] ∧ s.IsBelow n ∧ n.index = index ∧
        n.score = score := by
  have hd := s.decision_choose n?
  generalize s.choose n? = d at hd
  cases hd with
  | unavailable => simp
  | empty h => simp [h]
  | below h hbelow => simp [h, hbelow]
  | stored h hbelow => simp [h, hbelow]

/-! ## Answers -/

theorem optimize_of_ok (h : s.choose (s.retrieve? q.text) = .ok n) :
    s.optimize q = ⟨q.withText n.entry.optimized, .corpus n.index n.score⟩ := by
  rw [optimize, h]

theorem optimize_of_error {reason : Fallback}
    (h : s.choose (s.retrieve? q.text) = .error reason) :
    s.optimize q = ⟨(s.pipeline.run q).output, .pipeline (s.pipeline.run q) reason⟩ := by
  rw [optimize, h]

theorem origin_eq_corpus_iff {index : Nat} {score : Float} :
    (s.optimize q).origin = .corpus index score ↔
      ∃ n, s.choose (s.retrieve? q.text) = .ok n ∧ n.index = index ∧ n.score = score := by
  cases h : s.choose (s.retrieve? q.text) with
  | ok n => simp [optimize_of_ok h]
  | error reason => simp [optimize_of_error h]

theorem origin_eq_pipeline_iff {trail : Trail} {reason : Fallback} :
    (s.optimize q).origin = .pipeline trail reason ↔
      s.pipeline.run q = trail ∧ s.choose (s.retrieve? q.text) = .error reason := by
  cases h : s.choose (s.retrieve? q.text) with
  | ok n => simp [optimize_of_ok h]
  | error reason => simp [optimize_of_error h]

/-- Only the choice decides on the reason; the run is always the one on the query. -/
theorem exists_origin_eq_pipeline_iff {reason : Fallback} :
    (∃ trail, (s.optimize q).origin = .pipeline trail reason) ↔
      s.choose (s.retrieve? q.text) = .error reason := by
  simp [origin_eq_pipeline_iff]

theorem source_optimize (s : Selector) (q : Source) :
    (s.optimize q).source = s.select q (s.retrieve? q.text) := by
  rw [optimize, select]
  split
  · rfl
  · rw [Trail.result_eq_output]

theorem language_optimize (s : Selector) (q : Source) :
    (s.optimize q).source.language = q.language := by
  rw [optimize]
  split
  · rfl
  · exact Pipeline.language_output_run _ _

/-- There is no neighbour exactly if there is no corpus or it is empty. -/
theorem retrieve?_ofCorpus_eq_none_iff {c : Option Corpus} {p : Pipeline} {threshold : Option Float}
    {t : Text} : (ofCorpus c p threshold).retrieve? t = none ↔ c = none ∨ c = some [] := by
  cases c with
  | none => simp [ofCorpus, retrieve?]
  | some entries => simp [ofCorpus, retrieve?, Retriever.retrieve?_new_eq_none_iff]

theorem getElem?_of_retrieve?_ofCorpus {c : Option Corpus} {p : Pipeline} {threshold : Option Float}
    {t : Text} (h : (ofCorpus c p threshold).retrieve? t = some n) :
    ∃ entries, c = some entries ∧ entries[n.index]? = some n.entry := by
  cases c with
  | none => exact absurd h (by simp [ofCorpus, retrieve?])
  | some entries => exact ⟨entries, rfl, Retriever.getElem?_of_retrieve? (r := .new entries) h⟩

end Selector

/-- An answer to `q` and its origin agree with each other, with the selector `s` and with its corpus
    `c`. -/
structure Optimized.Agrees (c : Option Corpus) (s : Selector) (q : Source) (o : Optimized) :
    Prop where
  /-- The answer is the one selected from the nearest entry. -/
  source_eq : o.source = s.select q (s.retrieve? q.text)
  language_eq : o.source.language = q.language
  /-- The answer is a stored one exactly if the nearest entry has an improvement and is near enough. -/
  corpus_iff : ∀ index score, o.origin = .corpus index score ↔
    ∃ n, s.retrieve? q.text = some n ∧ n.entry.optimized ≠ [] ∧ ¬ s.IsBelow n ∧
      n.index = index ∧ n.score = score
  /-- A stored answer is the improvement in the row of the corpus that the origin names. -/
  stored : ∀ index score, o.origin = .corpus index score →
    ∃ entries entry, c = some entries ∧ entries[index]? = some entry ∧
      o.source.text = entry.optimized
  /-- Any other answer is the output of the run that the origin keeps. -/
  recorded : ∀ trail reason, o.origin = .pipeline trail reason →
    trail = s.pipeline.run q ∧ o.source = trail.output
  unavailable_iff : (∃ trail, o.origin = .pipeline trail .corpusUnavailable) ↔
    c = none ∨ c = some []
  /-- Whether the nearest entry has an improvement comes before how near it is. -/
  empty_iff : ∀ index, (∃ trail, o.origin = .pipeline trail (.emptyOptimized index)) ↔
    ∃ n, s.retrieve? q.text = some n ∧ n.entry.optimized = [] ∧ n.index = index
  below_iff : ∀ index score, (∃ trail, o.origin = .pipeline trail (.belowThreshold index score)) ↔
    ∃ n, s.retrieve? q.text = some n ∧ n.entry.optimized ≠ [] ∧ s.IsBelow n ∧
      n.index = index ∧ n.score = score

/-- **Selection and provenance agree**, for every corpus or none, every pipeline, every threshold and
    every query. -/
theorem Selector.agrees_optimize (c : Option Corpus) (p : Pipeline) (threshold : Option Float)
    (q : Source) :
    Optimized.Agrees c (ofCorpus c p threshold) q ((ofCorpus c p threshold).optimize q) := by
  refine
    { source_eq := source_optimize _ q
      language_eq := language_optimize _ q
      corpus_iff := fun index score => ?_
      stored := ?_
      recorded := ?_
      unavailable_iff := ?_
      empty_iff := fun index => ?_
      below_iff := fun index score => ?_ }
  · rw [origin_eq_corpus_iff]
    simp only [choose_eq_ok_iff, and_assoc]
  · intro index score horigin
    obtain ⟨n, hok, rfl, -⟩ := origin_eq_corpus_iff.1 horigin
    obtain ⟨entries, hc, hentry⟩ := getElem?_of_retrieve?_ofCorpus (choose_eq_ok_iff.1 hok).1
    refine ⟨entries, n.entry, hc, hentry, ?_⟩
    rw [optimize_of_ok hok]
    rfl
  · intro trail reason horigin
    obtain ⟨rfl, herror⟩ := origin_eq_pipeline_iff.1 horigin
    refine ⟨rfl, ?_⟩
    rw [optimize_of_error herror]
  · rw [exists_origin_eq_pipeline_iff, choose_eq_corpusUnavailable_iff, retrieve?_ofCorpus_eq_none_iff]
  · rw [exists_origin_eq_pipeline_iff, choose_eq_emptyOptimized_iff]
  · rw [exists_origin_eq_pipeline_iff, choose_eq_belowThreshold_iff]

end Retouch
