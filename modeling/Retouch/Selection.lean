/-
  The choice between a stored answer and the pipeline.

  A query is answered by the nearest entry of the corpus if there is one, its improvement is not
  empty, and its similarity is not below the threshold; otherwise the pipeline answers, and the
  reason is kept with its trail.
-/
import Retouch.Pipeline
import Retouch.Retrieval.Index

namespace Retouch

/-- Why the pipeline answered. -/
inductive Fallback where
  /-- There is no corpus, or it is empty. -/
  | corpusUnavailable
  /-- The nearest entry has no improvement. -/
  | emptyOptimized (index : Nat)
  /-- The nearest entry is not near enough. -/
  | belowThreshold (index : Nat) (score : Float)

/-- Where an answer comes from. -/
inductive Origin where
  | corpus (index : Nat) (score : Float)
  | pipeline (trail : Trail) (reason : Fallback)

/-- An answer and its origin. -/
structure Optimized where
  source : Source
  origin : Origin

namespace Optimized

/-- Whether there was no corpus to ask. -/
def corpusUnavailable (o : Optimized) : Bool :=
  match o.origin with
  | .pipeline _ .corpusUnavailable => true
  | _ => false

/-- The trail of the pipeline, if it answered. -/
def trail? (o : Optimized) : Option Trail :=
  match o.origin with
  | .pipeline trail _ => some trail
  | .corpus _ _ => none

end Optimized

/-- What answers queries: perhaps a corpus, and a pipeline. -/
structure Selector where
  retriever : Option Retriever
  pipeline : Pipeline
  threshold : Option Float := none

namespace Selector

/-- The nearest entry to a text, if there is a corpus. -/
def retrieve? (s : Selector) (t : Text) : Option Neighbour := s.retriever.bind (·.retrieve? t)

/-- The neighbour that answers, or the reason why none does. -/
def choose (s : Selector) : Option Neighbour → Except Fallback Neighbour
  | none => .error .corpusUnavailable
  | some n =>
    if !n.entry.hasOptimized then .error (.emptyOptimized n.index)
    else if s.threshold.any (n.score < ·) then .error (.belowThreshold n.index n.score)
    else .ok n

/-- The answer to a query, given its neighbour. -/
def select (s : Selector) (q : Source) (n : Option Neighbour) : Source :=
  match s.choose n with
  | .ok n => q.withText n.entry.optimized
  | .error _ => (s.pipeline.run q).result

/-- The answer to a query and its origin. -/
def optimize (s : Selector) (q : Source) : Optimized :=
  match s.choose (s.retrieve? q.text) with
  | .ok n => ⟨q.withText n.entry.optimized, .corpus n.index n.score⟩
  | .error reason =>
    let trail := s.pipeline.run q
    ⟨trail.output, .pipeline trail reason⟩

end Selector

/-- The answer of the canonical passes and perhaps a corpus, without a threshold. -/
def optimize (q : Source) (r : Option Retriever) : Optimized :=
  Selector.optimize ⟨r, Pipeline.canonical, none⟩ q

end Retouch
