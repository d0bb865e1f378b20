/-
  Pipelines: passes that run one after another, each on the result of the one before.

  A run keeps every step, also those that change nothing: one stage per pass, in order, with the
  source before and after it.
-/
import Retouch.Edit.Compare
import Retouch.Edit.Unified
import Retouch.Pass.Catalog
import Retouch.Source

namespace Retouch

/-- The source after a pass: the same source if the pass leaves its text as it is. -/
def Pass.rewrite (q : Pass) (s : Source) : Source :=
  let rewritten := q.apply s.text
  if rewritten = s.text then s else s.withText rewritten

/-- One application of a pass. -/
structure Stage where
  index : Nat
  pass : String
  before : Source
  after : Source

namespace Stage

/-- Whether the pass changed the text. -/
def changed (s : Stage) : Bool := s.before.text != s.after.text

/-- A shortest script from the text before to the text after. -/
def script (s : Stage) : Script := Script.between s.before.text s.after.text

end Stage

/-- The trail of a run: the input and the stages. -/
structure Trail where
  input : Source
  stages : List Stage

namespace Trail

/-- The result of the last stage; the input if there is none. -/
def output (r : Trail) : Source := (r.stages.getLast?.map (·.after)).getD r.input

/-- What a run leaves when its trail is given up: the end of the last stage, or the input. -/
def result (r : Trail) : Source :=
  match r.stages.getLast? with
  | some stage => stage.after
  | none => r.input

/-- The names of the passes that changed the text. -/
def effective (r : Trail) : List String := (r.stages.filter (·.changed)).map (·.pass)

end Trail

/-- A list of passes that run in order. -/
abbrev Pipeline := List Pass

namespace Pipeline

/-- The canonical passes. -/
def canonical : Pipeline := Pass.canonical

/-- The canonical passes followed by the passes of these names, or the first unknown name. -/
def withExtra (extra : List String) : Except String Pipeline :=
  (Pass.ofNames extra).map (canonical ++ ·)

/-- The names of the passes. -/
def names (p : Pipeline) : List String := p.map (·.name)

/-- The stages of the passes `p` on `s`, numbered from `i`. -/
def stagesFrom : (i : Nat) → (p : Pipeline) → (s : Source) → List Stage
  | _, [], _ => []
  | i, q :: p, s =>
    let after := q.rewrite s
    ⟨i, q.name, s, after⟩ :: stagesFrom (i + 1) p after

/-- The run of a pipeline on a source. -/
def run (p : Pipeline) (s : Source) : Trail := ⟨s, stagesFrom 0 p s⟩

end Pipeline

/-- The text after all canonical passes. -/
def retouched (t : Text) : Text := (Pipeline.canonical.run ⟨t, .cpp⟩).result.text

end Retouch
