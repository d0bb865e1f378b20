/-
  The report of an answer: where it comes from, and the report of the pipeline if that answered.
-/
import Retouch.Decimal.Shortest
import Retouch.Report.Run
import Retouch.Selection

namespace Retouch

/-- What a report says about an answer. -/
structure OptimizeReport where
  origin : String
  corpusRow : Option Nat
  score : Option Float
  fallbackReason : Option String
  corpusUnavailable : Bool
  output : Text
  run : Option RunReport

namespace Fallback

/-- The name of a reason. -/
def label : Fallback → String
  | corpusUnavailable => "corpus-unavailable"
  | emptyOptimized _ => "empty-optimized"
  | belowThreshold _ _ => "below-threshold"

/-- The row that was nearest. -/
def row? : Fallback → Option Nat
  | corpusUnavailable => none
  | emptyOptimized index | belowThreshold index _ => some index

/-- The similarity that was too low. -/
def score? : Fallback → Option Float
  | corpusUnavailable | emptyOptimized _ => none
  | belowThreshold _ score => some score

end Fallback

/-- The report of an answer; nothing if the run behind it has no report. -/
def Optimized.report? (o : Optimized) : Option OptimizeReport :=
  match o.origin with
  | .corpus index score =>
    some
      { origin := "corpus", corpusRow := some index, score := some score, fallbackReason := none
        corpusUnavailable := o.corpusUnavailable, output := o.source.text, run := none }
  | .pipeline trail reason =>
    trail.report?.map fun run =>
      { origin := "pipeline", corpusRow := reason.row?, score := reason.score?
        fallbackReason := some reason.label, corpusUnavailable := o.corpusUnavailable
        output := o.source.text, run := some run }

namespace OptimizeReport

/-- A score as a value. -/
def scoreJson (x : Float) : Json := .num (Decimal.Style.json.write x)

/-- The report of an answer as a value, with scores written by `score`. -/
def toJsonWith (score : Float → Json) (r : OptimizeReport) : Json :=
  .object [("origin", .string r.origin), ("corpus_row", .opt Json.nat r.corpusRow),
    ("score", .opt score r.score), ("fallback_reason", .opt Json.string r.fallbackReason),
    ("corpus_unavailable", .bool r.corpusUnavailable), ("output", .text r.output),
    ("run", .opt RunReport.toJson r.run)]

/-- The report of an answer as a value. -/
def toJson (r : OptimizeReport) : Json := r.toJsonWith scoreJson

end OptimizeReport

end Retouch
