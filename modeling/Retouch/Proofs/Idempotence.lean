/-
  Passes that change nothing when they are done again.

  Each of them brings a text into a form that it leaves as it is (`Normalizes`): without comments,
  without ordered containers, without steps, without counting loops, without blank lines.  Two things
  could go wrong with such a pass.  What it writes or leaves may join with the text around it into
  something that it looks for, and what it keeps may not be found again as it was.
-/
import Retouch.Proofs.BlankLines
import Retouch.Proofs.CommentFree
import Retouch.Proofs.CountingLoops
import Retouch.Proofs.Increments
import Retouch.Proofs.WholeWords

namespace Retouch.Pass

/-- A pass that changes nothing when it is done again. -/
def IsIdempotent (q : Pass) : Prop := ∀ t, q.apply (q.apply t) = q.apply t

/-- A pass that brings every text into a form that it leaves as it is. -/
structure Normalizes (q : Pass) (normal : Text → Prop) : Prop where
  /-- What the pass looks for is gone. -/
  normal_apply : ∀ t, normal (q.apply t)
  /-- A text without it stays as it is. -/
  apply_eq_self : ∀ {t}, normal t → q.apply t = t

theorem Normalizes.isIdempotent {q : Pass} {normal : Text → Prop} (h : q.Normalizes normal) :
    q.IsIdempotent := fun t => h.apply_eq_self (h.normal_apply t)

theorem normalizes_stripComments : stripComments.Normalizes CommentFree :=
  ⟨commentFree_dropComments, dropComments_eq_self⟩

theorem normalizes_unorderedContainers : unorderedContainers.Normalizes OrdersNothing :=
  ⟨ordersNothing_unorderContainers, unorderContainers_eq_self⟩

theorem normalizes_incrementIdioms : incrementIdioms.Normalizes StepFree :=
  ⟨stepFree_shortenSteps, shortenSteps_eq_self⟩

theorem normalizes_whileToFor : whileToFor.Normalizes LoopFree :=
  ⟨loopFree_moveSteps, moveSteps_eq_self⟩

theorem normalizes_collapseBlankLines : collapseBlankLines.Normalizes BlankFree :=
  ⟨blankFree_dropBlankLines, dropBlankLines_eq_self⟩

/-- **Five passes are done once and for all.** -/
theorem isIdempotent_supplementary :
    (stripComments.IsIdempotent ∧ stripComments.Normalizes CommentFree) ∧
      (unorderedContainers.IsIdempotent ∧ unorderedContainers.Normalizes OrdersNothing) ∧
      (incrementIdioms.IsIdempotent ∧ incrementIdioms.Normalizes StepFree) ∧
      (whileToFor.IsIdempotent ∧ whileToFor.Normalizes LoopFree) ∧
      (collapseBlankLines.IsIdempotent ∧ collapseBlankLines.Normalizes BlankFree) := by
  refine ⟨⟨?_, normalizes_stripComments⟩, ⟨?_, normalizes_unorderedContainers⟩,
    ⟨?_, normalizes_incrementIdioms⟩, ⟨?_, normalizes_whileToFor⟩,
    ⟨?_, normalizes_collapseBlankLines⟩⟩
  · exact normalizes_stripComments.isIdempotent
  · exact normalizes_unorderedContainers.isIdempotent
  · exact normalizes_incrementIdioms.isIdempotent
  · exact normalizes_whileToFor.isIdempotent
  · exact normalizes_collapseBlankLines.isIdempotent

end Retouch.Pass
