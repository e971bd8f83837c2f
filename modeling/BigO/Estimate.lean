import BigO.Growth
import BigO.Decision
import BigO.Score

/-! The estimate for one piece of source text, and why an analysis may fail to give one. -/

namespace BigO

/-- Growth labels for time and space, the readability score and the number of decisions plus one. -/
structure Estimate where
  time : Text
  space : Text
  maintainability : Int
  cyclomatic : Int
deriving DecidableEq

namespace Estimate

/-- What is answered where nothing can be said. -/
def baseline : Estimate :=
  { time := Growth.constant.label, space := Growth.constant.label
    maintainability := 100, cyclomatic := 1 }

/-- The limits that every estimate keeps. -/
def InRange (e : Estimate) : Prop :=
  0 ≤ e.maintainability ∧ e.maintainability ≤ 100 ∧ 1 ≤ e.cyclomatic

instance (e : Estimate) : Decidable e.InRange := inferInstanceAs (Decidable (_ ∧ _ ∧ _))

end Estimate

/-- Why an analysis gives no estimate. -/
inductive AnalysisFailure where
  | noRule (cause : NoCatchAll)
  | score (cause : Score.Overflow)
  | outOfRange
deriving DecidableEq

/-- The estimate that follows from a verdict, an estimated space label and the counts. The space
label of the rule goes before the estimated one. -/
def conclude (verdict : Except NoCatchAll Verdict) (space : Growth)
    (cyclomatic totalLines weight : Nat) : Except AnalysisFailure Estimate := do
  let verdict ← verdict.mapError AnalysisFailure.noRule
  let maintainability ←
    (Score.maintainability cyclomatic totalLines weight).mapError AnalysisFailure.score
  let estimate : Estimate :=
    { time := Label.normalize verdict.time
      space := Label.normalize (verdict.space.getD space.label)
      maintainability, cyclomatic }
  if estimate.InRange then return estimate else throw .outOfRange

end BigO
