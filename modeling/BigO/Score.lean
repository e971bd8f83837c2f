import BigO.Number.Binary64
import BigO.Text.Basic

/-! The readability score: one hundred, less a penalty for every decision and half a point for every
line, rounded half up and kept between 0 and 100. The penalty is exact; the halves, the difference
and the rounding are done in binary64. -/

namespace BigO.Score

/-- Why a score cannot be computed: an intermediate value leaves the range of binary64. -/
inductive Overflow where
  | lines
  | penalty
  | difference
deriving DecidableEq

/-- The wording of each cause. -/
def Overflow.message : Overflow → Text
  | .lines => text "integer division result too large for a float"
  | .penalty => text "int too large to convert to float"
  | .difference => text "cannot convert float infinity to integer"

/-- A value, or the cause where it is infinite. -/
def within (cause : Overflow) (a : Binary64) : Except Overflow Binary64 :=
  if a.isFinite then .ok a else .error cause

/-- Half the number of lines. -/
def halfLines (totalLines : Int) : Binary64 :=
  Binary64.ofRatio (totalLines < 0) totalLines.natAbs 2

/-- One half. -/
def half : Binary64 := Binary64.ofRatio false 1 2

/-- The score of code with this many decisions and lines, each decision costing `weight`. -/
def maintainability (cyclomatic totalLines weight : Int) : Except Overflow Int := do
  let lines ← within .lines (halfLines totalLines)
  let rest ← within .penalty (Binary64.ofInt (100 - cyclomatic * weight))
  match ((rest.sub lines).add half).floor? with
  | none => .error .difference
  | some n => .ok (min 100 (max 0 n))

end BigO.Score
