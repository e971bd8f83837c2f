import BigO.Braced.Signals
import BigO.Indented.Signals
import BigO.Source.Comment
import BigO.Text.Lower
import BigO.Json.Basic

/-! The estimate for a source text with a language tag. An analysis that fails gives the baseline.
-/

namespace BigO

/-- The two ways in which source text is read. -/
inductive Layout where
  | braced
  | indented
deriving DecidableEq

/-- A tag asks for the indented reading if, blanks at its ends and case apart, it is `python`. Every
other tag asks for the braced one. -/
def Layout.ofTag (tag : Text) : Layout :=
  if tag.strip.lower = text "python" then .indented else .braced

/-- The estimate of a layout, or why there is none. -/
def analyze? (code : Text) : Layout → Except AnalysisFailure Estimate
  | .braced => Braced.analyze (Source.stripBracedComments code)
  | .indented => Indented.analyze (Source.stripIndentedComments code)

/-- The estimate for a source text, which never fails. -/
def analyze (code tag : Text) : Estimate :=
  match analyze? code (.ofTag tag) with
  | .ok estimate => estimate
  | .error _ => .baseline

/-- The tag that a value gives; a value that is no text gives the empty one. -/
def tagOf : Json → Text
  | .str tag => tag
  | _ => []

/-- The estimate for values of any kind. A source that is no text gets the baseline. -/
def analyzeValue (code tag : Json) : Estimate :=
  match code with
  | .str code => analyze code (tagOf tag)
  | _ => .baseline

end BigO
