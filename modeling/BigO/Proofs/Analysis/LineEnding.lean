import BigO.Proofs.Braced.LineEnding
import BigO.Proofs.Indented.LineEnding
import BigO.Analysis

/-! Line endings never show in an estimate. Removing comments leaves the two texts alike up to
carriage returns, and so does masking, as long as no backslash stands in front of a line feed: there
a carriage return would be the code point that the backslash escapes. -/

namespace BigO

open Source

/-- **Line endings are invisible**: lines that end in a carriage return and a line feed give the
estimate of lines that end in a line feed, in the indented reading always and in the braced one for
code without backslashes. -/
theorem line_endings_invisible (language : Json) (code : Text) :
    (Layout.ofTag (tagOf language) = .indented →
      analyzeValue (.str (withReturns code)) language = analyzeValue (.str code) language) ∧
    (Layout.ofTag (tagOf language) = .braced → CodePoint.ofChar '\\' ∉ code →
      analyzeValue (.str (withReturns code)) language = analyzeValue (.str code) language) := by
  have hcode := padded_withReturns code
  refine ⟨fun hlanguage => ?_, fun hlanguage hbackslash => ?_⟩
  · have hsame := Indented.analyze_eq (stripIndentedComments_padded hcode)
    simp only [analyzeValue, analyze, hlanguage, analyze?, hsame]
  · have hstripped : CodePoint.ofChar '\\' ∉ stripBracedComments code := fun hmem =>
      hbackslash ((stripBracedComments_sublist code).mem hmem)
    have hsame := Braced.analyze_eq (stripBracedComments_padded hcode) hstripped
    simp only [analyzeValue, analyze, hlanguage, analyze?, hsame]

/-- A comment at the end of a line, a call over two lines, and a template over two lines. -/
theorem line_endings_invisible_at_breaks :
    let call := text "def f(x): # \\\n  while divmod\n(x, 2): f (x)"
    let template := text "for (;;) \x7b // x\n/*\n*/ y = new\nMap (\x60\n\x60)"
    (Layout.ofTag (tagOf (.str (text "PYTHON"))) = .indented ∧
      analyzeValue (.str (withReturns call)) (.str (text "PYTHON")) =
        analyzeValue (.str call) (.str (text "PYTHON"))) ∧
    (Layout.ofTag (tagOf .null) = .braced ∧ CodePoint.ofChar '\\' ∉ template ∧
      analyzeValue (.str (withReturns template)) .null = analyzeValue (.str template) .null) := by
  intro call template
  have hindented : Layout.ofTag (tagOf (.str (text "PYTHON"))) = .indented := by decide +kernel
  have hbackslash : CodePoint.ofChar '\\' ∉ template := by decide
  refine ⟨⟨hindented, (line_endings_invisible _ call).1 hindented⟩, by decide, hbackslash, ?_⟩
  exact (line_endings_invisible .null template).2 (by decide) hbackslash

end BigO
