import BigO.Proofs.Source.Literal
import BigO.Braced.Signals

/-! What stands inside a literal never shows in an estimate. The detectors see the masked text, in
which of a literal only its line feeds are left, and the score counts the lines of the text; both
are the same for two literals that differ in what stands between their line feeds. -/

namespace BigO.Braced

open Source

/-- An estimate depends on the masked text and on the number of lines alone. -/
theorem analyze_congr {code code' : Text} (hmask : maskLiterals code = maskLiterals code')
    (hlines : code.countLines = code'.countLines) : analyze code = analyze code' := by
  simp only [analyze, hmask, hlines]

theorem maskLiterals_eq_of_bodies {p b₁ b₂ : Text} {q : Quote} (hp : QuotesClosed p)
    (h₁ : q.Body b₁) (h₂ : q.Body b₂)
    (hcount : b₁.count (CodePoint.ofChar '\n') = b₂.count (CodePoint.ofChar '\n')) (s : Text) :
    maskLiterals (p ++ q.mark :: (b₁ ++ q.mark :: s)) =
      maskLiterals (p ++ q.mark :: (b₂ ++ q.mark :: s)) := by
  rw [maskLiterals_append hp, maskLiterals_append hp, maskLiterals_literal h₁,
    maskLiterals_literal h₂, emptied_literal, emptied_literal, hcount]

/-- **The contents of a literal are invisible.** Behind a text whose quotes all belong to literals,
two literals in the same quotes and with the same number of line feeds give the same estimate,
whatever follows them. -/
theorem analyze_eq_of_bodies {p b₁ b₂ : Text} {q : Quote} (hp : QuotesClosed p) (h₁ : q.Body b₁)
    (h₂ : q.Body b₂)
    (hcount : b₁.count (CodePoint.ofChar '\n') = b₂.count (CodePoint.ofChar '\n')) (s : Text) :
    analyze (p ++ q.mark :: (b₁ ++ q.mark :: s)) =
      analyze (p ++ q.mark :: (b₂ ++ q.mark :: s)) := by
  refine analyze_congr (maskLiterals_eq_of_bodies hp h₁ h₂ hcount s) ?_
  simp only [Text.countLines, List.count_append, List.count_cons, hcount]

/-- A template with a loop and decisions in it, behind a literal with escaped quotes and before an
open quote, is worth as much as one that holds a line feed only. -/
theorem analyze_template_eq :
    QuotesClosed (text "x = 'it\\'s' + ") ∧
      Quote.backtick.Body (text "for (;;) \x7b\n a && \"b") ∧ Quote.backtick.Body (text "\n") ∧
      (text "for (;;) \x7b\n a && \"b").count (CodePoint.ofChar '\n') =
        (text "\n").count (CodePoint.ofChar '\n') ∧
      analyze (text "x = 'it\\'s' + " ++ Quote.backtick.mark ::
          (text "for (;;) \x7b\n a && \"b" ++ Quote.backtick.mark :: text " + \"")) =
        analyze (text "x = 'it\\'s' + " ++ Quote.backtick.mark ::
          (text "\n" ++ Quote.backtick.mark :: text " + \"")) :=
  ⟨by decide, by decide, by decide, by decide,
    analyze_eq_of_bodies (by decide) (by decide) (by decide) (by decide) (text " + \"")⟩

end BigO.Braced
