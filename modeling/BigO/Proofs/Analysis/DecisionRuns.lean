import BigO.Proofs.Nesting
import BigO.Proofs.Text.Run

/-! Decisions told from the runs of a text. A keyword is a run of word characters, and an operator
is read in a run of its mark as often as it fits. No token of one kind reaches into a run of
another, so the decisions are counted kind by kind; and a line feed is in no run, so those of two
texts one below the other add up. -/

namespace BigO

open Pattern

namespace Indented

theorem cyclomatic_eq_runs (code : Text) :
    cyclomatic code = 1 + (code.runs CodePoint.isWord).countP (· ∈
      ["if", "elif", "for", "while", "except", "with", "and", "or"].map text) := by
  rw [cyclomatic, decisionPoint, tokens_wholeWord, List.countP_eq_length_filter]

theorem cyclomatic_append (a b : Text) :
    cyclomatic (a ++ CodePoint.ofChar '\n' :: b) + 1 = cyclomatic a + cyclomatic b := by
  rw [cyclomatic, inline_decisionPoint.tokens_append, List.length_append, cyclomatic, cyclomatic]
  omega

end Indented

namespace Braced

/-- The decisions are the keywords and the two operators, each kind in a class of its own. -/
theorem tokens_decisionPoint_perm (masked : Text) :
    (decisionPoint.tokens masked).Perm
      ((wholeWord [text "if", text "while", text "for", text "case"]).tokens masked ++
        ((doubled '&').tokens masked ++ (doubled '|').tokens masked)) := by
  have hkeywords := within_wholeWord [text "if", text "while", text "for", text "case"]
  have hand := within_doubled '&'
  have hor := within_doubled '|'
  have hwords : ∀ c : CodePoint, c.isWord = true →
      ¬ (c = CodePoint.ofChar '&' ∨ c = CodePoint.ofChar '|') := by
    rintro c hc (rfl | rfl)
    · exact absurd hc (by decide)
    · exact absurd hc (by decide)
  have hmark : ∀ c : CodePoint, c = CodePoint.ofChar '&' → ¬ c = CodePoint.ofChar '|' := by
    rintro c rfl
    decide
  have hsplit := tokensFrom_orElse_perm hkeywords (hand.orElse hor) hwords none masked
  exact hsplit.trans ((tokensFrom_orElse_perm hand hor hmark none masked).append_left _)

theorem cyclomatic_eq_runs (masked : Text) :
    cyclomatic masked = 1 + ((masked.runs CodePoint.isWord).countP (· ∈
        ["if", "while", "for", "case"].map text) +
      (((masked.runs (· = CodePoint.ofChar '&')).map (·.length / 2)).sum +
        ((masked.runs (· = CodePoint.ofChar '|')).map (·.length / 2)).sum)) := by
  rw [cyclomatic, (tokens_decisionPoint_perm masked).length_eq, List.length_append,
    List.length_append, tokens_wholeWord, List.countP_eq_length_filter, length_tokens_doubled,
    length_tokens_doubled]
  rfl

theorem cyclomatic_append (a b : Text) :
    cyclomatic (a ++ CodePoint.ofChar '\n' :: b) + 1 = cyclomatic a + cyclomatic b := by
  rw [cyclomatic, inline_decisionPoint.tokens_append, List.length_append, cyclomatic, cyclomatic]
  omega

end Braced

/-- **Decisions by runs**: the count is one more than the number of runs of word characters that
are keywords, together with half of each run of an operator's mark in braced code. Less that one,
the counts of two texts add up to the count of the two one below the other. -/
theorem decisions_counted :
    (∀ code : Text, Indented.cyclomatic code = 1 + (code.runs CodePoint.isWord).countP (· ∈
      ["if", "elif", "for", "while", "except", "with", "and", "or"].map text)) ∧
    (∀ masked : Text, Braced.cyclomatic masked = 1 +
      ((masked.runs CodePoint.isWord).countP (· ∈ ["if", "while", "for", "case"].map text) +
        (((masked.runs (· = CodePoint.ofChar '&')).map (·.length / 2)).sum +
          ((masked.runs (· = CodePoint.ofChar '|')).map (·.length / 2)).sum))) ∧
    ∀ a b : Text,
      (Indented.cyclomatic (a ++ CodePoint.ofChar '\n' :: b) : Int) - 1 =
        (Indented.cyclomatic a - 1) + (Indented.cyclomatic b - 1) ∧
      (Braced.cyclomatic (a ++ CodePoint.ofChar '\n' :: b) : Int) - 1 =
        (Braced.cyclomatic a - 1) + (Braced.cyclomatic b - 1) := by
  refine ⟨Indented.cyclomatic_eq_runs, Braced.cyclomatic_eq_runs, fun a b => ⟨?_, ?_⟩⟩
  · have hsum := Indented.cyclomatic_append a b
    omega
  · have hsum := Braced.cyclomatic_append a b
    omega

example :
    let masked := text "if (a &&& b |||| c) elseif (case1 && _if);"
    masked.runs (· = CodePoint.ofChar '&') = [text "&&&", text "&&"] ∧
      Braced.cyclomatic masked = 1 + (1 + (2 + 2)) := by decide

end BigO
