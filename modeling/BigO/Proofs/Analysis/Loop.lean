import BigO.Proofs.Braced.Loop
import BigO.Proofs.Braced.Rules

/-! Code inside a loop. With a loop around it braced code has the signals it has without, but for a
greater depth of loops; so its order of growth does not get less, its space stays, and the score
pays for one decision and two lines. -/

namespace BigO

open Source

namespace Braced

/-- What the detectors see of the code. -/
def masked (code : Text) : Text := maskLiterals (stripBracedComments code)

/-- The estimate for braced code whose comments are stripped, with the score of its counts. -/
def estimate (code : Text) : Estimate :=
  let signals := detect (maskLiterals code)
  let penalty := cyclomatic (maskLiterals code) * decisionWeight
  { time := signals.growth.label
    space := signals.spaceLabel.getD
      (estimateSpace (maskLiterals code) signals.isRecursive).label
    maintainability := max 0 (min 100 ((201 - 2 * (penalty : Int) - code.countLines) / 2))
    cyclomatic := cyclomatic (maskLiterals code) }

/-- Code with counts that are not too large has this estimate. -/
theorem analyze_eq_estimate {code : Text}
    (hpenalty : cyclomatic (maskLiterals code) * decisionWeight < 2 ^ 1022)
    (hlines : code.countLines < 2 ^ 1022) : analyze code = .ok (estimate code) := by
  obtain ⟨rule, hclassify, -⟩ := classify_rules (detect (maskLiterals code))
  have hspace := (detect (maskLiterals code)).spaceLabel_getD
    (estimateSpace (maskLiterals code) (detect (maskLiterals code)).isRecursive)
  have hcyclomatic : 1 ≤ cyclomatic (maskLiterals code) := Nat.le_add_right 1 _
  simp only [analyze, estimate, hclassify, hspace]
  exact conclude_eq rfl hspace hcyclomatic (Nat.le_add_left 1 _) (by decide) hpenalty hlines

theorem cyclomatic_maskLiterals_le (code : Text) :
    cyclomatic (maskLiterals code) ≤ 1 + code.length :=
  Nat.add_le_add_left ((Pattern.length_tokens_le _ _).trans (length_maskLiterals_le code)) 1

/-- Neither the code nor the loop around it has too many decisions or lines. -/
theorem analyze_eq_ok {code : Text} (hlength : code.length < 2 ^ 1000) :
    analyze code = .ok (estimate code) ∧ analyze (inLoop code) = .ok (estimate (inLoop code)) := by
  have hcyclomatic := cyclomatic_maskLiterals_le code
  have hlines := Text.countLines_le code
  obtain ⟨hlimit, -⟩ := counts_lt 100 (Nat.le_refl _) hlength (Nat.le_refl _) (Nat.le_add_right _ 1)
  constructor
  · refine analyze_eq_estimate ?_ ?_
    all_goals generalize 2 ^ 1022 = limit at hlimit ⊢
    · rw [decisionWeight]
      omega
    · omega
  · refine analyze_eq_estimate ?_ ?_
    all_goals generalize 2 ^ 1022 = limit at hlimit ⊢
    · rw [maskLiterals_inLoop, cyclomatic_inLoop, decisionWeight]
      omega
    · rw [countLines_inLoop]
      omega

/-! ### The loop around the code -/

section InLoop

variable {code : Text} (h : text "for" ∉ declaration.tokens (maskLiterals code))

include h

theorem detect_maskLiterals_inLoop :
    detect (maskLiterals (inLoop code)) =
      { detect (maskLiterals code) with
        maxLoopNesting := maxLoopNesting (inLoop (maskLiterals code)) } := by
  rw [maskLiterals_inLoop, detect_inLoop h]

/-- Neither is the growth less nor is it less than linear, unless a binary search is seen in both.
-/
theorem growth_inLoop :
    (detect (maskLiterals code)).growth ≤ (detect (maskLiterals (inLoop code))).growth ∧
      (.linear ≤ (detect (maskLiterals (inLoop code))).growth ∨
        decidingRule (maskLiterals code) = .ok (text "binary_search") ∧
          decidingRule (maskLiterals (inLoop code)) = .ok (text "binary_search")) := by
  have hdetect := detect_maskLiterals_inLoop h
  obtain ⟨hdeeper, hloop⟩ := maxLoopNesting_inLoop (maskLiterals code)
  rw [decidingRule_eq_iff, decidingRule_eq_iff, hdetect]
  refine ⟨Signals.growth_mono _ (Int.ofNat_le.mpr hdeeper), ?_⟩
  cases hsearch : (detect (maskLiterals code)).binarySearch with
  | true => exact Or.inr ⟨rfl, hsearch⟩
  | false => exact Or.inl (Signals.linear_le_growth hsearch (Int.ofNat_le.mpr hloop))

theorem space_inLoop : (estimate (inLoop code)).space = (estimate code).space := by
  simp only [estimate, detect_maskLiterals_inLoop h]
  rw [maskLiterals_inLoop, estimateSpace_inLoop]
  rfl

omit h in
theorem cyclomatic_estimate_inLoop :
    (estimate (inLoop code)).cyclomatic = (estimate code).cyclomatic + 1 := by
  simp only [estimate, maskLiterals_inLoop, cyclomatic_inLoop]
  rfl

omit h in
/-- One decision more costs two points, and two lines more cost one. -/
theorem maintainability_inLoop :
    (estimate (inLoop code)).maintainability = max 0 ((estimate code).maintainability - 3) := by
  have hcyclomatic : 1 ≤ cyclomatic (maskLiterals code) := Nat.le_add_right 1 _
  have hlines : 1 ≤ code.countLines := Nat.le_add_left 1 _
  simp only [estimate, maskLiterals_inLoop, cyclomatic_inLoop, countLines_inLoop, decisionWeight]
  omega

end InLoop

end Braced

/-- **A loop around code never lowers its estimate.** -/
theorem loop_never_lowers (language : Json) (hlanguage : Layout.ofTag (tagOf language) = .braced)
    (code : Text) (hlength : code.length < 2 ^ 1000)
    (hname : text "for" ∉ Braced.declaration.tokens (Braced.masked code)) :
    let wrapped := text "for(;;)\x7b\n" ++ code ++ text "\n\x7d"
    let e := analyzeValue (.str code) language
    let e' := analyzeValue (.str wrapped) language
    (∃ g g' : Growth, e.time = g.label ∧ e'.time = g'.label ∧ g ≤ g' ∧
      (.linear ≤ g' ∨ Braced.decidingRule (Braced.masked code) = .ok (text "binary_search") ∧
        Braced.decidingRule (Braced.masked wrapped) = .ok (text "binary_search"))) ∧
    e'.space = e.space ∧ e'.cyclomatic = e.cyclomatic + 1 ∧
    e'.maintainability = max 0 (e.maintainability - 3) := by
  intro wrapped e e'
  have hwrapped : stripBracedComments wrapped = Braced.inLoop (stripBracedComments code) := by
    rw [← Braced.stripBracedComments_inLoop, Braced.inLoop_eq]
  obtain ⟨hinner, houter⟩ := Braced.analyze_eq_ok
    ((stripBracedComments_sublist code).length_le.trans_lt hlength)
  have he : e = Braced.estimate (stripBracedComments code) := by
    simp only [e, analyzeValue, analyze, hlanguage, analyze?, hinner]
  have he' : e' = Braced.estimate (Braced.inLoop (stripBracedComments code)) := by
    simp only [e', analyzeValue, analyze, hlanguage, analyze?, hwrapped, houter]
  obtain ⟨hle, hlinear⟩ := Braced.growth_inLoop hname
  rw [he, he', Braced.masked, Braced.masked, hwrapped]
  exact ⟨⟨_, _, rfl, rfl, hle, hlinear⟩, Braced.space_inLoop hname,
    Braced.cyclomatic_estimate_inLoop, Braced.maintainability_inLoop⟩

/-- A binary search stays one inside the loop, also before a comment and a quote left open. -/
theorem loop_never_lowers_at_search :
    let code := text "while (a < b) \x7b\n  mid = (a + b) >> 1; // \x7d\n  s = \"/*"
    let e := analyzeValue (.str code) .null
    let e' := analyzeValue (.str (text "for(;;)\x7b\n" ++ code ++ text "\n\x7d")) .null
    (Layout.ofTag (tagOf .null) = .braced ∧ code.length < 2 ^ 1000 ∧
      text "for" ∉ Braced.declaration.tokens (Braced.masked code)) ∧
    e'.time = Growth.logarithmic.label ∧
    (∃ g g' : Growth, e.time = g.label ∧ e'.time = g'.label ∧ g ≤ g') ∧
    e'.space = e.space ∧ e'.cyclomatic = e.cyclomatic + 1 ∧
    e'.maintainability = max 0 (e.maintainability - 3) := by
  intro code e e'
  have hbraced : Layout.ofTag (tagOf .null) = .braced := by decide
  have hlength : code.length < 2 ^ 1000 := by decide +kernel
  have hname : text "for" ∉ Braced.declaration.tokens (Braced.masked code) := by decide +kernel
  obtain ⟨⟨g, g', htime, htime', hle, -⟩, hspace, hcyclomatic, hmaintainability⟩ :=
    loop_never_lowers .null hbraced code hlength hname
  exact ⟨⟨hbraced, hlength, hname⟩, by decide +kernel, ⟨g, g', htime, htime', hle⟩, hspace,
    hcyclomatic, hmaintainability⟩

end BigO
