import BigO.Proofs.Braced.Pattern
import BigO.Proofs.Source.LineEnding

/-! Line endings in braced code. The patterns do not see carriage returns, neither in the whole text
nor at the end of a line, and braces are counted apart from them. -/

namespace BigO.Braced

open Pattern Source

/-! ### One line -/

section Line

variable {l l' : Text}

theorem floorsHalf_eq (h : LineAlike l l') : floorsHalf l = floorsHalf l' := by
  have hfloor := steady_floorCall.find?_alike (.of_padded h.padded none)
  simp only at hfloor
  rw [floorsHalf, floorsHalf]
  generalize floorCall.find? none l = hit at hfloor ⊢
  generalize floorCall.find? none l' = hit' at hfloor ⊢
  cases hfloor with
  | none => rfl
  | some hit => exact steady_halved.isSome_find?_eq hit.2

theorem line_eq (n : Nesting) (h : LineAlike l l') : n.line l = n.line l' := by
  have hword := steady_loopWord.occursIn_eq h.padded
  rcases h with rfl | rfl
  · rfl
  · have hbrace : (l ++ [CodePoint.ofChar '\r']).contains (CodePoint.ofChar '{') =
        l.contains (CodePoint.ofChar '{') := by
      rw [List.contains_append]
      exact Bool.or_false _
    have hcount : (l ++ [CodePoint.ofChar '\r']).count (CodePoint.ofChar '}') =
        l.count (CodePoint.ofChar '}') := by
      rw [List.count_append]
      rfl
    rw [Nesting.line, Nesting.line, hword, hbrace, hcount]

theorem callsOnLine_eq (h : LineAlike l l') : callsOnLine l = callsOnLine l' := by
  have hshort := steady_declaration.replaceFrom_padded (text " ") (.of_padded h.padded none)
  rw [← replace_eq_replaceFrom, ← replace_eq_replaceFrom] at hshort
  rw [callsOnLine, callsOnLine, steady_call.tokens_eq hshort]

end Line

/-! ### The whole text -/

variable {t t' : Text}

theorem hasMidpoint_eq (h : Padded 0 t t') : hasMidpoint t = hasMidpoint t' := by
  have hlines : t.lines.any floorsHalf = t'.lines.any floorsHalf :=
    any_eq_of_forall₂ (fun _ _ => floorsHalf_eq) h.lines
  rw [hasMidpoint, hasMidpoint, steady_shiftByOne.occursIn_eq h, steady_midAssignment.occursIn_eq h,
    hlines]

theorem maxLoopNesting_eq (h : Padded 0 t t') : maxLoopNesting t = maxLoopNesting t' := by
  have hrun : t.lines.foldl Nesting.line {} = t'.lines.foldl Nesting.line {} := by
    refine foldl_eq_of_forall₂ (fun n l l' hl => ?_) h.lines
    exact line_eq n hl
  rw [maxLoopNesting, maxLoopNesting, hrun]

theorem branchingFactor_eq (h : Padded 0 t t') : branchingFactor t = branchingFactor t' := by
  refine foldl_eq_of_forall₂ (fun widest l l' hl => ?_) h.lines
  rw [callsOnLine_eq hl]

theorem isRecursive_eq (h : Padded 0 t t') : isRecursive t = isRecursive t' := by
  rw [isRecursive, isRecursive, steady_callSite.tokens_eq h, steady_declaration.tokens_eq h]

theorem detect_eq (h : Padded 0 t t') : detect t = detect t' := by
  have hslice : (methodCall "slice").Steady := steady_methodCall (by decide)
  simp only [detect, isRecursive_eq h, hasMidpoint_eq h, steady_whileWord.occursIn_eq h,
    hslice.occursIn_eq h, maxLoopNesting_eq h, branchingFactor_eq h]

theorem estimateSpace_eq (h : Padded 0 t t') (recursive : Bool) :
    estimateSpace t recursive = estimateSpace t' recursive :=
  estimateSpace_congr (fun p hp => (steady_growingStorage p hp).occursIn_eq h) recursive

theorem cyclomatic_eq (h : Padded 0 t t') : cyclomatic t = cyclomatic t' := by
  rw [cyclomatic, cyclomatic, steady_decisionPoint.tokens_eq h]

/-- **Carriage returns at the ends of lines** do not show in an estimate for braced code without
backslashes. -/
theorem analyze_eq (h : Padded 0 t t') (hbackslash : CodePoint.ofChar '\\' ∉ t) :
    analyze t = analyze t' := by
  have hmasked := maskLiterals_padded h hbackslash
  simp only [analyze, detect_eq hmasked, estimateSpace_eq hmasked, cyclomatic_eq hmasked,
    Text.countLines, h.count_lineFeed]

end BigO.Braced
