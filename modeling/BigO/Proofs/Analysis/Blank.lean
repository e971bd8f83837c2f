import BigO.Proofs.Analysis.Verdict
import BigO.Proofs.Braced.Pattern
import BigO.Proofs.Indented.Pattern
import BigO.Proofs.Nesting

/-! A text of line feeds. No pattern reads in it and all its lines are empty, so in both readings
its signals are those of no text at all and its estimate is of constant growth. -/

namespace BigO

open Pattern Source

/-- Nothing but line feeds is in the text. -/
def Text.IsBare (t : Text) : Prop := ∀ c ∈ t, c = CodePoint.ofChar '\n'

theorem Text.IsBare.filler {t : Text} (ht : t.IsBare) : ∀ c ∈ t, c.isFiller = true := by
  intro c hc
  rw [ht c hc]
  exact CodePoint.isFiller_lineFeed

theorem Text.IsBare.eq_nil_of_mem_lines {t : Text} (ht : t.IsBare) {l : Text} (hl : l ∈ t.lines) :
    l = [] := by
  refine List.eq_nil_iff_forall_not_mem.mpr fun c hc => lineFeed_notMem_of_mem_lines hl ?_
  rwa [← ht c (mem_of_mem_lines hl hc)]

namespace Pattern.Steady

variable {α : Type} {p : Pattern α} {t : Text}

theorem tokens_bare (hp : p.Steady) (ht : t.IsBare) : p.tokens t = [] :=
  (hp.begins.tokensFrom_eq_nil_iff none t).mpr (hp.not_readsIn_filler ht.filler none)

theorem occursIn_bare (hp : p.Steady) (ht : t.IsBare) : p.occursIn t = false := by
  rw [hp.begins.occursIn_eq, hp.tokens_bare ht]
  rfl

end Pattern.Steady

/-! ### Braced code -/

namespace Braced

variable {t : Text}

theorem maskLiterals_bare (ht : t.IsBare) : maskLiterals t = t := by
  refine maskLiterals_of_noQuotes fun c hc => ?_
  rw [ht c hc]
  decide

theorem cyclomatic_bare (ht : t.IsBare) : cyclomatic t = 1 := by
  rw [cyclomatic, steady_decisionPoint.tokens_bare ht]
  rfl

theorem maxLoopNesting_bare (ht : t.IsBare) : maxLoopNesting t = 0 := by
  have hlt := maxLoopNesting_lt_cyclomatic t
  rw [cyclomatic_bare ht] at hlt
  exact Nat.lt_one_iff.mp hlt

theorem hasMidpoint_bare (ht : t.IsBare) : hasMidpoint t = false := by
  have hlines : t.lines.any floorsHalf = false := by
    rw [List.any_eq_false]
    intro l hl
    rw [ht.eq_nil_of_mem_lines hl]
    decide
  rw [hasMidpoint, steady_shiftByOne.occursIn_bare ht, steady_midAssignment.occursIn_bare ht,
    hlines]
  rfl

theorem detect_bare (ht : t.IsBare) : detect t = {} := by
  have hrecursive : isRecursive t = false := by
    rw [isRecursive, steady_declaration.tokens_bare ht]
    rfl
  rw [detect, hrecursive, hasMidpoint_bare ht, steady_whileWord.occursIn_bare ht,
    (steady_methodCall (by decide)).occursIn_bare ht, maxLoopNesting_bare ht]
  rfl

theorem estimateSpace_bare (ht : t.IsBare) : estimateSpace t false = .constant := by
  have hstorage : growingStorage.any (·.occursIn t) = false := by
    rw [List.any_eq_false]
    intro p hp
    rw [(steady_growingStorage p hp).occursIn_bare ht]
    exact Bool.false_ne_true
  rw [estimateSpace, hstorage]
  rfl

theorem analyze_bare (ht : t.IsBare) :
    analyze t = conclude (.ok ⟨text "constant", Growth.constant.label, none⟩) .constant 1
      t.countLines decisionWeight := by
  simp only [analyze, maskLiterals_bare ht, detect_bare ht, estimateSpace_bare ht,
    cyclomatic_bare ht]
  rfl

end Braced

/-! ### Indented code -/

namespace Indented

variable {t : Text}

theorem cyclomatic_bare (ht : t.IsBare) : cyclomatic t = 1 := by
  rw [cyclomatic, steady_decisionPoint.tokens_bare ht]
  rfl

theorem maxLoopNesting_bare (ht : t.IsBare) : maxLoopNesting t = 0 := by
  have hlt := maxLoopNesting_lt_cyclomatic t
  rw [cyclomatic_bare ht] at hlt
  exact Nat.lt_one_iff.mp hlt

theorem firstDefinition_empty {ls : List Text} (hls : ∀ l ∈ ls, l = []) :
    firstDefinition ls = none := by
  induction ls with
  | nil => rfl
  | cons l ls ih =>
      obtain rfl := hls l List.mem_cons_self
      exact ih fun l hl => hls l (List.mem_cons_of_mem _ hl)

theorem detect_bare (ht : t.IsBare) : detect t = {} := by
  have hrecursive : isRecursive t = false := by
    rw [isRecursive, firstFunction, firstDefinition_empty fun _ => ht.eq_nil_of_mem_lines]
  rw [detect, hrecursive, (steady_word _).occursIn_bare ht, Bool.and_false, maxLoopNesting_bare ht]
  rfl

theorem foldl_bracket_bare (ht : t.IsBare) : t.foldl Enclosed.bracket {} = {} := by
  induction t with
  | nil => rfl
  | cons c t ih =>
      obtain rfl := ht c List.mem_cons_self
      exact ih fun d hd => ht d (List.mem_cons_of_mem _ hd)

theorem estimateSpace_bare (ht : t.IsBare) : estimateSpace t false = .constant := by
  rw [estimateSpace, steady_listCall.occursIn_bare ht, steady_listAssignment.occursIn_bare ht,
    hasComprehension, bracketGroups, foldl_bracket_bare ht]
  rfl

theorem analyze_bare (ht : t.IsBare) :
    analyze t = conclude (.ok ⟨text "constant", Growth.constant.label, none⟩) .constant 1
      t.countLines decisionWeight := by
  simp only [analyze, detect_bare ht, estimateSpace_bare ht, cyclomatic_bare ht]
  rfl

end Indented

end BigO
