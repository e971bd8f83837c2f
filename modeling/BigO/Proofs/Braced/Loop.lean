import BigO.Proofs.Braced.Pattern
import BigO.Proofs.Nesting
import BigO.Proofs.Source.LineComment
import BigO.Proofs.Source.Literal

/-! Code as the body of a loop. The line in front holds one loop keyword and one brace, the line
behind holds a brace; neither joins with the code to a comment, a literal or a token. So what is
found in the code is found in the loop, with one decision and one call more, and the loops of the
code are one level deeper. -/

namespace BigO.Braced

open Pattern Source

/-- The line that begins a loop without conditions. -/
def loopLine : Text := text "for(;;)\x7b"

/-- The code as the body of a loop. -/
def inLoop (code : Text) : Text :=
  loopLine ++ CodePoint.ofChar '\n' :: (code ++ CodePoint.ofChar '\n' :: text "\x7d")

theorem inLoop_eq (code : Text) : inLoop code = text "for(;;)\x7b\n" ++ code ++ text "\n\x7d" := by
  simp only [List.append_assoc]
  rfl

theorem lines_inLoop (code : Text) :
    (inLoop code).lines = loopLine :: (code.lines ++ [text "\x7d"]) := by
  rw [inLoop, Text.lines_line (by decide), Text.lines_append_lineFeed,
    Text.lines_of_notMem (t := text "\x7d") (by decide)]

theorem countLines_inLoop (code : Text) : (inLoop code).countLines = code.countLines + 2 := by
  have hline : loopLine.count (CodePoint.ofChar '\n') = 0 := by decide
  have hend : (text "\x7d").count (CodePoint.ofChar '\n') = 0 := by decide
  simp only [Text.countLines, inLoop, List.count_append, List.count_cons_self, hline, hend]
  omega

/-! ### Comments and literals -/

theorem stripBlockComments_inLoop (code : Text) :
    stripBlockComments (inLoop code) = inLoop (stripBlockComments code) := by
  have hclosed : BlocksClosed loopLine := by decide
  have hopen : ∀ s, ¬ blockOpen <+: CodePoint.ofChar '\n' :: s := by
    intro s
    rw [blockOpen, List.cons_prefix_cons]
    exact fun h => absurd h.1 (by decide)
  rw [inLoop, stripBlockComments_append hclosed fun hlast => absurd hlast (by decide),
    stripBlockComments_code (hopen _),
    stripBlockComments_append_of_endBefore (Or.inr (by decide)) (by decide)]
  rfl

theorem stripBracedComments_inLoop (code : Text) :
    stripBracedComments (inLoop code) = inLoop (stripBracedComments code) := by
  have hp := isLineComment_slashComment
  have hline : ∀ s, AtLineEnd (CodePoint.ofChar '\n' :: s) := atLineEnd_lineFeed
  have hbefore : slashComment.IgnoresBefore := fun _ _ => rfl
  have hbehind :
      dropComments slashComment (some (CodePoint.ofChar '\n')) (stripBlockComments code) =
        stripBracedComments code := hbefore.replaceFrom_eq _ _ _
  rw [stripBracedComments_eq, stripBlockComments_inLoop, inLoop,
    hp.dropComments_append_atLineEnd (hline _) ((hline _).readsApart _), hp.dropComments_lineFeed,
    hp.dropComments_append_atLineEnd (hline _) ((hline _).readsApart _), hbehind]
  rfl

theorem maskLiterals_inLoop (code : Text) :
    maskLiterals (inLoop code) = inLoop (maskLiterals code) := by
  have hquotes : QuotesClosed loopLine := by decide
  have hend : ∀ c ∈ CodePoint.ofChar '\n' :: text "\x7d", Quote.ofMark? c = none := by decide
  rw [inLoop, maskLiterals_append hquotes, maskLiterals_noQuote (by decide),
    maskLiterals_append_noQuotes code hend]
  rfl

/-! ### Tokens -/

section Tokens

variable {α : Type} {p : Pattern α} {found : List α}

/-- What the pattern finds in the line that begins the loop, whatever stands behind it; from the
next line on it reads as at the start. -/
structure ReadsLoopLine (p : Pattern α) (found : List α) : Prop where
  start : p (some (CodePoint.ofChar '\n')) = p none
  line (t : Text) : tokensFrom p none (loopLine ++ CodePoint.ofChar '\n' :: t) =
    found ++ tokensFrom p (some (CodePoint.ofChar '\n')) t

/-- The scan is run over the line. -/
theorem readsLoopLine_of_pieces (done : List (Piece α))
    (hstart : p (some (CodePoint.ofChar '\n')) = p none)
    (h : ∀ t, piecesFrom p [] 0 none (loopLine ++ CodePoint.ofChar '\n' :: t) =
      piecesFrom p done 0 (some (CodePoint.ofChar '\n')) t) :
    ReadsLoopLine p (done.reverse.filterMap Piece.value?) where
  start := hstart
  line t := by
    rw [tokensFrom, scan, h, piecesFrom_done, List.filterMap_append]
    rfl

/-- Nothing is found where all pieces are single code points. -/
theorem readsLoopLine_of_plain (hstart : p (some (CodePoint.ofChar '\n')) = p none)
    (h : ∀ t, piecesFrom p [] 0 none (loopLine ++ CodePoint.ofChar '\n' :: t) =
      piecesFrom p ((text "for(;;)\x7b\n").reverse.map .plain) 0 (some (CodePoint.ofChar '\n')) t) :
    ReadsLoopLine p [] :=
  readsLoopLine_of_pieces _ hstart h

theorem ReadsLoopLine.tokens_inLoop (h : ReadsLoopLine p found) (hp : p.Steady) (code : Text) :
    p.tokens (inLoop code) = found ++ p.tokens code := by
  have hend : ∀ c ∈ CodePoint.ofChar '\n' :: text "\x7d", c.isFiller = true := by decide
  rw [tokens_eq_tokensFrom, inLoop, h.line, tokensFrom_congr h.start, ← tokens_eq_tokensFrom,
    ← hp.tokens_eq (Padded.append_filler code hend)]

theorem ReadsLoopLine.occursIn_inLoop (h : ReadsLoopLine p []) (hp : p.Steady) (code : Text) :
    p.occursIn (inLoop code) = p.occursIn code := by
  rw [hp.begins.occursIn_eq, hp.begins.occursIn_eq, h.tokens_inLoop hp, List.nil_append]

end Tokens

theorem readsLoopLine_declaration : ReadsLoopLine declaration [] :=
  readsLoopLine_of_plain rfl fun _ => rfl

theorem readsLoopLine_growingStorage : ∀ p ∈ growingStorage, ReadsLoopLine p [] := by
  simp only [growingStorage, List.forall_mem_cons, List.not_mem_nil, false_implies, implies_true,
    and_true]
  exact ⟨readsLoopLine_of_plain rfl fun _ => rfl, readsLoopLine_of_plain rfl fun _ => rfl,
    readsLoopLine_of_plain rfl fun _ => rfl, readsLoopLine_of_plain rfl fun _ => rfl,
    readsLoopLine_of_plain rfl fun _ => rfl, readsLoopLine_of_plain rfl fun _ => rfl,
    readsLoopLine_of_plain rfl fun _ => rfl⟩

/-- The keyword stands before a parenthesis and is taken for a call site. -/
theorem readsLoopLine_callSite : ReadsLoopLine callSite [text "for"] :=
  readsLoopLine_of_pieces
    ((text ";;)\x7b\n").reverse.map .plain ++ [.token (text "for") (text "for(")]) rfl fun _ => rfl

theorem readsLoopLine_decisionPoint : ReadsLoopLine decisionPoint [text "for"] :=
  readsLoopLine_of_pieces
    ((text "(;;)\x7b\n").reverse.map .plain ++ [.token (text "for") (text "for")]) rfl fun _ => rfl

/-! ### Depth -/

/-- A scan that is nowhere less deep than another one. -/
structure Nesting.Le (n m : Nesting) : Prop where
  depth : n.depth ≤ m.depth
  deepest : n.deepest ≤ m.deepest

namespace Nesting.Le

variable {n m : Nesting}

theorem line (h : n.Le m) (l : Text) : (n.line l).Le (m.line l) := by
  obtain ⟨hdepth, hdeepest⟩ := h
  cases hopens : opensLoop l with
  | true =>
      rw [n.line_of_opens hopens, m.line_of_opens hopens]
      constructor <;> simp only <;> omega
  | false =>
      rw [n.line_of_not_opens hopens, m.line_of_not_opens hopens]
      constructor <;> simp only <;> omega

theorem foldl (h : n.Le m) (ls : List Text) :
    (ls.foldl Nesting.line n).Le (ls.foldl Nesting.line m) := by
  induction ls generalizing n m with
  | nil => exact h
  | cons l ls ih => exact ih (h.line l)

end Nesting.Le

theorem Nesting.deepest_le_line (n : Nesting) (l : Text) : n.deepest ≤ (n.line l).deepest := by
  cases hopens : opensLoop l with
  | true =>
      rw [n.line_of_opens hopens]
      exact Nat.le_max_left _ _
  | false =>
      rw [n.line_of_not_opens hopens]

theorem Nesting.deepest_le_foldl (n : Nesting) (ls : List Text) :
    n.deepest ≤ (ls.foldl Nesting.line n).deepest := by
  induction ls generalizing n with
  | nil => exact Nat.le_refl _
  | cons l ls ih => exact (n.deepest_le_line l).trans (ih _)

/-- The loops of the code are found again in the loop around it, which is one itself. -/
theorem maxLoopNesting_inLoop (code : Text) :
    maxLoopNesting code ≤ maxLoopNesting (inLoop code) ∧ 1 ≤ maxLoopNesting (inLoop code) := by
  have hfirst : Nesting.line {} loopLine = { depth := 1, deepest := 1 } := by decide
  have hlast : ∀ n : Nesting, (n.line (text "\x7d")).deepest = n.deepest := fun _ => rfl
  have hrun : maxLoopNesting (inLoop code) =
      (code.lines.foldl Nesting.line { depth := 1, deepest := 1 }).deepest := by
    rw [maxLoopNesting, lines_inLoop, List.foldl_cons, hfirst, List.foldl_append, List.foldl_cons,
      List.foldl_nil, hlast]
  have hle : Nesting.Le {} { depth := 1, deepest := 1 } := ⟨Nat.zero_le _, Nat.zero_le _⟩
  rw [hrun]
  refine ⟨(hle.foldl code.lines).deepest, ?_⟩
  exact Nesting.deepest_le_foldl { depth := 1, deepest := 1 } code.lines

/-! ### Signals -/

/-- The head of the loop adds a call site of its keyword, which is no declared name. -/
theorem isRecursive_inLoop {code : Text} (h : text "for" ∉ declaration.tokens code) :
    isRecursive (inLoop code) = isRecursive code := by
  simp only [isRecursive, readsLoopLine_callSite.tokens_inLoop steady_callSite,
    readsLoopLine_declaration.tokens_inLoop steady_declaration, List.nil_append]
  rw [Bool.eq_iff_iff, List.any_eq_true, List.any_eq_true]
  refine exists_congr fun declared => and_congr_right fun hmem => ?_
  have hne : text "for" ≠ declared := by
    rintro rfl
    exact h hmem
  rw [List.singleton_append, List.count_cons_of_ne hne]

theorem hasMidpoint_inLoop (code : Text) : hasMidpoint (inLoop code) = hasMidpoint code := by
  have hline : floorsHalf loopLine = false := by decide
  have hend : floorsHalf (text "\x7d") = false := by decide
  have hshift : ReadsLoopLine shiftByOne [] := readsLoopLine_of_plain rfl fun _ => rfl
  have hmid : ReadsLoopLine midAssignment [] := readsLoopLine_of_plain rfl fun _ => rfl
  rw [hasMidpoint, hshift.occursIn_inLoop steady_shiftByOne,
    hmid.occursIn_inLoop steady_midAssignment, lines_inLoop, List.any_cons, List.any_append,
    List.any_cons, List.any_nil, hline, hend, Bool.or_false, Bool.or_false, Bool.false_or,
    hasMidpoint]

theorem branchingFactor_inLoop (code : Text) :
    branchingFactor (inLoop code) = branchingFactor code := by
  have hline : callsOnLine loopLine = 0 := by decide
  have hend : callsOnLine (text "\x7d") = 0 := by decide
  rw [branchingFactor, lines_inLoop, List.foldl_cons, List.foldl_append, List.foldl_cons,
    List.foldl_nil, hline, hend, Nat.max_zero, Nat.max_zero, branchingFactor]

theorem estimateSpace_inLoop (code : Text) (recursive : Bool) :
    estimateSpace (inLoop code) recursive = estimateSpace code recursive :=
  estimateSpace_congr (fun p hp =>
    (readsLoopLine_growingStorage p hp).occursIn_inLoop (steady_growingStorage p hp) code) recursive

theorem cyclomatic_inLoop (code : Text) : cyclomatic (inLoop code) = cyclomatic code + 1 := by
  rw [cyclomatic, readsLoopLine_decisionPoint.tokens_inLoop steady_decisionPoint,
    List.length_append, List.length_singleton, cyclomatic, Nat.add_left_comm, Nat.add_comm]

/-- The signals of the loop are those of the code, but for the depth. -/
theorem detect_inLoop {code : Text} (h : text "for" ∉ declaration.tokens code) :
    detect (inLoop code) =
      { detect code with maxLoopNesting := maxLoopNesting (inLoop code) } := by
  have hwhile : ReadsLoopLine whileWord [] := readsLoopLine_of_plain rfl fun _ => rfl
  have hslice : ReadsLoopLine (methodCall "slice") [] := readsLoopLine_of_plain rfl fun _ => rfl
  simp only [detect, isRecursive_inLoop h, hasMidpoint_inLoop, branchingFactor_inLoop,
    hwhile.occursIn_inLoop steady_whileWord,
    hslice.occursIn_inLoop (steady_methodCall (by decide))]

end BigO.Braced
