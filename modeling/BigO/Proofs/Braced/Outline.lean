import BigO.Proofs.Nesting

/-! Code laid out by loops: each loop has its header on one line, its body below and its closing brace
on a line of its own, and every other line is free of braces. On such code the one counter of the scan
by braces is a true depth. Behind each part it stands again where it stood before, so a part only adds
its own height to the depth at which it begins. -/

namespace BigO.Braced

open Pattern

/-- The text stays on its line and has no braces. -/
def IsBraceless (t : Text) : Prop :=
  CodePoint.ofChar '{' ∉ t ∧ CodePoint.ofChar '}' ∉ t ∧ CodePoint.ofChar '\n' ∉ t

instance (t : Text) : Decidable (IsBraceless t) :=
  inferInstanceAs (Decidable (_ ∧ _ ∧ _))

/-- A line that is no header, whatever words are on it. -/
structure Statement where
  line : Text
  braceless : IsBraceless line := by decide

/-- The header of a loop: a line with a loop keyword and with no brace but the one at its end. -/
structure Header where
  front : Text
  braceless : IsBraceless front := by decide
  keyword : (front ++ [CodePoint.ofChar '{']).HasWord (text "for") ∨
    (front ++ [CodePoint.ofChar '{']).HasWord (text "while")

def Header.line (h : Header) : Text := h.front ++ [CodePoint.ofChar '{']

/-- A forest of loops with statements for leaves, as its first tree and the forest behind it. -/
inductive Outline where
  | done
  | statement (s : Statement) (rest : Outline)
  | loop (header : Header) (body rest : Outline)

namespace Outline

/-- How many loops stand inside of one another. -/
def height : Outline → Nat
  | .done => 0
  | .statement _ rest => rest.height
  | .loop _ body rest => max (body.height + 1) rest.height

def closingLine : Text := [CodePoint.ofChar '}']

def lines : Outline → List Text
  | .done => []
  | .statement s rest => s.line :: rest.lines
  | .loop header body rest => header.line :: (body.lines ++ closingLine :: rest.lines)

/-- The code: the lines with line feeds between them. -/
def code (o : Outline) : Text := Text.join (text "\n") o.lines

theorem lineFeed_notMem_of_mem_lines (o : Outline) :
    ∀ l ∈ o.lines, CodePoint.ofChar '\n' ∉ l := by
  induction o with
  | done => exact fun l h => absurd h List.not_mem_nil
  | statement s rest ih => exact List.forall_mem_cons.mpr ⟨s.braceless.2.2, ih⟩
  | loop header body rest ihBody ihRest =>
      have hheader : CodePoint.ofChar '\n' ∉ header.line := by
        rw [Header.line, List.mem_append, not_or]
        exact ⟨header.braceless.2.2, by decide⟩
      refine List.forall_mem_cons.mpr ⟨hheader, List.forall_mem_append.mpr ⟨ihBody, ?_⟩⟩
      exact List.forall_mem_cons.mpr ⟨by decide, ihRest⟩

end Outline

/-! ### What a line does -/

theorem Statement.line_eq (s : Statement) (n : Nesting) : n.line s.line = n := by
  obtain ⟨hopen, hclose, -⟩ := s.braceless
  have hopens : opensLoop s.line = false := by
    rw [opensLoop, Bool.and_eq_false_iff]
    exact Or.inr (by simpa using hopen)
  rw [n.line_of_not_opens hopens, List.count_eq_zero_of_not_mem hclose, Nat.sub_zero]

theorem Header.opensLoop_line (h : Header) : opensLoop h.line = true := by
  have hkeyword : ReadsIn loopWord none h.line := by
    rcases h.keyword with hfor | hwhile
    · exact readsIn_of_hasWord (by decide) (by decide) (by decide) hfor
    · exact readsIn_of_hasWord (by decide) (by decide) (by decide) hwhile
  rw [opensLoop, Bool.and_eq_true]
  refine ⟨((begins_wholeWord _).occursIn_iff h.line).mpr hkeyword, ?_⟩
  exact List.contains_iff_mem.mpr (List.mem_append_right _ List.mem_cons_self)

theorem Header.line_eq (h : Header) (n : Nesting) :
    n.line h.line = { depth := n.depth + 1, deepest := max n.deepest (n.depth + 1) } := by
  have hclose : CodePoint.ofChar '}' ∉ h.line := by
    rw [Header.line, List.mem_append, not_or]
    exact ⟨h.braceless.2.1, by decide⟩
  rw [n.line_of_opens h.opensLoop_line, List.count_eq_zero_of_not_mem hclose, Nat.sub_zero]

theorem line_closingLine (n : Nesting) :
    n.line Outline.closingLine = { n with depth := n.depth - 1 } :=
  n.line_of_not_opens (by decide)

theorem line_nil (n : Nesting) : n.line [] = n := n.line_of_not_opens (by decide)

/-! ### Runs -/

/-- A run over an outline leaves the depth as it was. -/
theorem Outline.foldl_lines (o : Outline) {n : Nesting} (hn : n.depth ≤ n.deepest) :
    o.lines.foldl Nesting.line n =
      { depth := n.depth, deepest := max n.deepest (n.depth + o.height) } := by
  induction o generalizing n with
  | done =>
      rw [height, Nat.add_zero, Nat.max_eq_left hn]
      rfl
  | statement s rest ih => rw [lines, List.foldl_cons, s.line_eq, ih hn, height]
  | loop header body rest ihBody ihRest =>
      rw [lines, List.foldl_cons, header.line_eq, List.foldl_append, ihBody (Nat.le_max_right _ _),
        List.foldl_cons, line_closingLine, Nat.add_sub_cancel]
      rw [ihRest (by simp only; omega), height]
      congr 1
      simp only
      omega

/-- A text of these lines is scanned as the lines are; without any it has one, which is empty. -/
theorem maxLoopNesting_join {ls : List Text} (h : ∀ l ∈ ls, CodePoint.ofChar '\n' ∉ l) :
    maxLoopNesting (Text.join (text "\n") ls) = (ls.foldl Nesting.line {}).deepest := by
  cases ls with
  | nil => decide
  | cons l ls => rw [maxLoopNesting, Text.lines_join h (List.cons_ne_nil l ls)]

/-- **Depth of an outline**: on code laid out by loops, with a line feed at its end or without one,
the depth that the braces tell is the number of loops inside of one another. -/
theorem maxLoopNesting_outline (o : Outline) :
    maxLoopNesting o.code = o.height ∧
      maxLoopNesting (o.code ++ text "\n") = o.height := by
  have hrun : maxLoopNesting o.code = o.height := by
    rw [Outline.code, maxLoopNesting_join o.lineFeed_notMem_of_mem_lines,
      o.foldl_lines (Nat.le_refl 0)]
    simp only [Nat.zero_add, Nat.zero_max]
  refine ⟨hrun, ?_⟩
  have hlines : (o.code ++ text "\n").lines = o.code.lines ++ [[]] :=
    Text.lines_append_lineFeed o.code []
  rw [maxLoopNesting, hlines, List.foldl_append, List.foldl_cons, List.foldl_nil, line_nil]
  exact hrun

example :
    let header : Header :=
      { front := text "for (;;) ", keyword := Or.inl (hasWord_of_occursIn (by decide)) }
    let inner := Outline.loop header (.statement { line := text "while (x)" } .done) .done
    let o := Outline.loop header inner .done
    o.code = text "for (;;) \x7b\nfor (;;) \x7b\nwhile (x)\n\x7d\n\x7d" ∧ o.height = 2 ∧
      maxLoopNesting o.code = 2 := by decide

end BigO.Braced
