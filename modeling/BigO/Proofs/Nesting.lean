import BigO.Braced.Signals
import BigO.Indented.Signals
import BigO.Proofs.Text.Word

/-! The depth of loops in a scan by lines. A line goes at most one level deeper, and only a line
that is taken for the header of a loop does. Each such line holds a decision, so the depth is less
than the number of decisions plus one, however the two are counted. -/

namespace BigO

open Pattern

/-- A scan by lines whose state has a depth and the greatest depth met so far. -/
structure DepthScan (σ : Type) where
  step : σ → Text → σ
  depth : σ → Nat
  deepest : σ → Nat
  /-- The lines that may go one level deeper. -/
  opens : Text → Bool
  depth_step (s : σ) (l : Text) : depth (step s l) ≤ depth s + (opens l).toNat
  deepest_step (s : σ) (l : Text) :
    deepest (step s l) ≤ max (deepest s) (depth s + (opens l).toNat)

/-- No scan gets deeper than there are lines that go deeper. -/
theorem DepthScan.deepest_foldl_le {σ : Type} (scan : DepthScan σ) (ls : List Text) (s : σ) :
    scan.deepest (ls.foldl scan.step s) ≤
      max (scan.deepest s) (scan.depth s + ls.countP scan.opens) := by
  induction ls generalizing s with
  | nil => exact Nat.le_max_left _ _
  | cons l ls ih =>
      have hrun := ih (scan.step s l)
      have hdepth := scan.depth_step s l
      have hdeepest := scan.deepest_step s l
      rw [List.foldl_cons, List.countP_cons]
      cases hopens : scan.opens l with
      | false =>
          rw [hopens, Bool.toNat_false] at hdepth hdeepest
          rw [if_neg Bool.false_ne_true]
          omega
      | true =>
          rw [hopens, Bool.toNat_true] at hdepth hdeepest
          rw [if_pos rfl]
          omega

/-- Lines of which each gives something are no more than what they give together. -/
theorem countP_le_length_flatMap {β : Type} {q : Text → Bool} {f : Text → List β}
    (h : ∀ l, q l = true → f l ≠ []) (ls : List Text) : ls.countP q ≤ (ls.flatMap f).length := by
  induction ls with
  | nil => exact Nat.le_refl 0
  | cons l ls ih =>
      rw [List.countP_cons, List.flatMap_cons, List.length_append]
      by_cases hl : q l = true
      · have hpos := List.length_pos_iff.mpr (h l hl)
        rw [if_pos hl]
        omega
      · rw [if_neg hl]
        omega

/-! ### Braced code -/

namespace Braced

/-- The line has a loop keyword and an opening brace. -/
def opensLoop (line : Text) : Bool :=
  loopWord.occursIn line && line.contains (CodePoint.ofChar '{')

theorem Nesting.line_of_opens (n : Nesting) {line : Text} (h : opensLoop line = true) :
    n.line line = { depth := n.depth + 1 - line.count (CodePoint.ofChar '}')
                    deepest := max n.deepest (n.depth + 1) } := by
  rw [opensLoop] at h
  simp only [Nesting.line, h, if_true]

theorem Nesting.line_of_not_opens (n : Nesting) {line : Text} (h : opensLoop line = false) :
    n.line line = { n with depth := n.depth - line.count (CodePoint.ofChar '}') } := by
  rw [opensLoop] at h
  simp only [Nesting.line, h, Bool.false_eq_true, if_false]

/-- The scan by braces. -/
def depthScan : DepthScan Nesting where
  step := Nesting.line
  depth := Nesting.depth
  deepest := Nesting.deepest
  opens := opensLoop
  depth_step n line := by
    cases h : opensLoop line with
    | false =>
        rw [n.line_of_not_opens h]
        exact Nat.sub_le _ _
    | true =>
        rw [n.line_of_opens h]
        exact Nat.sub_le _ _
  deepest_step n line := by
    cases h : opensLoop line with
    | false =>
        rw [n.line_of_not_opens h]
        exact Nat.le_max_left _ _
    | true =>
        rw [n.line_of_opens h]
        exact Nat.le_refl _

theorem inline_decisionPoint : decisionPoint.Inline := by
  refine (inline_wholeWord _).orElse ?_
  exact (inline_exactly (w := text "&&") (by decide)).orElse
    (inline_exactly (w := text "||") (by decide))

/-- A decision begins with a word character or an operator. -/
theorem begins_decisionPoint :
    decisionPoint.Begins fun c => c.isWord = true ∨ c = CodePoint.ofChar '&' ∨
      c = CodePoint.ofChar '|' := by
  refine Begins.orElse ((begins_wholeWord _).mono fun c hc => Or.inl hc) (Begins.anywhere ?_)
  refine Reader.Begins.orElse ?_ ?_
  · exact (Reader.begins_exactly _ _).mono fun c hc => Or.inr (Or.inl hc)
  · exact (Reader.begins_exactly _ _).mono fun c hc => Or.inr (Or.inr hc)

/-- The keywords of loops are decisions. -/
theorem readsIn_decisionPoint {words : List Text}
    (h : words ⊆ [text "if", text "while", text "for", text "case"]) {t : Text}
    (hread : ReadsIn (wholeWord words) none t) : decisionPoint.tokens t ≠ [] := by
  rw [ne_eq, tokens_eq_tokensFrom, begins_decisionPoint.tokensFrom_eq_nil_iff, Classical.not_not]
  refine (hread.wholeWord_mono h).mono fun b s hs => ?_
  obtain ⟨hit, hit'⟩ := Option.isSome_iff_exists.mp hs
  exact Option.isSome_iff_exists.mpr ⟨hit, Reader.orElse_eq_some.mpr (Or.inl hit')⟩

theorem decisionPoint_of_opensLoop {line : Text} (h : opensLoop line = true) :
    decisionPoint.tokens line ≠ [] := by
  rw [opensLoop, Bool.and_eq_true] at h
  exact readsIn_decisionPoint (by decide) (((begins_wholeWord _).occursIn_iff line).mp h.1)

/-- **Braces and decisions**: the depth is less than the number of decisions plus one. -/
theorem maxLoopNesting_lt_cyclomatic (masked : Text) :
    maxLoopNesting masked < cyclomatic masked := by
  have hdepth := depthScan.deepest_foldl_le masked.lines {}
  have hlines := countP_le_length_flatMap (q := opensLoop) (f := decisionPoint.tokens)
    (fun _ => decisionPoint_of_opensLoop) masked.lines
  rw [← inline_decisionPoint.tokens_eq_flatMap_lines] at hlines
  change maxLoopNesting masked ≤ max 0 (0 + masked.lines.countP opensLoop) at hdepth
  rw [cyclomatic]
  omega

theorem one_lt_cyclomatic_of_hasWhile {masked : Text} (h : whileWord.occursIn masked = true) :
    1 < cyclomatic masked := by
  have hread := ((begins_wholeWord _).occursIn_iff masked).mp h
  have hpos := List.length_pos_iff.mpr (readsIn_decisionPoint (by decide) hread)
  rw [cyclomatic]
  omega

end Braced

/-! ### Indented code -/

namespace Indented

theorem stripRight_isFront (t : Text) : t.stripRight <+: t := by
  have hsuffix := List.dropWhile_suffix CodePoint.isBlank (l := t.reverse)
  rw [← List.reverse_prefix, List.reverse_reverse] at hsuffix
  exact hsuffix

theorem wordStart_lastOf {u : Text} (hu : ∀ c ∈ u, c.isWord = false) {before : Option CodePoint}
    (h : wordStart before = true) : wordStart (lastOf u before) = true := by
  rw [lastOf]
  cases hlast : u.getLast? with
  | none => exact h
  | some c =>
      rw [Option.some_or, wordStart, Option.any_some, hu c (List.mem_of_getLast? hlast)]
      rfl

/-- What a line begins with, blanks apart, stands behind blanks in it. -/
theorem exists_blanks_of_prefix_strip {w line : Text} (h : w <+: line.strip) :
    ∃ ws rest, (∀ c ∈ ws, c.isBlank = true) ∧ line = ws ++ (w ++ rest) := by
  obtain ⟨rest, hrest⟩ := h.trans (stripRight_isFront _)
  refine ⟨line.takeWhile CodePoint.isBlank, rest, List.all_eq_true.mp List.all_takeWhile, ?_⟩
  rw [hrest]
  exact (List.takeWhile_append_dropWhile ..).symm

/-- A word and a space at the front of a line, blanks apart, are read there. -/
theorem readsIn_of_prefix_strip {words : List Text} {w opening line : Text}
    (hword : ∀ rest, (opening ++ rest).takeWhile CodePoint.isWord = w) (hw : w ≠ [])
    (hmem : w ∈ words) (h : opening <+: line.strip) : ReadsIn (wholeWord words) none line := by
  obtain ⟨ws, rest, hws, rfl⟩ := exists_blanks_of_prefix_strip h
  refine ⟨ws, opening ++ rest, rfl, isSome_wholeWord_iff.mpr ⟨?_, ?_⟩⟩
  · exact wordStart_lastOf (fun c hc => CodePoint.isWord_of_isBlank (hws c hc)) rfl
  · rw [hword]
    exact ⟨hw, hmem⟩

theorem inline_decisionPoint : decisionPoint.Inline := inline_wholeWord _

theorem begins_decisionPoint : decisionPoint.Begins (CodePoint.isWord · = true) :=
  begins_wholeWord _

theorem tokens_decisionPoint_ne_nil {t : Text} (h : ReadsIn decisionPoint none t) :
    decisionPoint.tokens t ≠ [] := by
  rwa [ne_eq, tokens_eq_tokensFrom, begins_decisionPoint.tokensFrom_eq_nil_iff, Classical.not_not]

theorem decisionPoint_of_opensLoop {line : Text} (h : opensLoop line = true) :
    decisionPoint.tokens line ≠ [] := by
  refine tokens_decisionPoint_ne_nil ?_
  simp only [opensLoop, beginsWith, List.any_cons, List.any_nil, Bool.or_false, Bool.or_eq_true,
    List.isPrefixOf_iff_prefix] at h
  rcases h with h | h
  · exact readsIn_of_prefix_strip (w := text "for") (fun _ => rfl) (by decide) (by decide) h
  · exact readsIn_of_prefix_strip (w := text "while") (fun _ => rfl) (by decide) (by decide) h

theorem Nesting.line_le (n : Nesting) (line : Text) :
    (n.line line).depth ≤ n.depth + (opensLoop line).toNat ∧
      (n.line line).deepest ≤ max n.deepest (n.depth + (opensLoop line).toNat) := by
  have hstart : (if closesLoops line then 0 else n.depth) ≤ n.depth := by
    split
    · exact Nat.zero_le _
    · exact Nat.le_refl _
  by_cases hblank : line.strip.isEmpty = true
  · rw [Nesting.line, if_pos hblank]
    exact ⟨Nat.le_add_right _ _, Nat.le_max_left _ _⟩
  · rw [Nesting.line, if_neg hblank]
    generalize (if closesLoops line then 0 else n.depth) = start at hstart ⊢
    cases opensLoop line with
    | false => exact ⟨hstart, Nat.le_max_left _ _⟩
    | true =>
        have hdepth : start + 1 ≤ n.depth + 1 := Nat.succ_le_succ hstart
        exact ⟨hdepth, Nat.max_le.mpr
          ⟨Nat.le_max_left _ _, Nat.le_trans hdepth (Nat.le_max_right _ _)⟩⟩

/-- The scan by indentation. -/
def depthScan : DepthScan Nesting where
  step := Nesting.line
  depth := Nesting.depth
  deepest := Nesting.deepest
  opens := opensLoop
  depth_step n line := (n.line_le line).1
  deepest_step n line := (n.line_le line).2

/-- **Indentation and decisions**: the depth is less than the number of decisions plus one. -/
theorem maxLoopNesting_lt_cyclomatic (code : Text) : maxLoopNesting code < cyclomatic code := by
  have hdepth := depthScan.deepest_foldl_le code.lines {}
  have hlines := countP_le_length_flatMap (q := opensLoop) (f := decisionPoint.tokens)
    (fun _ => decisionPoint_of_opensLoop) code.lines
  rw [← inline_decisionPoint.tokens_eq_flatMap_lines] at hlines
  change maxLoopNesting code ≤ max 0 (0 + code.lines.countP opensLoop) at hdepth
  rw [cyclomatic]
  omega

theorem one_lt_cyclomatic_of_while {code : Text} (h : (word "while").occursIn code = true) :
    1 < cyclomatic code := by
  have hread := ((begins_wholeWord _).occursIn_iff code).mp h
  have hpos := List.length_pos_iff.mpr
    (tokens_decisionPoint_ne_nil (hread.wholeWord_mono (by decide)))
  rw [cyclomatic]
  omega

end Indented

end BigO
