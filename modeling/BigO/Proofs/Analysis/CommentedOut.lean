import BigO.Proofs.Analysis.Blank
import BigO.Proofs.Source.BlockComment

/-! Code that is commented out. When a comment mark stands in front of every line, removing block
comments may join lines, yet a mark stays behind every line feed that is left; so line comments take
all but the line feeds. -/

namespace BigO

open Source

/-- The code with a mark in front of every line. -/
def commentedOut (mark code : Text) : Text :=
  Text.join (text "\n") (code.lines.map (mark ++ ·))

theorem commentedOut_last (mark : Text) {l : Text} (hl : CodePoint.ofChar '\n' ∉ l) :
    commentedOut mark l = mark ++ l := by
  rw [commentedOut, Text.lines_of_notMem hl]
  exact List.append_nil _

theorem commentedOut_line (mark : Text) {l : Text} (hl : CodePoint.ofChar '\n' ∉ l) (t : Text) :
    commentedOut mark (l ++ CodePoint.ofChar '\n' :: t) =
      mark ++ (l ++ CodePoint.ofChar '\n' :: commentedOut mark t) := by
  have hrest : t.lines.map (mark ++ ·) ≠ [] := by
    rw [ne_eq, List.map_eq_nil_iff]
    exact Text.lines_ne_nil t
  rw [commentedOut, Text.lines_line hl, List.map_cons, Text.join,
    List.intercalate_cons_of_ne_nil hrest, List.append_assoc, List.append_assoc]
  rfl

/-! ### Marks behind line feeds -/

/-- The mark stands behind every line feed of the text. -/
def MarkedBehind (mark : Text) : Text → Prop
  | [] => True
  | c :: t => (c = CodePoint.ofChar '\n' → mark <+: t) ∧ MarkedBehind mark t

namespace MarkedBehind

variable {mark : Text}

theorem of_append {u t : Text} (h : MarkedBehind mark (u ++ t)) : MarkedBehind mark t := by
  induction u with
  | nil => exact h
  | cons c u ih => exact ih h.2

theorem append {l t : Text} (hl : CodePoint.ofChar '\n' ∉ l) (h : MarkedBehind mark t) :
    MarkedBehind mark (l ++ t) := by
  induction l with
  | nil => exact h
  | cons c l ih =>
      rw [List.mem_cons, not_or] at hl
      exact ⟨fun hc => absurd hc.symm hl.1, ih hl.2⟩

theorem commentedOut (mark : Text) (hmark : CodePoint.ofChar '\n' ∉ mark) (code : Text) :
    mark <+: commentedOut mark code ∧ MarkedBehind mark (commentedOut mark code) := by
  induction code using Text.line_induction with
  | last l hl =>
      rw [commentedOut_last mark hl]
      refine ⟨List.prefix_append _ _, append hmark ?_⟩
      rw [← List.append_nil l]
      exact append hl trivial
  | line l t hl ih =>
      rw [commentedOut_line mark hl]
      exact ⟨List.prefix_append _ _, append hmark (append hl ⟨fun _ => ih.1, ih.2⟩)⟩

end MarkedBehind

/-! ### Slashes and block comments -/

/-- No block comment begins in the mark, so where it is in front it stays there. -/
theorem slashes_prefix_strip {t : Text} (h : text "// " <+: t) :
    text "// " <+: stripBlockComments t := by
  obtain ⟨rest, rfl⟩ := h
  have hclosed : BlocksClosed (text "// ") := by decide
  rw [stripBlockComments_append hclosed fun hlast => absurd hlast (by decide)]
  exact List.prefix_append _ _

/-- Whatever block comments go, the mark stays behind every line feed that is left. -/
theorem MarkedBehind.stripped {t : Text} (h : MarkedBehind (text "// ") t) :
    MarkedBehind (text "// ") (stripBlockComments t) := by
  induction t using block_induction with
  | nil => exact trivial
  | code c rest hopen ih =>
      rw [stripBlockComments_code hopen]
      exact ⟨fun hc => slashes_prefix_strip (h.1 hc), ih h.2⟩
  | comment body rest hbody ih =>
      rw [stripBlockComments_comment hbody]
      simp only [← List.append_assoc] at h
      exact ih h.of_append
  | unclosed rest hrest => rwa [stripBlockComments_unclosed hrest]

/-- Where a comment begins in front and behind every line feed, only the line feeds are left. -/
theorem dropComments_bare {p : Pattern Unit} (hp : IsLineComment p) {mark : Text}
    (hmark : ∀ s, mark <+: s → (p (some (CodePoint.ofChar '\n')) s).isSome)
    {before : Option CodePoint} {t : Text} (hfront : AtLineEnd t ∨ (p before t).isSome)
    (h : MarkedBehind mark t) : (dropComments p before t).IsBare := by
  induction before, t using comment_induction p with
  | nil before => exact fun c hc => absurd hc List.not_mem_nil
  | code before c t hnone ih =>
      have hline := hfront.resolve_right (by rw [hnone]; exact Bool.false_ne_true)
      obtain rfl := hline c rfl
      rw [hp.dropComments_lineFeed]
      exact List.forall_mem_cons.mpr ⟨rfl, ih (Or.inr (hmark t (h.1 rfl))) h.2⟩
  | comment before w t hw hopen ih =>
      have hrest := h.of_append
      rw [hp.dropComments_some hopen, fromLineEnd_append_lineFeed hw, hp.dropComments_lineFeed]
      exact List.forall_mem_cons.mpr ⟨rfl, ih (Or.inr (hmark t (hrest.1 rfl))) hrest.2⟩
  | last before w hw hopen =>
      rw [hp.dropComments_some hopen, fromLineEnd_of_notMem hw]
      exact fun c hc => absurd hc List.not_mem_nil

theorem isBare_stripBracedComments (code : Text) :
    (stripBracedComments (commentedOut (text "// ") code)).IsBare := by
  obtain ⟨hfront, hbehind⟩ := MarkedBehind.commentedOut (text "// ") (by decide) code
  have hmark : ∀ before s, text "// " <+: s → (slashComment before s).isSome := fun _ s hs =>
    isSome_slashComment.mpr ((List.prefix_append lineOpen (text " ")).trans hs)
  rw [stripBracedComments_eq]
  exact dropComments_bare isLineComment_slashComment (hmark _)
    (Or.inr (hmark none _ (slashes_prefix_strip hfront))) hbehind.stripped

theorem isBare_stripIndentedComments (code : Text) :
    (stripIndentedComments (commentedOut (text "# ") code)).IsBare := by
  obtain ⟨hfront, hbehind⟩ := MarkedBehind.commentedOut (text "# ") (by decide) code
  have hmark : ∀ before, before ≠ some (CodePoint.ofChar '\\') → ∀ s, text "# " <+: s →
      (hashComment before s).isSome := by
    rintro before hbefore _ ⟨rest, rfl⟩
    exact isSome_hashComment.mpr ⟨hbefore, rfl⟩
  rw [stripIndentedComments_eq]
  exact dropComments_bare isLineComment_hashComment (hmark _ (by decide))
    (Or.inr (hmark none (by decide) _ hfront)) hbehind

/-- Between the marks of a block comment nothing is left of the code. -/
theorem stripBracedComments_wrapped {code : Text} (h : ¬ blockClose <:+: code) :
    stripBracedComments (text "/*\n" ++ code ++ text "\n*/") = [] := by
  have hfront : ¬ blockClose <:+: text "\n" ++ code := by
    show ¬ blockClose <:+: CodePoint.ofChar '\n' :: code
    rw [List.infix_cons_iff, not_or, blockClose, List.cons_prefix_cons]
    exact ⟨fun hmark => absurd hmark.1 (by decide), h⟩
  have hbody := BeginsApart.not_infix (s := text "\n") (by decide) hfront (by decide)
  have hsplit : text "/*\n" ++ code ++ text "\n*/" =
      blockOpen ++ (text "\n" ++ code ++ text "\n" ++ (blockClose ++ [])) := by
    simp only [List.append_assoc]
    rfl
  rw [hsplit, stripBracedComments, stripBlockComments_comment hbody]
  rfl

/-! ### Estimates -/

/-- The labels of constant growth and no decision. -/
structure Estimate.IsConstant (e : Estimate) : Prop where
  time_eq : e.time = Growth.constant.label
  space_eq : e.space = Growth.constant.label
  cyclomatic_eq : e.cyclomatic = 1

theorem analyzeValue_isConstant {code : Text} {language : Json} {layout : Layout}
    (hlanguage : Layout.ofTag (tagOf language) = layout) {rule : Text} {lines weight : Nat}
    (h : analyze? code layout =
      conclude (.ok ⟨rule, Growth.constant.label, none⟩) .constant 1 lines weight) :
    (analyzeValue (.str code) language).IsConstant := by
  subst hlanguage
  rcases analyzeValue_eq code language with ⟨e, hanalyze, he⟩ | hbaseline
  · rw [hanalyze] at h
    obtain ⟨v, hv, htime, hspace, hcyclomatic⟩ := conclude_eq_ok h.symm
    cases hv
    simp only [Option.getD_none, Growth.normalize_label] at htime hspace
    rw [he]
    exact ⟨htime, hspace, hcyclomatic⟩
  · rw [hbaseline]
    exact ⟨rfl, rfl, rfl⟩

/-- **Code that is commented out is of constant growth**, with a mark in front of every line in
either reading, and in a block comment of its own. -/
theorem commented_out_is_constant (language : Json) (code : Text) :
    (Layout.ofTag (tagOf language) = .indented →
      (analyzeValue (.str (commentedOut (text "# ") code)) language).IsConstant) ∧
    (Layout.ofTag (tagOf language) = .braced →
      (analyzeValue (.str (commentedOut (text "// ") code)) language).IsConstant ∧
      (¬ blockClose <:+: code →
        analyzeValue (.str (text "/*\n" ++ code ++ text "\n*/")) language =
          { time := Growth.constant.label, space := Growth.constant.label
            maintainability := 98, cyclomatic := 1 })) := by
  refine ⟨fun hlanguage => ?_, fun hlanguage => ⟨?_, fun hclose => ?_⟩⟩
  · exact analyzeValue_isConstant hlanguage
      (Indented.analyze_bare (isBare_stripIndentedComments code))
  · exact analyzeValue_isConstant hlanguage
      (Braced.analyze_bare (isBare_stripBracedComments code))
  · have hempty : Braced.analyze [] = .ok { time := Growth.constant.label
                                            space := Growth.constant.label
                                            maintainability := 98, cyclomatic := 1 } := by
      decide +kernel
    simp only [analyzeValue, analyze, hlanguage, analyze?, stripBracedComments_wrapped hclose,
      hempty]

/-- Comment marks and open quotes in the code change nothing; the closing mark fuses two lines. -/
theorem commented_out_is_constant_at_marks :
    (Layout.ofTag (tagOf (.str (text "python"))) = .indented ∧
      (analyzeValue (.str (commentedOut (text "# ") (text "for x in y: # \\\nwhile 1: \"#")))
        (.str (text "python"))).IsConstant) ∧
    (Layout.ofTag (tagOf .null) = .braced ∧
      (analyzeValue (.str (commentedOut (text "// ") (text "/* \"for (;;) \x7b\n*/ // while (1)")))
        .null).IsConstant ∧
      ¬ blockClose <:+: text "for (;;) \x7b /* '\n// \x7d *" ∧
      analyzeValue (.str (text "/*\n" ++ text "for (;;) \x7b /* '\n// \x7d *" ++ text "\n*/"))
          .null =
        { time := Growth.constant.label, space := Growth.constant.label
          maintainability := 98, cyclomatic := 1 }) := by
  have hindented : Layout.ofTag (tagOf (.str (text "python"))) = .indented := by decide +kernel
  have hbraced : Layout.ofTag (tagOf .null) = .braced := by decide
  have hclose : ¬ blockClose <:+: text "for (;;) \x7b /* '\n// \x7d *" := by decide
  refine ⟨⟨hindented, (commented_out_is_constant _ _).1 hindented⟩, hbraced, ?_, hclose, ?_⟩
  · exact ((commented_out_is_constant .null _).2 hbraced).1
  · exact ((commented_out_is_constant .null _).2 hbraced).2 hclose

end BigO
