import BigO.Proofs.Source.BlockComment
import BigO.Proofs.Source.LineComment
import BigO.Analysis

/-! Comments never show in an estimate. A closed block comment goes wherever it stands, and so does
a comment to the end of the line after a hash sign. Two slashes are looked for last, in what the
block comments leave, so a comment behind them goes as long as no block comment runs from it over
the end of its line and the slashes are still there. -/

namespace BigO

open Source

/-- In the braced reading an estimate depends on the text without comments alone. -/
theorem analyzeValue_congr_braced {language : Json}
    (hlanguage : Layout.ofTag (tagOf language) = .braced) {code code' : Text}
    (h : stripBracedComments code = stripBracedComments code') :
    analyzeValue (.str code) language = analyzeValue (.str code') language := by
  simp only [analyzeValue, analyze, hlanguage, analyze?, h]

/-- So it does in the indented reading. -/
theorem analyzeValue_congr_indented {language : Json}
    (hlanguage : Layout.ofTag (tagOf language) = .indented) {code code' : Text}
    (h : stripIndentedComments code = stripIndentedComments code') :
    analyzeValue (.str code) language = analyzeValue (.str code') language := by
  simp only [analyzeValue, analyze, hlanguage, analyze?, h]

/-! ### Block comments and hash signs -/

theorem stripBracedComments_block {p c : Text} (hp : BlocksClosed p)
    (hlast : p.getLast? ≠ some (CodePoint.ofChar '/')) (hc : ¬ blockClose <:+: c) (s : Text) :
    stripBracedComments (p ++ blockOpen ++ c ++ blockClose ++ s) =
      stripBracedComments (p ++ s) := by
  have hmark : ∀ x, NoMarkAcross p x := fun x h => absurd h hlast
  simp only [stripBracedComments_eq, List.append_assoc]
  rw [stripBlockComments_append hp (hmark _), stripBlockComments_comment hc,
    stripBlockComments_append hp (hmark _)]

theorem stripIndentedComments_hash {a t b : Text} (ha : a.getLast? ≠ some (CodePoint.ofChar '\\'))
    (ht : CodePoint.ofChar '\n' ∉ t) (hb : AtLineEnd b) :
    stripIndentedComments (a ++ CodePoint.ofChar '#' :: t ++ b) =
      stripIndentedComments (a ++ b) := by
  have hk : CodePoint.ofChar '\n' ∉ CodePoint.ofChar '#' :: t := by
    rw [List.mem_cons, not_or]
    exact ⟨by decide, ht⟩
  rw [stripIndentedComments_eq, stripIndentedComments_eq, List.append_assoc]
  refine isLineComment_hashComment.dropComments_insert hk hb ?_ (readsApart_hashComment _ _)
    (readsApart_hashComment _ _)
  rw [isSome_hashComment, Pattern.lastOf, Option.or_none]
  exact ⟨ha, rfl⟩

/-- **Closed comments are invisible**: block comments in the braced reading, and comments to the end
of the line in the indented one. -/
theorem comments_invisible (language : Json) :
    (Layout.ofTag (tagOf language) = .braced → ∀ p c s : Text, BlocksClosed p →
      p.getLast? ≠ some (CodePoint.ofChar '/') → ¬ blockClose <:+: c →
        analyzeValue (.str (p ++ blockOpen ++ c ++ blockClose ++ s)) language =
          analyzeValue (.str (p ++ s)) language) ∧
    (Layout.ofTag (tagOf language) = .indented → ∀ a t b : Text,
      a.getLast? ≠ some (CodePoint.ofChar '\\') → CodePoint.ofChar '\n' ∉ t → AtLineEnd b →
        analyzeValue (.str (a ++ CodePoint.ofChar '#' :: t ++ b)) language =
          analyzeValue (.str (a ++ b)) language) := by
  refine ⟨fun hlanguage p c s hp hlast hc => ?_, fun hlanguage a t b ha ht hb => ?_⟩
  · exact analyzeValue_congr_braced hlanguage (stripBracedComments_block hp hlast hc s)
  · exact analyzeValue_congr_indented hlanguage (stripIndentedComments_hash ha ht hb)

/-- Both readings at a text with marks of every kind in it. -/
theorem comments_invisible_at_marks :
    (Layout.ofTag (tagOf .null) = .braced ∧ BlocksClosed (text "/*/*/ s = \"") ∧
      ¬ blockClose <:+: text "for (;;) \x7b\n// *" ∧
      analyzeValue (.str (text "/*/*/ s = \"" ++ blockOpen ++ text "for (;;) \x7b\n// *" ++
          blockClose ++ text "x\" /* if")) .null =
        analyzeValue (.str (text "/*/*/ s = \"" ++ text "x\" /* if")) .null) ∧
    (Layout.ofTag (tagOf (.str (text " Python"))) = .indented ∧
      AtLineEnd (text "\nfor y in z:") ∧
      analyzeValue (.str (text "x = '#' \\# " ++ CodePoint.ofChar '#' :: text " while 1: #" ++
          text "\nfor y in z:")) (.str (text " Python")) =
        analyzeValue (.str (text "x = '#' \\# " ++ text "\nfor y in z:"))
          (.str (text " Python"))) := by
  have hbraced : Layout.ofTag (tagOf .null) = .braced := by decide
  have hindented : Layout.ofTag (tagOf (.str (text " Python"))) = .indented := by decide +kernel
  refine ⟨⟨hbraced, by decide, by decide, ?_⟩, hindented, by decide, ?_⟩
  · exact (comments_invisible .null).1 hbraced _ _ _ (by decide) (by decide) (by decide)
  · exact (comments_invisible (.str (text " Python"))).2 hindented _ _ _ (by decide) (by decide)
      (by decide)

/-! ### Two slashes -/

/-- Removing block comments leaves the first slash of a line comment. -/
theorem stripBlockComments_lineOpen (t : Text) :
    stripBlockComments (lineOpen ++ t) =
      CodePoint.ofChar '/' :: stripBlockComments (CodePoint.ofChar '/' :: t) :=
  stripBlockComments_code fun h => absurd (blockOpen_prefix_iff.mp h).2 (by decide)

/-- Removing block comments leaves two slashes in front of the line comment, or two slashes stand
on the line before it. -/
def SlashesLeft (p t : Text) : Prop :=
  lineOpen <+: stripBlockComments (lineOpen ++ t) ∨
    EndsInComment slashComment none (stripBlockComments p)

/-- A comment to the end of the line is dropped exactly when its slashes are left. -/
theorem stripBracedComments_line_iff {p t s : Text} (hp : BlocksClosed p)
    (hlast : p.getLast? ≠ some (CodePoint.ofChar '/')) (ht : CodePoint.ofChar '\n' ∉ t)
    (hs : AtLineEnd s) (hblocks : BlocksEndBefore (lineOpen ++ t) s) :
    stripBracedComments (p ++ lineOpen ++ t ++ s) = stripBracedComments (p ++ s) ↔
      SlashesLeft p t := by
  have hmark : ∀ x, NoMarkAcross p x := fun x h => absurd h hlast
  have hsplit : p ++ lineOpen ++ t ++ s = p ++ (lineOpen ++ t ++ s) := by
    simp only [List.append_assoc]
  have hline : CodePoint.ofChar '\n' ∉ stripBlockComments (lineOpen ++ t) := by
    refine fun h => ?_
    have hmem := (stripBlockComments_sublist _).mem h
    rw [List.mem_append] at hmem
    exact hmem.elim (by decide) ht
  rw [stripBracedComments_eq, stripBracedComments_eq, hsplit,
    stripBlockComments_append hp (hmark _), stripBlockComments_append hp (hmark _),
    stripBlockComments_append_of_endBefore hblocks hs.beginsApart]
  refine dropComments_slash_insert_iff ?_ hline ?_ hs.stripped
  · rwa [getLast?_stripBlockComments hp hlast]
  · rw [stripBlockComments_lineOpen]
    exact List.cons_ne_nil _ _

/-- Where a comment is left open, what follows can be swallowed up to the next closing mark. -/
theorem exists_swallowed {language : Json} (hlanguage : Layout.ofTag (tagOf language) = .braced)
    {t : Text} (ht : ¬ BlocksClosed t) :
    ∃ s, AtLineEnd s ∧ analyzeValue (.str (t ++ s)) language ≠ analyzeValue (.str s) language := by
  obtain ⟨front, rest, hfront, hrest, rfl⟩ := exists_unclosed ht
  have hswallow : ∀ x, BeginsApart x → ¬ blockClose <:+: x →
      analyzeValue (.str (front ++ (blockOpen ++ rest) ++ (x ++ blockClose))) language =
        analyzeValue (.str front) language := by
    intro x hx hclose
    refine analyzeValue_congr_braced hlanguage ?_
    rw [stripBracedComments, stripBlockComments_closed_behind hfront hrest hx hclose]
    rfl
  have hdiffer : analyzeValue (.str (text "\nfor (;;) \x7b\n" ++ blockClose)) language ≠
      analyzeValue (.str (text "\n" ++ blockClose)) language := by
    simp only [analyzeValue, analyze, hlanguage]
    decide +kernel
  -- A loop before the closing mark is swallowed as an empty line is, but alone the two differ.
  by_cases hblank : analyzeValue (.str front) language =
      analyzeValue (.str (text "\n" ++ blockClose)) language
  · refine ⟨text "\nfor (;;) \x7b\n" ++ blockClose, by decide, ?_⟩
    rw [hswallow _ (by decide) (by decide), hblank]
    exact Ne.symm hdiffer
  · refine ⟨text "\n" ++ blockClose, by decide, ?_⟩
    rw [hswallow _ (by decide) (by decide)]
    exact hblank

/-- **Line comments are invisible where block comments let them be.** A comment from which no block
comment runs over the end of its line is dropped exactly when its slashes are left; behind one from
which a block comment does run on, something can follow that is swallowed with it. -/
theorem lineComment_invisible (language : Json)
    (hlanguage : Layout.ofTag (tagOf language) = .braced) (t : Text)
    (ht : CodePoint.ofChar '\n' ∉ t) :
    (∀ p s : Text, BlocksClosed p → p.getLast? ≠ some (CodePoint.ofChar '/') → AtLineEnd s →
      BlocksEndBefore (lineOpen ++ t) s →
        (SlashesLeft p t →
          analyzeValue (.str (p ++ lineOpen ++ t ++ s)) language =
            analyzeValue (.str (p ++ s)) language) ∧
        (stripBracedComments (p ++ lineOpen ++ t ++ s) = stripBracedComments (p ++ s) ↔
          SlashesLeft p t)) ∧
    (¬ BlocksClosed (lineOpen ++ t) → ∃ s, AtLineEnd s ∧
      analyzeValue (.str (lineOpen ++ t ++ s)) language ≠ analyzeValue (.str s) language) := by
  refine ⟨fun p s hp hlast hs hblocks => ?_, exists_swallowed hlanguage⟩
  have hdropped := stripBracedComments_line_iff hp hlast ht hs hblocks
  exact ⟨fun hleft => analyzeValue_congr_braced hlanguage (hdropped.mpr hleft), hdropped⟩

/-- A file pattern opens a block comment: nothing closes it here, but something could. -/
theorem lineComment_invisible_at_glob :
    (BlocksClosed (text "x /* y */ = \"") ∧
      BlocksEndBefore (lineOpen ++ text " src/*.js") (text "\nwhile (1) \x7b\x7d") ∧
      SlashesLeft (text "x /* y */ = \"") (text " src/*.js") ∧
      analyzeValue (.str (text "x /* y */ = \"" ++ lineOpen ++ text " src/*.js" ++
          text "\nwhile (1) \x7b\x7d")) .null =
        analyzeValue (.str (text "x /* y */ = \"" ++ text "\nwhile (1) \x7b\x7d")) .null) ∧
    ¬ BlocksClosed (lineOpen ++ text " src/*.js") ∧
      ∃ s, AtLineEnd s ∧ analyzeValue (.str (lineOpen ++ text " src/*.js" ++ s)) .null ≠
        analyzeValue (.str s) .null := by
  have hblocks : BlocksEndBefore (lineOpen ++ text " src/*.js") (text "\nwhile (1) \x7b\x7d") :=
    Or.inr (by decide)
  have hleft : SlashesLeft (text "x /* y */ = \"") (text " src/*.js") := Or.inl (by decide)
  have hglob := lineComment_invisible .null (by decide) (text " src/*.js") (by decide)
  refine ⟨⟨by decide, hblocks, hleft, ?_⟩, by decide, hglob.2 (by decide)⟩
  exact (hglob.1 _ _ (by decide) (by decide) (by decide) hblocks).1 hleft

/-- A line comment with a file pattern in it hides the loop between it and the next closing mark.
-/
theorem lineComment_visible :
    ¬ ∀ (language : Json) (p t s : Text), Layout.ofTag (tagOf language) = .braced →
      BlocksClosed p → p.getLast? ≠ some (CodePoint.ofChar '/') → CodePoint.ofChar '\n' ∉ t →
      AtLineEnd s →
        analyzeValue (.str (p ++ lineOpen ++ t ++ s)) language =
          analyzeValue (.str (p ++ s)) language := by
  intro hinvisible
  have hglob := hinvisible (.str (text "javascript")) [] (text " src/*.js")
    (text "\nfor (;;) \x7b\x7d\n/* end */") (by decide +kernel) (by decide) (by decide) (by decide)
    (by decide)
  exact absurd hglob (by decide +kernel)

end BigO
