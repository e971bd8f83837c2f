import BigO.Proofs.Source.LineComment
import BigO.Proofs.Text.Search

/-! What the removal of comments leaves. The pass over block comments stops at the first one that
is never closed, since none behind it can be closed either; so it removes what a search at every
position would. The pass over line comments joins nothing: behind a comment that it removes stands a
line feed or the end of the text. -/

namespace BigO

namespace Reader

/-- All up to the first place where the mark stands, and the mark. -/
def through (mark : Text) : Reader Unit
  | [] => none
  | c :: t =>
    if mark <+: c :: t then some ((), mark.length)
    else (through mark t).map fun hit => ((), hit.2 + 1)

theorem inside_through (mark : Text) : (through mark).Inside := by
  intro s u n h
  induction s generalizing n with
  | nil => cases h
  | cons c t ih =>
      rw [through] at h
      split at h
      · next hmark =>
          obtain ⟨-, rfl⟩ := Prod.mk.inj (Option.some.inj h)
          exact hmark.length_le
      · obtain ⟨hit, hread, hn⟩ := Option.map_eq_some_iff.mp h
        obtain ⟨-, rfl⟩ := Prod.mk.inj hn
        exact Nat.succ_le_succ (ih _ hread)

theorem infix_of_through {mark s : Text} {u : Unit} {n : Nat}
    (h : through mark s = some (u, n)) : mark <:+: s := by
  induction s generalizing n with
  | nil => cases h
  | cons c t ih =>
      rw [through] at h
      split at h
      · next hmark => exact hmark.isInfix
      · obtain ⟨hit, hread, -⟩ := Option.map_eq_some_iff.mp h
        exact List.infix_cons (ih hread)

end Reader

namespace Source

open Pattern Reader

/-! ### Block comments at every position -/

/-- A whole block comment: its opening mark and all through the first closing mark behind that. -/
def blockComment : Pattern Unit := Pattern.anywhere do
  let _ ← Reader.exactly (text "/*")
  Reader.through (text "*/")

variable {before : Option CodePoint} {w s : Text} {u : Unit}

theorem through_blockClose {body : Text} (hbody : ¬ blockClose <:+: body) (rest : Text) :
    through blockClose (body ++ (blockClose ++ rest)) = some ((), (body ++ blockClose).length) := by
  induction body with
  | nil => rfl
  | cons c body ih =>
      have hmark := not_blockClose_prefix hbody rest
      rw [List.infix_cons_iff, not_or] at hbody
      rw [List.cons_append, through, if_neg hmark, ih hbody.2]
      rfl

theorem takes_blockComment_iff :
    (blockComment before).Takes w s u ↔
      ∃ body, w = blockOpen ++ (body ++ blockClose) ∧ ¬ blockClose <:+: body := by
  change (exactly blockOpen >>= fun _ => through blockClose).Takes w s u ↔ _
  rw [takes_bind_iff]
  constructor
  · rintro ⟨_, _, v, rfl, hopen, hclose⟩
    obtain ⟨rfl, -⟩ := takes_exactly_iff.mp hopen
    obtain ⟨body, rest, hbody, hsplit⟩ := exists_first_blockClose (infix_of_through hclose)
    rw [Takes, hsplit, through_blockClose hbody, Option.some.injEq, Prod.mk.injEq] at hclose
    rw [← List.append_assoc] at hsplit
    exact ⟨body, by rw [(List.append_inj hsplit hclose.2.symm).1], hbody⟩
  · rintro ⟨body, rfl, hbody⟩
    refine ⟨_, blockOpen, _, rfl, takes_exactly_iff.mpr ⟨rfl, rfl⟩, ?_⟩
    rw [Takes, List.append_assoc]
    exact through_blockClose hbody s

theorem inside_blockComment (before : Option CodePoint) : (blockComment before).Inside :=
  (inside_exactly _).bind fun _ => inside_through _

theorem stripBlockComments_eq_replace (code : Text) :
    stripBlockComments code = blockComment.replace (fun _ => []) code := by
  have hbefore : blockComment.IgnoresBefore := fun _ _ => rfl
  rw [replace_eq_replaceFrom]
  induction code using block_induction with
  | nil => rfl
  | code c rest hopen ih =>
      have hnone : blockComment none (c :: rest) = none := by
        rw [Option.eq_none_iff_forall_ne_some]
        rintro ⟨u, n⟩ hread
        obtain ⟨w, s, hsplit, -, htakes⟩ := (inside_blockComment none).exists_takes hread
        obtain ⟨body, rfl, -⟩ := takes_blockComment_iff.mp htakes
        rw [hsplit, List.append_assoc] at hopen
        exact hopen (List.prefix_append _ _)
      rw [stripBlockComments_code hopen, replaceFrom_none hnone, ih, hbefore.replaceFrom_eq,
        hbefore.replaceFrom_eq]
  | comment body rest hbody ih =>
      have htakes : (blockComment none).Takes (blockOpen ++ (body ++ blockClose)) rest () :=
        takes_blockComment_iff.mpr ⟨body, rfl, hbody⟩
      have hreplace := replaceFrom_takes (f := fun _ => []) htakes (List.cons_ne_nil _ _)
      simp only [List.append_assoc] at hreplace
      rw [stripBlockComments_comment hbody, ih, hreplace, List.nil_append, hbefore.replaceFrom_eq,
        hbefore.replaceFrom_eq]
  | unclosed rest hrest =>
      rw [stripBlockComments_unclosed hrest, replaceFrom_eq_self]
      -- a comment, wherever it begins, would be closed behind the mark that is never closed
      rintro ⟨front, v, hsplit, hread⟩
      obtain ⟨⟨u, n⟩, hread⟩ := Option.isSome_iff_exists.mp hread
      obtain ⟨w, s, rfl, -, htakes⟩ := (inside_blockComment _).exists_takes hread
      obtain ⟨body, rfl, -⟩ := takes_blockComment_iff.mp htakes
      simp only [List.append_assoc] at hsplit
      have hlength := congrArg List.length hsplit
      simp only [List.length_append] at hlength
      have hsuffix : body ++ (blockClose ++ s) <:+ rest := by
        refine List.suffix_of_suffix_length_le ?_ (List.suffix_append blockOpen rest) ?_
        · rw [hsplit]
          exact (List.suffix_append blockOpen _).trans (List.suffix_append front _)
        · simp only [List.length_append]
          omega
      exact hrest (List.IsInfix.trans ⟨body, s, List.append_assoc _ _ _⟩ hsuffix.isInfix)

/-! ### Line comments -/

namespace IsLineComment

variable {p : Pattern Unit} (hp : IsLineComment p)
include hp

theorem atLineEnd_dropComments {s : Text} (hs : AtLineEnd s) (before : Option CodePoint) :
    AtLineEnd (dropComments p before s) := by
  cases s with
  | nil => exact hs
  | cons c s =>
      obtain rfl := hs c rfl
      rw [hp.dropComments_lineFeed]
      exact atLineEnd_lineFeed _

/-- What is left begins as the text does, unless a comment begins there. -/
theorem atLineEnd_or_head?_eq (before : Option CodePoint) (t : Text) :
    AtLineEnd (dropComments p before t) ∨ (dropComments p before t).head? = t.head? := by
  by_cases hopen : (p before t).isSome
  · rw [hp.dropComments_some hopen]
    exact Or.inl (hp.atLineEnd_dropComments (atLineEnd_fromLineEnd t) none)
  · cases t with
    | nil => exact Or.inr rfl
    | cons c t =>
        rw [Option.not_isSome_iff_eq_none] at hopen
        rw [dropComments_none hopen]
        exact Or.inr rfl

/-- The line feeds are left. -/
theorem count_lineFeed_dropComments (before : Option CodePoint) (t : Text) :
    (dropComments p before t).count (CodePoint.ofChar '\n') =
      t.count (CodePoint.ofChar '\n') := by
  induction before, t using comment_induction p with
  | nil before => rfl
  | code before c t hnone ih => rw [dropComments_none hnone, List.count_cons, ih, List.count_cons]
  | comment before w t hw hopen ih =>
      rw [hp.dropComments_some hopen, fromLineEnd_append_lineFeed hw, hp.dropComments_lineFeed,
        List.count_append, List.count_eq_zero_of_not_mem hw, List.count_cons_self, ih,
        List.count_cons_self, Nat.zero_add]
  | last before w hw hopen =>
      rw [hp.dropComments_some hopen, fromLineEnd_of_notMem hw, List.count_eq_zero_of_not_mem hw]
      rfl

end IsLineComment

/-- No two slashes are left: where a comment was, the line ends. -/
theorem not_lineOpen_dropComments (before : Option CodePoint) (t : Text) :
    ¬ lineOpen <:+: dropComments slashComment before t := by
  have hp := isLineComment_slashComment
  have hnil : ∀ b, ¬ lineOpen <:+: dropComments slashComment b [] := fun _ h =>
    absurd (List.infix_nil.mp h) (List.cons_ne_nil _ _)
  induction before, t using comment_induction slashComment with
  | nil before => exact hnil before
  | code before c t hnone ih =>
      rw [IsLineComment.dropComments_none hnone, List.infix_cons_iff, not_or]
      refine ⟨?_, ih⟩
      rintro ⟨rest, hrest⟩
      obtain ⟨rfl, hslash⟩ := List.cons.inj hrest
      have hhead : (dropComments slashComment (some (CodePoint.ofChar '/')) t).head? =
          some (CodePoint.ofChar '/') := by
        rw [← hslash]
        rfl
      rcases hp.atLineEnd_or_head?_eq (some (CodePoint.ofChar '/')) t with hend | hsame
      · exact absurd (hend _ hhead) (by decide)
      · rw [hhead] at hsame
        cases t with
        | nil => cases hsame
        | cons d t =>
            obtain rfl := Option.some.inj hsame
            rw [Option.eq_none_iff_forall_ne_some] at hnone
            have hmarks : lineOpen <+: CodePoint.ofChar '/' :: CodePoint.ofChar '/' :: t :=
              lineOpen_prefix_iff.mpr ⟨rfl, rfl⟩
            obtain ⟨hit, hread⟩ := Option.isSome_iff_exists.mp (isSome_slashComment.mpr hmarks)
            exact hnone hit hread
  | comment before w t hw hopen ih =>
      rw [hp.dropComments_some hopen, fromLineEnd_append_lineFeed hw, hp.dropComments_lineFeed,
        List.infix_cons_iff, not_or]
      refine ⟨?_, ih⟩
      rintro ⟨rest, hrest⟩
      exact absurd (List.cons.inj hrest).1 (by decide)
  | last before w hw hopen =>
      rw [hp.dropComments_some hopen, fromLineEnd_of_notMem hw]
      exact hnil none

/-- **Removal of comments**: block comments are removed wherever a search at every position from the
left finds one, and the removal of line comments leaves no two slashes and as many lines. -/
theorem comments_removed (code : Text) :
    stripBlockComments code = blockComment.replace (fun _ => []) code ∧
      ¬ text "//" <:+: stripBracedComments code ∧
      (stripBracedComments code).countLines = (stripBlockComments code).countLines := by
  refine ⟨stripBlockComments_eq_replace code, ?_, ?_⟩
  · rw [stripBracedComments_eq]
    exact not_lineOpen_dropComments none _
  · rw [stripBracedComments_eq, Text.countLines, Text.countLines,
      isLineComment_slashComment.count_lineFeed_dropComments]

/-- The closing mark takes nothing of the opening one, and the last comment is never closed. -/
example : blockComment.replace (fun _ => []) (text "a /*/ b */ c */ d /* e") =
    text "a  c */ d /* e" := by decide

end Source

end BigO
