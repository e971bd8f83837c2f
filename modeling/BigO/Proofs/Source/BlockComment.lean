import Mathlib.Data.List.Infix
import BigO.Source.Comment

/-! Block comments. A text is cut from the left into code points at which no comment begins, whole
comments, and perhaps a comment that is never closed; removing block comments keeps the first, drops
the second and keeps the third. A text in which every comment is closed is stripped apart from what
stands behind it, unless a new mark is formed where the two meet. -/

namespace BigO.Source

/-- The mark that opens a block comment. -/
def blockOpen : Text := ['/', '*']

/-- The mark that closes a block comment. -/
def blockClose : Text := ['*', '/']

theorem blockOpen_prefix_iff {c d : CodePoint} {rest : Text} :
    blockOpen <+: c :: d :: rest ↔ c = '/' ∧ d = '*' := by
  simp [blockOpen, eq_comm]

theorem blockClose_prefix_iff {c d : CodePoint} {rest : Text} :
    blockClose <+: c :: d :: rest ↔ c = '*' ∧ d = '/' := by
  simp [blockClose, eq_comm]

/-- Two code points in a row stand in the first text, in the second, or across the seam. -/
theorem pair_infix_append {x y : CodePoint} {t s : Text} :
    [x, y] <:+: t ++ s ↔
      [x, y] <:+: t ∨ [x, y] <:+: s ∨ (t.getLast? = some x ∧ s.head? = some y) := by
  induction t with
  | nil => simp
  | cons c t ih =>
      rw [List.cons_append, List.infix_cons_iff, List.infix_cons_iff, ih]
      cases t with
      | nil =>
          cases s with
          | nil => simp
          | cons d s =>
              simp only [List.nil_append, List.cons_prefix_cons, List.nil_prefix, List.prefix_nil,
                List.infix_nil, List.getLast?_nil, List.getLast?_singleton, List.head?_cons,
                Option.some.injEq, reduceCtorEq, and_true, and_false, false_and, false_or, or_false,
                eq_comm (a := c), eq_comm (a := d)]
              exact or_comm
      | cons d t =>
          rw [List.getLast?_cons_cons, or_assoc]
          simp

/-- The first closing mark in a text that has one. -/
theorem exists_first_blockClose {t : Text} (h : blockClose <:+: t) :
    ∃ body rest, ¬ blockClose <:+: body ∧ t = body ++ (blockClose ++ rest) := by
  induction t with
  | nil => exact absurd h (by decide)
  | cons c t ih =>
      by_cases hfront : blockClose <+: c :: t
      · obtain ⟨rest, hrest⟩ := hfront
        exact ⟨[], rest, by decide, hrest.symm⟩
      · rw [List.infix_cons_iff] at h
        obtain ⟨body, rest, hbody, rfl⟩ := ih (h.resolve_left hfront)
        refine ⟨c :: body, rest, ?_, rfl⟩
        rw [List.infix_cons_iff, not_or]
        refine ⟨fun hprefix => hfront ?_, hbody⟩
        exact hprefix.trans (List.prefix_append (c :: body) (blockClose ++ rest))

/-- A closing mark behind a text that holds none is the first one. -/
theorem not_blockClose_prefix {c : CodePoint} {body : Text} (h : ¬ blockClose <:+: c :: body)
    (rest : Text) : ¬ blockClose <+: c :: (body ++ (blockClose ++ rest)) := by
  intro hmark
  cases body with
  | nil => exact absurd (blockClose_prefix_iff.mp hmark).2 (by decide)
  | cons d body =>
      have hfront : blockClose <+: c :: d :: body :=
        blockClose_prefix_iff.mpr (blockClose_prefix_iff.mp hmark)
      exact h hfront.isInfix

/-! ### Removing block comments -/

theorem dropBlocks_append (kept more : Text) (opened : Option Text) (t : Text) :
    dropBlocks (kept ++ more) opened t = more.reverse ++ dropBlocks kept opened t := by
  induction kept, opened, t using dropBlocks.induct with
  | case1 kept => simp [dropBlocks]
  | case2 kept inside => simp [dropBlocks]
  | case3 kept c => simp [dropBlocks]
  | case4 kept inside c => simp [dropBlocks]
  | case5 kept c d rest hmark ih =>
      rw [dropBlocks, dropBlocks, if_pos hmark, if_pos hmark]
      exact ih
  | case6 kept c d rest hmark ih =>
      rw [dropBlocks, dropBlocks, if_neg hmark, if_neg hmark]
      exact ih
  | case7 kept inside c d rest hmark ih =>
      rw [dropBlocks, dropBlocks, if_pos hmark, if_pos hmark]
      exact ih
  | case8 kept inside c d rest hmark ih =>
      rw [dropBlocks, dropBlocks, if_neg hmark, if_neg hmark]
      exact ih

/-- Inside a comment, all up to the first closing mark is dropped. -/
theorem dropBlocks_closing {body : Text} (hbody : ¬ blockClose <:+: body) (inside rest : Text) :
    dropBlocks [] (some inside) (body ++ (blockClose ++ rest)) = stripBlockComments rest := by
  induction body generalizing inside with
  | nil => rfl
  | cons c body ih =>
      obtain ⟨d, tail, htail⟩ : ∃ d tail, body ++ (blockClose ++ rest) = d :: tail := by
        cases body with
        | nil => exact ⟨_, _, rfl⟩
        | cons d body => exact ⟨d, _, rfl⟩
      have hmark := not_blockClose_prefix hbody rest
      rw [List.infix_cons_iff, not_or] at hbody
      rw [htail] at hmark
      rw [List.cons_append, htail, dropBlocks, if_neg (mt blockClose_prefix_iff.mpr hmark), ← htail]
      exact ih hbody.2 (c :: inside)

/-- Inside a comment that is never closed, everything is kept. -/
theorem dropBlocks_unclosed {t : Text} (ht : ¬ blockClose <:+: t) (inside : Text) :
    dropBlocks [] (some inside) t = inside.reverse ++ t := by
  induction t generalizing inside with
  | nil => simp [dropBlocks]
  | cons c t ih =>
      rw [List.infix_cons_iff, not_or] at ht
      cases t with
      | nil => simp [dropBlocks]
      | cons d t =>
          rw [dropBlocks, if_neg (mt blockClose_prefix_iff.mpr ht.1), ih ht.2]
          simp

@[simp] theorem stripBlockComments_nil : stripBlockComments [] = [] := rfl

/-- A code point at which no comment begins is kept. -/
theorem stripBlockComments_code {c : CodePoint} {rest : Text} (h : ¬ blockOpen <+: c :: rest) :
    stripBlockComments (c :: rest) = c :: stripBlockComments rest := by
  cases rest with
  | nil => rfl
  | cons d rest =>
      rw [stripBlockComments, dropBlocks, if_neg (mt blockOpen_prefix_iff.mpr h)]
      exact dropBlocks_append [] [c] none (d :: rest)

/-- A whole comment is dropped. -/
theorem stripBlockComments_comment {body : Text} (hbody : ¬ blockClose <:+: body) (rest : Text) :
    stripBlockComments (blockOpen ++ (body ++ (blockClose ++ rest))) = stripBlockComments rest :=
  dropBlocks_closing hbody _ rest

/-- A comment that is never closed is kept. -/
theorem stripBlockComments_unclosed {rest : Text} (hrest : ¬ blockClose <:+: rest) :
    stripBlockComments (blockOpen ++ rest) = blockOpen ++ rest :=
  dropBlocks_unclosed hrest _

/-- Every text is empty or begins with a code point of the code, with a whole comment, or with a
comment that is never closed. -/
theorem block_induction {motive : Text → Prop} (nil : motive [])
    (code : ∀ c rest, ¬ blockOpen <+: c :: rest → motive rest → motive (c :: rest))
    (comment : ∀ body rest, ¬ blockClose <:+: body → motive rest →
      motive (blockOpen ++ (body ++ (blockClose ++ rest))))
    (unclosed : ∀ rest, ¬ blockClose <:+: rest → motive (blockOpen ++ rest)) (t : Text) :
    motive t := by
  induction hlen : t.length using Nat.strongRecOn generalizing t with
  | ind len ih =>
      by_cases hopen : blockOpen <+: t
      · obtain ⟨rest, rfl⟩ := hopen
        by_cases hclose : blockClose <:+: rest
        · obtain ⟨body, tail, hbody, rfl⟩ := exists_first_blockClose hclose
          refine comment body tail hbody (ih _ ?_ tail rfl)
          simp only [List.length_append] at hlen
          have : blockClose.length = 2 := rfl
          omega
        · exact unclosed rest hclose
      · cases t with
        | nil => exact nil
        | cons c rest =>
            refine code c rest hopen (ih _ ?_ rest rfl)
            simp only [List.length_cons] at hlen
            omega

theorem stripBlockComments_sublist (t : Text) : (stripBlockComments t).Sublist t := by
  induction t using block_induction with
  | nil => exact .slnil
  | code c rest hopen ih =>
      rw [stripBlockComments_code hopen]
      exact ih.cons_cons c
  | comment body rest hbody ih =>
      rw [stripBlockComments_comment hbody]
      simp only [← List.append_assoc]
      exact ih.trans (List.sublist_append_right _ _)
  | unclosed rest hrest => rw [stripBlockComments_unclosed hrest]

/-- A text without a closing mark has no comment that is removed. -/
theorem stripBlockComments_eq_self {t : Text} (ht : ¬ blockClose <:+: t) :
    stripBlockComments t = t := by
  induction t using block_induction with
  | nil => rfl
  | code c rest hopen ih =>
      rw [List.infix_cons_iff, not_or] at ht
      rw [stripBlockComments_code hopen, ih ht.2]
  | comment body rest hbody ih =>
      refine absurd ⟨blockOpen ++ body, rest, ?_⟩ ht
      simp only [List.append_assoc]
  | unclosed rest hrest => rw [stripBlockComments_unclosed hrest]

/-! ### Texts in which every comment is closed -/

/-- Every block comment that begins in the text is closed in it. -/
inductive BlocksClosed : Text → Prop where
  | nil : BlocksClosed []
  | code {c : CodePoint} {rest : Text} (hc : ¬ blockOpen <+: c :: rest)
      (hrest : BlocksClosed rest) : BlocksClosed (c :: rest)
  | comment {body rest : Text} (hbody : ¬ blockClose <:+: body) (hrest : BlocksClosed rest) :
      BlocksClosed (blockOpen ++ (body ++ (blockClose ++ rest)))

/-- No opening mark is formed by the end of one text and the front of another. -/
def NoMarkAcross (t s : Text) : Prop :=
  t.getLast? = some (CodePoint.ofChar '/') → s.head? ≠ some (CodePoint.ofChar '*')

theorem NoMarkAcross.of_append {u t s : Text} (h : NoMarkAcross (u ++ t) s) :
    NoMarkAcross t s := by
  intro hlast
  apply h
  rw [List.getLast?_append, hlast, Option.some_or]

theorem NoMarkAcross.not_blockOpen {c : CodePoint} {rest s : Text} (h : NoMarkAcross (c :: rest) s)
    (hc : ¬ blockOpen <+: c :: rest) : ¬ blockOpen <+: c :: (rest ++ s) := by
  cases rest with
  | nil =>
      cases s with
      | nil => exact hc
      | cons d s =>
          intro hmark
          obtain ⟨rfl, rfl⟩ := blockOpen_prefix_iff.mp hmark
          exact h rfl rfl
  | cons d rest =>
      exact fun hmark => hc (blockOpen_prefix_iff.mpr (blockOpen_prefix_iff.mp hmark))

/-- A text in which every comment is closed is stripped apart from what stands behind it. -/
theorem stripBlockComments_append {t s : Text} (ht : BlocksClosed t) (hts : NoMarkAcross t s) :
    stripBlockComments (t ++ s) = stripBlockComments t ++ stripBlockComments s := by
  induction ht with
  | nil => rfl
  | @code c rest hc hrest ih =>
      rw [List.cons_append, stripBlockComments_code (hts.not_blockOpen hc),
        stripBlockComments_code hc, ih (NoMarkAcross.of_append (u := [c]) hts), List.cons_append]
  | @comment body rest hbody hrest ih =>
      simp only [← List.append_assoc] at hts
      rw [stripBlockComments_comment hbody, ← ih hts.of_append]
      simp only [List.append_assoc]
      exact stripBlockComments_comment hbody _

/-! ### What stands behind -/

/-- The text does not begin with a code point that could end a mark. -/
def BeginsApart (s : Text) : Prop :=
  ∀ c ∈ s.head?, c ≠ CodePoint.ofChar '*' ∧ c ≠ CodePoint.ofChar '/'

instance (s : Text) : Decidable (BeginsApart s) :=
  inferInstanceAs (Decidable (∀ c ∈ s.head?, c ≠ CodePoint.ofChar '*' ∧ c ≠ CodePoint.ofChar '/'))

theorem BeginsApart.noMarkAcross {s : Text} (hs : BeginsApart s) (t : Text) : NoMarkAcross t s :=
  fun _ hhead => (hs _ hhead).1 rfl

theorem BeginsApart.not_infix {t s : Text} (hs : BeginsApart s) (ht : ¬ blockClose <:+: t)
    (hclose : ¬ blockClose <:+: s) : ¬ blockClose <:+: t ++ s := by
  rw [blockClose, pair_infix_append]
  rintro (h | h | ⟨-, hhead⟩)
  · exact ht h
  · exact hclose h
  · exact (hs _ hhead).2 rfl

/-- The block comments of a text end in it, or are never closed behind it. -/
def BlocksEndBefore (t s : Text) : Prop := BlocksClosed t ∨ ¬ blockClose <:+: s

theorem stripBlockComments_append_of_endBefore {t s : Text} (h : BlocksEndBefore t s)
    (hs : BeginsApart s) :
    stripBlockComments (t ++ s) = stripBlockComments t ++ stripBlockComments s := by
  rcases h with ht | hclose
  · exact stripBlockComments_append ht (hs.noMarkAcross t)
  · rw [stripBlockComments_eq_self hclose]
    induction t using block_induction with
    | nil => exact stripBlockComments_eq_self hclose
    | code c rest hopen ih =>
        rw [List.cons_append, stripBlockComments_code ((hs.noMarkAcross _).not_blockOpen hopen),
          stripBlockComments_code hopen, ih, List.cons_append]
    | comment body rest hbody ih =>
        rw [stripBlockComments_comment hbody, ← ih]
        simp only [List.append_assoc]
        exact stripBlockComments_comment hbody _
    | unclosed rest hrest =>
        rw [stripBlockComments_unclosed hrest, List.append_assoc,
          stripBlockComments_unclosed (hs.not_infix hrest hclose)]

/-- A text in which some comment is not closed ends in one. -/
theorem exists_unclosed {t : Text} (h : ¬ BlocksClosed t) :
    ∃ front rest, BlocksClosed front ∧ ¬ blockClose <:+: rest ∧
      t = front ++ (blockOpen ++ rest) := by
  induction t using block_induction with
  | nil => exact absurd .nil h
  | code c rest hopen ih =>
      obtain ⟨front, tail, hfront, htail, rfl⟩ := ih fun hrest => h (.code hopen hrest)
      refine ⟨c :: front, tail, .code (fun hmark => hopen ?_) hfront, htail, rfl⟩
      exact hmark.trans (List.prefix_append (c :: front) _)
  | comment body rest hbody ih =>
      obtain ⟨front, tail, hfront, htail, rfl⟩ := ih fun hrest => h (.comment hbody hrest)
      refine ⟨_, tail, .comment hbody hfront, htail, ?_⟩
      simp only [List.append_assoc]
  | unclosed rest hrest => exact ⟨[], rest, .nil, hrest, rfl⟩

/-- Of a comment that is closed only behind the text it begins in, nothing is left. -/
theorem stripBlockComments_closed_behind {front rest x : Text} (hfront : BlocksClosed front)
    (hrest : ¬ blockClose <:+: rest) (hx : BeginsApart x) (hclose : ¬ blockClose <:+: x) :
    stripBlockComments (front ++ (blockOpen ++ rest) ++ (x ++ blockClose)) =
      stripBlockComments front := by
  have hcomment := stripBlockComments_comment (hx.not_infix hrest hclose) []
  have happend := stripBlockComments_append (s := blockOpen ++ (rest ++ x ++ blockClose)) hfront
    fun _ hhead => by cases hhead
  rw [List.append_nil, stripBlockComments_nil] at hcomment
  rw [hcomment, List.append_nil] at happend
  rw [← happend]
  simp only [List.append_assoc]

/-- A closing mark behind the text shows whether a comment is left open there. -/
theorem blocksClosed_iff {t : Text} :
    BlocksClosed t ↔
      stripBlockComments (t ++ (text "\n" ++ blockClose)) =
        stripBlockComments t ++ (text "\n" ++ blockClose) := by
  constructor
  · intro ht
    exact stripBlockComments_append ht fun _ hhead => absurd hhead (by decide)
  · refine fun hsame => Classical.byContradiction fun hopen => ?_
    obtain ⟨front, rest, hfront, hrest, rfl⟩ := exists_unclosed hopen
    rw [stripBlockComments_closed_behind hfront hrest (by decide) (by decide),
      stripBlockComments_append hfront (fun _ hhead => by cases hhead), List.append_assoc] at hsame
    have hlength := congrArg List.length hsame
    simp only [List.length_append] at hlength
    have hmark : blockClose.length = 2 := rfl
    omega

instance (t : Text) : Decidable (BlocksClosed t) := decidable_of_iff _ blocksClosed_iff.symm

/-- The last code point of a text whose comments are closed stays, unless it closes one. -/
theorem getLast?_stripBlockComments {t : Text} (ht : BlocksClosed t)
    (hlast : t.getLast? ≠ some (CodePoint.ofChar '/')) :
    (stripBlockComments t).getLast? = t.getLast? := by
  induction ht with
  | nil => rfl
  | @code c rest hc hrest ih =>
      rw [stripBlockComments_code hc]
      cases rest with
      | nil => rfl
      | cons d rest =>
          rw [List.getLast?_cons_cons] at hlast ⊢
          rw [List.getLast?_cons, ih hlast, List.getLast?_cons]
          rfl
  | @comment body rest hbody hrest ih =>
      rw [stripBlockComments_comment hbody]
      simp only [← List.append_assoc] at hlast ⊢
      rw [List.getLast?_append] at hlast ⊢
      cases hend : rest.getLast? with
      | none =>
          rw [hend, Option.none_or, List.getLast?_append] at hlast
          exact absurd rfl hlast
      | some c =>
          rw [hend, Option.some_or] at hlast
          rw [ih (hend ▸ hlast), hend]
          rfl

end BigO.Source
