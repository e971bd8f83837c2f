import BigO.Proofs.Text.Scan
import BigO.Proofs.Text.Reader
import BigO.Proofs.Source.BlockComment

/-! Comments that go to the end of the line. Where such a comment begins, the rest of its line is
dropped and nothing of what it says is looked at; so a comment put at the end of a line is dropped
whether it begins a comment there or stands in one already. -/

namespace BigO.Source

open Pattern

/-- The text is empty or begins with a line feed. -/
def AtLineEnd (s : Text) : Prop := ∀ c ∈ s.head?, c = CodePoint.ofChar '\n'

theorem atLineEnd_lineFeed (t : Text) : AtLineEnd (CodePoint.ofChar '\n' :: t) := by
  intro c hc
  cases hc
  rfl

instance (s : Text) : Decidable (AtLineEnd s) :=
  inferInstanceAs (Decidable (∀ c ∈ s.head?, c = CodePoint.ofChar '\n'))

/-- A line feed ends no mark of a block comment. -/
theorem AtLineEnd.beginsApart {s : Text} (hs : AtLineEnd s) : BeginsApart s := by
  intro c hc
  rw [hs c hc]
  decide

theorem AtLineEnd.stripped {s : Text} (hs : AtLineEnd s) : AtLineEnd (stripBlockComments s) := by
  cases s with
  | nil => exact hs
  | cons c s =>
      obtain rfl := hs c rfl
      have hopen : ¬ blockOpen <+: CodePoint.ofChar '\n' :: s := by
        rw [blockOpen, List.cons_prefix_cons]
        exact fun h => absurd h.1 (by decide)
      rw [stripBlockComments_code hopen]
      exact atLineEnd_lineFeed _

/-- The text from the end of its first line on. -/
def fromLineEnd (t : Text) : Text := t.dropWhile (· ≠ CodePoint.ofChar '\n')

theorem atLineEnd_fromLineEnd (t : Text) : AtLineEnd (fromLineEnd t) := by
  intro c hc
  have hhead := List.head?_dropWhile_not (fun c : CodePoint => decide (c ≠ '\n')) t
  rw [fromLineEnd] at hc
  rw [hc] at hhead
  simpa using hhead

theorem drop_untilLineEnd (t : Text) :
    t.drop (t.takeWhile (· ≠ CodePoint.ofChar '\n')).length = fromLineEnd t := by
  have hsplit := List.takeWhile_append_dropWhile (p := (· ≠ CodePoint.ofChar '\n')) (l := t)
  have hdrop := congrArg (List.drop (t.takeWhile (· ≠ CodePoint.ofChar '\n')).length) hsplit
  rw [List.drop_left] at hdrop
  exact hdrop.symm

theorem fromLineEnd_of_atLineEnd {s : Text} (hs : AtLineEnd s) : fromLineEnd s = s := by
  cases s with
  | nil => rfl
  | cons c s =>
      have hc := hs c rfl
      subst hc
      rfl

theorem fromLineEnd_append {t : Text} (ht : CodePoint.ofChar '\n' ∉ t) (s : Text) :
    fromLineEnd (t ++ s) = fromLineEnd s := by
  refine List.dropWhile_append_of_pos fun c hc => decide_eq_true fun h => ht ?_
  rwa [← h]

theorem fromLineEnd_of_notMem {t : Text} (ht : CodePoint.ofChar '\n' ∉ t) : fromLineEnd t = [] := by
  have happend := fromLineEnd_append ht []
  rwa [List.append_nil] at happend

/-- A text with a line feed has its first line end in itself. -/
theorem fromLineEnd_append_lineFeed {w : Text} (hw : CodePoint.ofChar '\n' ∉ w) (t : Text) :
    fromLineEnd (w ++ CodePoint.ofChar '\n' :: t) = CodePoint.ofChar '\n' :: t :=
  fromLineEnd_append hw _

/-- The pattern reads comments that go to the end of the line. -/
structure IsLineComment (p : Pattern Unit) : Prop where
  pos {before : Option CodePoint} {t : Text} {n : Nat} : p before t = some ((), n) → 0 < n
  toLineEnd {before : Option CodePoint} {t : Text} {n : Nat} :
    p before t = some ((), n) → n = (t.takeWhile (· ≠ CodePoint.ofChar '\n')).length

/-- A text that stands behind a code point, without the comments that the pattern reads. -/
def dropComments (p : Pattern Unit) (before : Option CodePoint) (t : Text) : Text :=
  replaceFrom p (fun _ => []) before t

variable {p : Pattern Unit}

namespace IsLineComment

theorem none_of_atLineEnd (hp : IsLineComment p) {s : Text} (hs : AtLineEnd s)
    (before : Option CodePoint) : p before s = none := by
  cases hread : p before s with
  | none => rfl
  | some hit =>
      obtain ⟨⟨⟩, n⟩ := hit
      have hpos := hp.pos hread
      have hlength := hp.toLineEnd hread
      cases s with
      | nil => exact absurd hlength (Nat.ne_of_gt hpos)
      | cons c s =>
          have hc := hs c rfl
          subst hc
          exact absurd hlength (Nat.ne_of_gt hpos)

theorem dropComments_none {before : Option CodePoint} {c : CodePoint} {rest : Text}
    (h : p before (c :: rest) = none) :
    dropComments p before (c :: rest) = c :: dropComments p (some c) rest := by
  rw [dropComments, replaceFrom_plain (by simp [h])]
  rfl

/-- Before a line end it does not matter what stands there. -/
theorem dropComments_atLineEnd (hp : IsLineComment p) {s : Text} (hs : AtLineEnd s)
    (before : Option CodePoint) : dropComments p before s = dropComments p none s := by
  cases s with
  | nil => rfl
  | cons c s =>
      rw [dropComments_none (hp.none_of_atLineEnd hs _),
        dropComments_none (hp.none_of_atLineEnd hs _)]

theorem dropComments_lineFeed (hp : IsLineComment p) (before : Option CodePoint) (t : Text) :
    dropComments p before (CodePoint.ofChar '\n' :: t) =
      CodePoint.ofChar '\n' :: dropComments p (some (CodePoint.ofChar '\n')) t :=
  dropComments_none (hp.none_of_atLineEnd (atLineEnd_lineFeed t) before)

theorem dropComments_some (hp : IsLineComment p) {before : Option CodePoint} {t : Text}
    (h : (p before t).isSome) :
    dropComments p before t = dropComments p none (fromLineEnd t) := by
  obtain ⟨⟨⟨⟩, n⟩, hread⟩ := Option.isSome_iff_exists.mp h
  cases t with
  | nil => rfl
  | cons c t =>
      have hdrop : (c :: t).drop n = fromLineEnd (c :: t) := by
        rw [hp.toLineEnd hread, drop_untilLineEnd]
      obtain ⟨n, rfl⟩ := Nat.exists_eq_succ_of_ne_zero (Nat.ne_of_gt (hp.pos hread))
      rw [dropComments, replaceFrom_token hread, ← hdrop]
      refine hp.dropComments_atLineEnd ?_ _
      have hend := atLineEnd_fromLineEnd (c :: t)
      rwa [← hdrop] at hend

end IsLineComment

/-- A comment begins on the last line of the text. -/
def EndsInComment (p : Pattern Unit) (before : Option CodePoint) (t : Text) : Prop :=
  ∃ front rest, t = front ++ rest ∧ CodePoint.ofChar '\n' ∉ rest ∧
    (p (lastOf front before) rest).isSome

theorem IsLineComment.not_endsInComment_nil (hp : IsLineComment p) (before : Option CodePoint) :
    ¬ EndsInComment p before [] := by
  rintro ⟨front, rest, hsplit, -, hopen⟩
  obtain ⟨rfl, rfl⟩ := List.nil_eq_append_iff.mp hsplit
  rw [hp.none_of_atLineEnd (fun _ hc => by cases hc)] at hopen
  cases hopen

theorem endsInComment_cons {before : Option CodePoint} {c : CodePoint} {t : Text}
    (h : ¬ (p before (c :: t)).isSome) :
    EndsInComment p before (c :: t) ↔ EndsInComment p (some c) t := by
  constructor
  · rintro ⟨front, rest, hsplit, hrest, hopen⟩
    cases front with
    | nil =>
        rw [List.nil_append] at hsplit
        rw [← hsplit, lastOf_nil] at hopen
        exact absurd hopen h
    | cons d front =>
        obtain ⟨rfl, rfl⟩ := List.cons.inj hsplit
        rw [lastOf_cons] at hopen
        exact ⟨front, rest, rfl, hrest, hopen⟩
  · rintro ⟨front, rest, rfl, hrest, hopen⟩
    exact ⟨c :: front, rest, rfl, hrest, by rwa [lastOf_cons]⟩

theorem endsInComment_lineFeed {before : Option CodePoint} (w t : Text) :
    EndsInComment p before (w ++ CodePoint.ofChar '\n' :: t) ↔
      EndsInComment p (some (CodePoint.ofChar '\n')) t := by
  constructor
  · rintro ⟨front, rest, hsplit, hrest, hopen⟩
    rcases List.append_eq_append_iff.mp hsplit with ⟨a, rfl, htail⟩ | ⟨a, rfl, rfl⟩
    · cases a with
      | nil =>
          rw [List.nil_append] at htail
          exact absurd (htail ▸ List.mem_cons_self) hrest
      | cons d a =>
          obtain ⟨rfl, rfl⟩ := List.cons.inj htail
          rw [lastOf_append, lastOf_cons] at hopen
          exact ⟨a, rest, rfl, hrest, hopen⟩
    · refine absurd ?_ hrest
      rw [List.mem_append]
      exact Or.inr List.mem_cons_self
  · rintro ⟨front, rest, rfl, hrest, hopen⟩
    refine ⟨w ++ CodePoint.ofChar '\n' :: front, rest, by simp, hrest, ?_⟩
    rwa [lastOf_append, lastOf_cons]

/-- Every text is empty or begins with a code point of the code or with a comment, behind which
there is another line or none. -/
theorem comment_induction (p : Pattern Unit) {motive : Option CodePoint → Text → Prop}
    (nil : ∀ before, motive before [])
    (code : ∀ before c t, p before (c :: t) = none → motive (some c) t → motive before (c :: t))
    (comment : ∀ before w t, CodePoint.ofChar '\n' ∉ w →
      (p before (w ++ CodePoint.ofChar '\n' :: t)).isSome →
      motive (some (CodePoint.ofChar '\n')) t → motive before (w ++ CodePoint.ofChar '\n' :: t))
    (last : ∀ before w, CodePoint.ofChar '\n' ∉ w → (p before w).isSome → motive before w)
    (before : Option CodePoint) (t : Text) : motive before t := by
  induction hlen : t.length using Nat.strongRecOn generalizing before t with
  | ind len ih =>
      cases hread : p before t with
      | none =>
          cases t with
          | nil => exact nil before
          | cons c t => exact code before c t hread (ih _ (hlen ▸ Nat.lt_succ_self _) _ t rfl)
      | some hit =>
          have hopen : (p before t).isSome := by rw [hread]; rfl
          by_cases hline : CodePoint.ofChar '\n' ∈ t
          · obtain ⟨w, v, rfl, hw⟩ := List.eq_append_cons_of_mem hline
            refine comment before w v hw hopen (ih _ ?_ _ v rfl)
            rw [List.length_append, List.length_cons] at hlen
            omega
          · exact last before t hline hopen

/-- Where the pattern reads in a text does not depend on what follows the text. -/
def ReadsApart (p : Pattern Unit) (t s : Text) : Prop :=
  ∀ before v, v ≠ [] → v <:+ t → (p before (v ++ s)).isSome = (p before v).isSome

theorem ReadsApart.of_suffix {t v s : Text} (h : ReadsApart p t s) (hv : v <:+ t) :
    ReadsApart p v s :=
  fun before x hx hsuffix => h before x hx (hsuffix.trans hv)

namespace IsLineComment

/-- Behind a text that ends in a comment, the rest of the line belongs to the comment; behind any
other text, comments are dropped as if nothing stood before. -/
theorem dropComments_append (hp : IsLineComment p) {t s : Text} (hts : ReadsApart p t s)
    (before : Option CodePoint) :
    (EndsInComment p before t →
      dropComments p before (t ++ s) =
        dropComments p before t ++ dropComments p none (fromLineEnd s)) ∧
    (¬ EndsInComment p before t →
      dropComments p before (t ++ s) =
        dropComments p before t ++ dropComments p (lastOf t before) s) := by
  induction before, t using comment_induction p with
  | nil before => exact ⟨fun h => absurd h (hp.not_endsInComment_nil before), fun _ => rfl⟩
  | code before c t hnone ih =>
      have hnone' : p before (c :: (t ++ s)) = none := by
        have hsame := hts before (c :: t) (List.cons_ne_nil _ _) List.suffix_rfl
        rwa [hnone, Option.isSome_none, Option.isSome_eq_false_iff, Option.isNone_iff_eq_none]
          at hsame
      have hrest := ih (hts.of_suffix (List.suffix_cons _ _))
      rw [endsInComment_cons (by simp [hnone]), lastOf_cons, List.cons_append,
        dropComments_none hnone, dropComments_none hnone', List.cons_append, List.cons_append,
        List.cons.injEq, List.cons.injEq]
      exact ⟨fun h => ⟨rfl, hrest.1 h⟩, fun h => ⟨rfl, hrest.2 h⟩⟩
  | comment before w t hw hopen ih =>
      have hopen' : (p before (w ++ CodePoint.ofChar '\n' :: t ++ s)).isSome := by
        rwa [hts before _ (List.append_ne_nil_of_right_ne_nil _ (List.cons_ne_nil _ _))
          List.suffix_rfl]
      have hrest := ih (hts.of_suffix ((List.suffix_cons _ _).trans (List.suffix_append _ _)))
      rw [hp.dropComments_some hopen, hp.dropComments_some hopen', endsInComment_lineFeed,
        lastOf_append, lastOf_cons, List.append_assoc, List.cons_append,
        fromLineEnd_append_lineFeed hw, fromLineEnd_append_lineFeed hw, hp.dropComments_lineFeed,
        hp.dropComments_lineFeed, List.cons_append, List.cons_append, List.cons.injEq,
        List.cons.injEq]
      exact ⟨fun h => ⟨rfl, hrest.1 h⟩, fun h => ⟨rfl, hrest.2 h⟩⟩
  | last before w hw hopen =>
      refine ⟨fun _ => ?_, fun h => absurd ⟨[], w, rfl, hw, hopen⟩ h⟩
      have hopen' : (p before (w ++ s)).isSome := by
        refine (hts before w ?_ List.suffix_rfl).trans hopen
        rintro rfl
        rw [hp.none_of_atLineEnd fun _ hc => by cases hc] at hopen
        cases hopen
      rw [hp.dropComments_some hopen, hp.dropComments_some hopen', fromLineEnd_append hw,
        fromLineEnd_of_notMem hw]
      rfl

/-- From the end of a line on, comments are dropped apart from what stands before. -/
theorem dropComments_append_atLineEnd (hp : IsLineComment p) {t s : Text} (hs : AtLineEnd s)
    (hts : ReadsApart p t s) (before : Option CodePoint) :
    dropComments p before (t ++ s) = dropComments p before t ++ dropComments p none s := by
  obtain ⟨hinside, houtside⟩ := hp.dropComments_append hts before
  by_cases hend : EndsInComment p before t
  · rw [hinside hend, fromLineEnd_of_atLineEnd hs]
  · rw [houtside hend, hp.dropComments_atLineEnd hs (lastOf t before)]

/-- **A comment put at the end of a line is dropped**, in a comment that begins before it as well as
outside. -/
theorem dropComments_insert (hp : IsLineComment p) {u k s : Text} {before : Option CodePoint}
    (hk : CodePoint.ofChar '\n' ∉ k) (hs : AtLineEnd s)
    (hread : (p (lastOf u before) (k ++ s)).isSome) (huk : ReadsApart p u (k ++ s))
    (hus : ReadsApart p u s) :
    dropComments p before (u ++ (k ++ s)) = dropComments p before (u ++ s) := by
  obtain ⟨hinside, houtside⟩ := hp.dropComments_append huk before
  obtain ⟨hinside', houtside'⟩ := hp.dropComments_append hus before
  by_cases hend : EndsInComment p before u
  · rw [hinside hend, hinside' hend, fromLineEnd_append hk]
  · rw [houtside hend, houtside' hend, hp.dropComments_some hread, fromLineEnd_append hk,
      fromLineEnd_of_atLineEnd hs, hp.dropComments_atLineEnd hs (lastOf u before)]

end IsLineComment

theorem dropComments_sublist (p : Pattern Unit) (before : Option CodePoint) (t : Text) :
    (dropComments p before t).Sublist t := by
  induction before, t using scan_induction p with
  | nil before => exact .slnil
  | token before c rest a n hread ih =>
      rw [dropComments, replaceFrom_token hread, List.nil_append]
      exact ih.trans ((List.drop_sublist n rest).trans (List.sublist_cons_self c rest))
  | plain before c rest hread ih =>
      rw [dropComments, replaceFrom_plain hread]
      exact ih.cons_cons c

/-! ### Two slashes -/

/-- The mark that begins a line comment of braced code. -/
def lineOpen : Text := ['/', '/']

theorem lineOpen_prefix_iff {c d : CodePoint} {rest : Text} :
    lineOpen <+: c :: d :: rest ↔ c = '/' ∧ d = '/' := by
  simp [lineOpen, eq_comm]

theorem slashComment_eq_some {before : Option CodePoint} {t : Text} {n : Nat} :
    slashComment before t = some ((), n) ↔
      lineOpen <+: t ∧ n = 2 + ((t.drop 2).takeWhile (· ≠ CodePoint.ofChar '\n')).length := by
  simp only [slashComment, anywhere, Reader.bind_eq_some, Reader.exactly_eq_some,
    Reader.run_eq_some, Reader.pure_eq_some]
  constructor
  · rintro ⟨_, _, _, ⟨hopen, rfl, rfl⟩, ⟨_, _, _, ⟨rfl, rfl⟩, ⟨-, rfl⟩, rfl⟩, rfl⟩
    exact ⟨hopen, rfl⟩
  · rintro ⟨hopen, rfl⟩
    exact ⟨_, _, _, ⟨hopen, rfl, rfl⟩, ⟨_, _, _, ⟨rfl, rfl⟩, ⟨trivial, rfl⟩, rfl⟩, rfl⟩

theorem isSome_slashComment {before : Option CodePoint} {t : Text} :
    (slashComment before t).isSome ↔ lineOpen <+: t := by
  rw [Option.isSome_iff_exists]
  constructor
  · rintro ⟨⟨⟨⟩, n⟩, hread⟩
    exact (slashComment_eq_some.mp hread).1
  · intro hopen
    exact ⟨_, slashComment_eq_some.mpr ⟨hopen, rfl⟩⟩

theorem isLineComment_slashComment : IsLineComment slashComment where
  pos hread := by
    have hn := (slashComment_eq_some.mp hread).2
    omega
  toLineEnd hread := by
    obtain ⟨⟨rest, rfl⟩, rfl⟩ := slashComment_eq_some.mp hread
    exact Nat.add_comm _ _

/-- Two slashes are not formed by the end of one text and the front of another. -/
theorem readsApart_slashComment {t s : Text} (ht : t.getLast? ≠ some (CodePoint.ofChar '/')) :
    ReadsApart slashComment t s := by
  intro before v hv hsuffix
  rw [Bool.eq_iff_iff, isSome_slashComment, isSome_slashComment]
  match v with
  | [c] =>
      obtain ⟨front, rfl⟩ := hsuffix
      rw [List.getLast?_concat] at ht
      constructor
      · rintro ⟨rest, hrest⟩
        obtain ⟨rfl, -⟩ := List.cons.inj hrest
        exact absurd rfl ht
      · exact fun hopen => hopen.trans (List.prefix_append _ _)
  | c :: d :: v => rw [List.cons_append, List.cons_append, lineOpen_prefix_iff, lineOpen_prefix_iff]

theorem AtLineEnd.prefix_of_append {k s : Text} (hs : AtLineEnd s) (hk : k ≠ [])
    (h : lineOpen <+: k ++ s) : lineOpen <+: k := by
  match k, s with
  | [c], [] => exact h
  | [c], d :: s =>
      have hd := (lineOpen_prefix_iff.mp h).2
      have hd' := hs d rfl
      rw [hd] at hd'
      exact absurd hd' (by decide)
  | c :: d :: k, s => exact lineOpen_prefix_iff.mpr (lineOpen_prefix_iff.mp h)

/-- A line end completes no two slashes. -/
theorem AtLineEnd.readsApart {s : Text} (hs : AtLineEnd s) (t : Text) :
    ReadsApart slashComment t s := by
  intro before v hv _
  rw [Bool.eq_iff_iff, isSome_slashComment, isSome_slashComment]
  exact ⟨hs.prefix_of_append hv, fun hopen => hopen.trans (List.prefix_append _ _)⟩

/-- What is put in front of a line end is not dropped unless it begins with two slashes. -/
theorem dropComments_slash_ne {k s : Text} {before : Option CodePoint}
    (hk : CodePoint.ofChar '\n' ∉ k) (hk' : k ≠ []) (hs : AtLineEnd s) (hopen : ¬ lineOpen <+: k) :
    dropComments slashComment before (k ++ s) ≠ dropComments slashComment before s := by
  obtain ⟨c, k, rfl⟩ := List.exists_cons_of_ne_nil hk'
  have hnone : slashComment before (c :: (k ++ s)) = none := by
    rw [← Option.isNone_iff_eq_none, ← Option.isSome_eq_false_iff, Bool.eq_false_iff]
    exact fun h => hopen (hs.prefix_of_append hk' (isSome_slashComment.mp h))
  rw [List.cons_append, IsLineComment.dropComments_none hnone]
  cases s with
  | nil => exact List.cons_ne_nil _ _
  | cons d s =>
      obtain rfl := hs d rfl
      rw [isLineComment_slashComment.dropComments_lineFeed]
      rintro h
      obtain ⟨rfl, -⟩ := List.cons.inj h
      exact hk List.mem_cons_self

/-- Text put at the end of a line is dropped exactly when it begins with two slashes or two slashes
stand on the line before it. -/
theorem dropComments_slash_insert_iff {u k s : Text} (hu : u.getLast? ≠ some (CodePoint.ofChar '/'))
    (hk : CodePoint.ofChar '\n' ∉ k) (hk' : k ≠ []) (hs : AtLineEnd s) :
    dropComments slashComment none (u ++ (k ++ s)) = dropComments slashComment none (u ++ s) ↔
      lineOpen <+: k ∨ EndsInComment slashComment none u := by
  have hp := isLineComment_slashComment
  obtain ⟨hinside, houtside⟩ :=
    hp.dropComments_append (readsApart_slashComment (s := k ++ s) hu) none
  obtain ⟨hinside', houtside'⟩ := hp.dropComments_append (readsApart_slashComment (s := s) hu) none
  by_cases hend : EndsInComment slashComment none u
  · rw [hinside hend, hinside' hend, fromLineEnd_append hk]
    exact iff_of_true rfl (Or.inr hend)
  · rw [or_iff_left hend]
    constructor
    · intro hsame
      rw [houtside hend, houtside' hend, List.append_cancel_left_eq] at hsame
      exact Classical.byContradiction fun hopen => dropComments_slash_ne hk hk' hs hopen hsame
    · intro hopen
      exact hp.dropComments_insert hk hs
        (isSome_slashComment.mpr (hopen.trans (List.prefix_append _ _)))
        (readsApart_slashComment hu) (readsApart_slashComment hu)

/-! ### A hash sign -/

theorem hashComment_eq_some {before : Option CodePoint} {t : Text} {n : Nat} :
    hashComment before t = some ((), n) ↔
      before ≠ some (CodePoint.ofChar '\\') ∧ t.head? = some (CodePoint.ofChar '#') ∧
        n = 1 + ((t.drop 1).takeWhile (· ≠ CodePoint.ofChar '\n')).length := by
  rw [hashComment, after_eq_some, decide_eq_true_eq]
  refine and_congr_right fun _ => ?_
  simp only [Reader.bind_eq_some, Reader.char_eq_some, Reader.run_eq_some, Reader.pure_eq_some]
  constructor
  · rintro ⟨_, _, _, ⟨hopen, rfl, rfl⟩, ⟨_, _, _, ⟨rfl, rfl⟩, ⟨-, rfl⟩, rfl⟩, rfl⟩
    exact ⟨hopen, rfl⟩
  · rintro ⟨hopen, rfl⟩
    exact ⟨_, _, _, ⟨hopen, rfl, rfl⟩, ⟨_, _, _, ⟨rfl, rfl⟩, ⟨trivial, rfl⟩, rfl⟩, rfl⟩

theorem isSome_hashComment {before : Option CodePoint} {t : Text} :
    (hashComment before t).isSome ↔
      before ≠ some (CodePoint.ofChar '\\') ∧ t.head? = some (CodePoint.ofChar '#') := by
  rw [Option.isSome_iff_exists]
  constructor
  · rintro ⟨⟨⟨⟩, n⟩, hread⟩
    obtain ⟨hbefore, hopen, -⟩ := hashComment_eq_some.mp hread
    exact ⟨hbefore, hopen⟩
  · rintro ⟨hbefore, hopen⟩
    exact ⟨_, hashComment_eq_some.mpr ⟨hbefore, hopen, rfl⟩⟩

theorem isLineComment_hashComment : IsLineComment hashComment where
  pos hread := by
    have hn := (hashComment_eq_some.mp hread).2.2
    omega
  toLineEnd {before t n} hread := by
    obtain ⟨-, hopen, rfl⟩ := hashComment_eq_some.mp hread
    cases t with
    | nil => cases hopen
    | cons c rest =>
        obtain rfl := Option.some.inj hopen
        exact Nat.add_comm _ _

/-- Whether a comment begins at a hash sign shows there. -/
theorem readsApart_hashComment (t s : Text) : ReadsApart hashComment t s := by
  intro before v hv _
  obtain ⟨c, v, rfl⟩ := List.exists_cons_of_ne_nil hv
  rw [Bool.eq_iff_iff, isSome_hashComment, isSome_hashComment]
  rfl

/-! ### Comments of a layout -/

theorem stripBracedComments_eq (code : Text) :
    stripBracedComments code = dropComments slashComment none (stripBlockComments code) :=
  Pattern.replace_eq_replaceFrom ..

theorem stripIndentedComments_eq (code : Text) :
    stripIndentedComments code = dropComments hashComment none code :=
  Pattern.replace_eq_replaceFrom ..

theorem stripBracedComments_sublist (code : Text) : (stripBracedComments code).Sublist code := by
  rw [stripBracedComments_eq]
  exact (dropComments_sublist slashComment none _).trans (stripBlockComments_sublist code)

end BigO.Source
