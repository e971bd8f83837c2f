import BigO.Proofs.Source.Literal
import BigO.Proofs.Source.PaddedScan

/-! Line endings. A text whose lines end in a carriage return and a line feed is stripped of its
comments as the text with line feeds is, up to the carriage returns; where no backslash stands it is
masked in the same way. Line by line the two differ by a carriage return at the end at most. -/

namespace BigO

open Source Pattern

/-- The text with a carriage return in front of every line feed. -/
def withReturns (t : Text) : Text :=
  t.flatMap fun c => if c = CodePoint.ofChar '\n' then [CodePoint.ofChar '\r', c] else [c]

variable {k : Nat}

theorem padded_nil : Padded k [] [] := .behind (fun _ hc => absurd hc List.not_mem_nil) k.zero_le

/-- Without slack the padding is of carriage returns alone. -/
theorem padded_withReturns (t : Text) : Padded 0 t (withReturns t) := by
  induction t with
  | nil => exact padded_nil
  | cons c t ih =>
      rw [withReturns, List.flatMap_cons]
      by_cases hc : c = CodePoint.ofChar '\n'
      · subst hc
        exact .returned ih
      · rw [if_neg hc]
        exact .cons c ih

namespace Padded

theorem eq_nil {t : Text} (h : Padded 0 [] t) : t = [] := by
  cases h with
  | behind hs hlen => exact List.length_eq_zero_iff.mp (Nat.le_zero.mp hlen)

theorem of_nil {t : Text} (h : Padded k t []) : t = [] := by
  cases h with
  | behind => rfl

theorem append {t t' s s' : Text} (h : Padded 0 t t') (hs : Padded k s s') :
    Padded k (t ++ s) (t' ++ s') := by
  induction h with
  | behind hfiller hlen =>
      rw [List.length_eq_zero_iff.mp (Nat.le_zero.mp hlen)]
      exact hs
  | cons c h ih => exact .cons c ih
  | returned h ih => exact .returned ih

theorem of_cons {c : CodePoint} (hc : c.isFiller = false) {t u : Text} (h : Padded k (c :: t) u) :
    ∃ t', u = c :: t' ∧ Padded k t t' := by
  cases h with
  | cons c h => exact ⟨_, rfl, h⟩
  | returned h => exact absurd hc (by decide)

/-- The parts of a text are padded each on its own. -/
theorem split {t s u : Text} (h : Padded k (t ++ s) u) :
    ∃ t' s', u = t' ++ s' ∧ Padded 0 t t' ∧ Padded k s s' := by
  induction t generalizing u with
  | nil => exact ⟨[], u, rfl, padded_nil, h⟩
  | cons c t ih =>
      rw [List.cons_append] at h
      cases h with
      | cons c h =>
          obtain ⟨t', s', rfl, ht, hs⟩ := ih h
          exact ⟨c :: t', s', rfl, .cons c ht, hs⟩
      | returned h =>
          obtain ⟨t', s', rfl, ht, hs⟩ := ih h
          exact ⟨_ :: _ :: t', s', rfl, .returned ht, hs⟩

/-- So are the parts around a code point that padding cannot bring in. -/
theorem split_behind {t u s : Text} {c : CodePoint} (hc : c.isFiller = false)
    (h : Padded k t (u ++ c :: s)) :
    ∃ t' s', t = t' ++ c :: s' ∧ Padded 0 t' u ∧ Padded k s' s := by
  generalize hw : u ++ c :: s = w at h
  induction h generalizing u with
  | behind hs hlen =>
      have hfiller := hs c (hw ▸ List.mem_append_right u List.mem_cons_self)
      rw [hc] at hfiller
      cases hfiller
  | cons d h ih =>
      cases u with
      | nil =>
          obtain ⟨rfl, rfl⟩ := List.cons.inj hw
          exact ⟨[], _, rfl, padded_nil, h⟩
      | cons e u =>
          obtain ⟨rfl, hrest⟩ := List.cons.inj hw
          obtain ⟨t', s', rfl, ht, hs⟩ := ih hrest
          exact ⟨e :: t', s', rfl, .cons e ht, hs⟩
  | returned h ih =>
      match u with
      | [] =>
          obtain ⟨rfl, -⟩ := List.cons.inj hw
          exact absurd hc (by decide)
      | [_] =>
          obtain ⟨-, hrest⟩ := List.cons.inj hw
          obtain ⟨rfl, -⟩ := List.cons.inj hrest
          exact absurd hc (by decide)
      | _ :: _ :: u =>
          obtain ⟨rfl, hline⟩ := List.cons.inj hw
          obtain ⟨rfl, hrest⟩ := List.cons.inj hline
          obtain ⟨t', s', rfl, ht, hs⟩ := ih hrest
          exact ⟨_ :: t', s', rfl, .returned ht, hs⟩

theorem mem_or {t t' : Text} (h : Padded 0 t t') {c : CodePoint} (hc : c ∈ t') :
    c ∈ t ∨ c = CodePoint.ofChar '\r' := by
  induction h with
  | behind hs hlen =>
      rw [List.length_eq_zero_iff.mp (Nat.le_zero.mp hlen)] at hc
      exact Or.inl hc
  | cons d h ih =>
      rw [List.mem_cons] at hc ⊢
      rcases hc with rfl | hc
      · exact Or.inl (Or.inl rfl)
      · exact (ih hc).imp_left Or.inr
  | returned h ih =>
      rw [List.mem_cons, List.mem_cons] at hc
      rw [List.mem_cons]
      rcases hc with rfl | rfl | hc
      · exact Or.inr rfl
      · exact Or.inl (Or.inl rfl)
      · exact (ih hc).imp_left Or.inr

theorem subset {t t' : Text} (h : Padded k t t') : t ⊆ t' := by
  induction h with
  | behind => exact List.nil_subset _
  | cons c h ih => exact List.cons_subset_cons c ih
  | returned h ih => exact List.subset_cons_of_subset _ (List.cons_subset_cons _ ih)

/-- Padding forms no mark. -/
theorem not_infix {w t t' : Text} (hw : w.IsSolid) (h : Padded k t t') (ht : ¬ w <:+: t) :
    ¬ w <:+: t' := by
  have hne : ∀ (c : CodePoint) s, c.isFiller = true → ¬ w <+: c :: s := by
    rintro c s hc ⟨rest, hrest⟩
    obtain ⟨d, w, rfl⟩ := List.exists_cons_of_ne_nil hw.1
    obtain ⟨rfl, -⟩ := List.cons.inj hrest
    rw [hw.2 d List.mem_cons_self] at hc
    cases hc
  induction h with
  | @behind s hs hlen =>
      clear hlen
      induction s with
      | nil => exact ht
      | cons c s ih =>
          rw [List.infix_cons_iff, not_or]
          exact ⟨hne c s (hs c List.mem_cons_self), ih fun d hd => hs d (List.mem_cons_of_mem _ hd)⟩
  | @cons c t t' h ih =>
      rw [List.infix_cons_iff, not_or] at ht ⊢
      refine ⟨fun hmark => ?_, ih ht.2⟩
      rcases Reader.Beside.skip_word hw.2 (.of_padded (.cons c h) none) with h' | h'
      · exact ht.1 h'.1
      · exact h'.2 hmark
  | @returned t t' h ih =>
      rw [List.infix_cons_iff, not_or] at ht
      rw [List.infix_cons_iff, List.infix_cons_iff, not_or, not_or]
      exact ⟨hne _ _ CodePoint.isFiller_return, hne _ _ CodePoint.isFiller_lineFeed, ih ht.2⟩

theorem eq_of_solid {w w' : Text} (hw : ∀ c ∈ w, c.isFiller = false) (h : Padded 0 w w') :
    w' = w := by
  induction h with
  | behind hs hlen => exact List.length_eq_zero_iff.mp (Nat.le_zero.mp hlen)
  | cons c h ih => rw [ih fun d hd => hw d (List.mem_cons_of_mem _ hd)]
  | returned h => exact absurd (hw _ List.mem_cons_self) (by decide)

theorem count_lineFeed {t t' : Text} (h : Padded 0 t t') :
    t.count (CodePoint.ofChar '\n') = t'.count (CodePoint.ofChar '\n') := by
  induction h with
  | behind hs hlen => rw [List.length_eq_zero_iff.mp (Nat.le_zero.mp hlen)]
  | cons c h ih => rw [List.count_cons, List.count_cons, ih]
  | returned h ih =>
      rw [List.count_cons, List.count_cons_of_ne (by decide), List.count_cons, ih]

end Padded

/-! ### Comments -/

namespace Source

theorem steady_slashComment : slashComment.Steady := by
  refine steady_anywhere ((Reader.steady_exactly (by decide)).bind fun _ => ?_)
  exact (Reader.tracks_run fun h => absurd h (by decide)).andThen (Reader.tracks_pure ())

theorem steady_hashComment : hashComment.Steady := by
  refine steady_after ((Reader.steady_char (by decide)).bind fun _ => ?_) _
  exact (Reader.tracks_run fun h => absurd h (by decide)).andThen (Reader.tracks_pure ())

theorem not_blockOpen_blank {c : CodePoint} (hc : c.isFiller = true) (t : Text) :
    ¬ blockOpen <+: c :: t := by
  rintro ⟨rest, hrest⟩
  obtain ⟨rfl, -⟩ := List.cons.inj hrest
  exact absurd hc (by decide)

/-- Removing block comments leaves a padded text. -/
theorem stripBlockComments_padded {t t' : Text} (h : Padded 0 t t') :
    Padded 0 (stripBlockComments t) (stripBlockComments t') := by
  induction t using block_induction generalizing t' with
  | nil =>
      rw [h.eq_nil]
      exact padded_nil
  | code c rest hopen ih =>
      cases h with
      | @cons _ _ rest' h =>
          have hopen' : ¬ blockOpen <+: c :: rest' := by
            rcases Reader.Beside.skip_word (w := blockOpen) (by decide)
              (.of_padded (.cons c h) none) with h' | h'
            · exact absurd h'.1 hopen
            · exact h'.2
          rw [stripBlockComments_code hopen, stripBlockComments_code hopen']
          exact .cons c (ih h)
      | returned h =>
          rw [stripBlockComments_code hopen,
            stripBlockComments_code (not_blockOpen_blank CodePoint.isFiller_return _),
            stripBlockComments_code (not_blockOpen_blank CodePoint.isFiller_lineFeed _)]
          exact .returned (ih h)
  | comment body rest hbody ih =>
      obtain ⟨_, _, rfl, hopen, h⟩ := h.split
      obtain ⟨body', _, rfl, hbody', h⟩ := h.split
      obtain ⟨_, rest', rfl, hclose, hrest⟩ := h.split
      rw [hopen.eq_of_solid (by decide), hclose.eq_of_solid (by decide),
        stripBlockComments_comment hbody,
        stripBlockComments_comment (hbody'.not_infix (by decide) hbody)]
      exact ih hrest
  | unclosed rest hrest =>
      obtain ⟨_, rest', rfl, hopen, h'⟩ := h.split
      have hrest' := h'.not_infix (by decide) hrest
      rw [hopen.eq_of_solid (by decide)] at h ⊢
      rwa [stripBlockComments_unclosed hrest, stripBlockComments_unclosed hrest']

theorem stripBracedComments_padded {t t' : Text} (h : Padded 0 t t') :
    Padded 0 (stripBracedComments t) (stripBracedComments t') := by
  rw [stripBracedComments, stripBracedComments, replace_eq_replaceFrom, replace_eq_replaceFrom]
  exact steady_slashComment.replaceFrom_padded []
    (.of_padded (stripBlockComments_padded h) none)

theorem stripIndentedComments_padded {t t' : Text} (h : Padded 0 t t') :
    Padded 0 (stripIndentedComments t) (stripIndentedComments t') := by
  rw [stripIndentedComments, stripIndentedComments, replace_eq_replaceFrom, replace_eq_replaceFrom]
  exact steady_hashComment.replaceFrom_padded [] (.of_padded h none)

/-! ### Literals -/

namespace Quote

theorem isPlain_of_body {q : Quote} {body : Text} (h : q.Body body)
    (hbackslash : CodePoint.ofChar '\\' ∉ body) : ∀ c ∈ body, q.isPlain c = true := by
  induction h with
  | nil => exact fun c hc => absurd hc List.not_mem_nil
  | escape hc hrest ih => exact absurd List.mem_cons_self hbackslash
  | plain hc hrest ih =>
      rw [List.mem_cons, not_or] at hbackslash
      exact List.forall_mem_cons.mpr ⟨hc, ih hbackslash.2⟩

theorem body_of_isPlain {q : Quote} {body : Text} (h : ∀ c ∈ body, q.isPlain c = true) :
    q.Body body := by
  induction body with
  | nil => exact .nil
  | cons c body ih =>
      obtain ⟨hc, hrest⟩ := List.forall_mem_cons.mp h
      exact .plain hc (ih hrest)

theorem isFiller_mark (q : Quote) : q.mark.isFiller = false := by
  cases q <;> decide

theorem isPlain_return (q : Quote) : q.isPlain '\r' = true := by
  cases q <;> decide

end Quote

/-- Without backslashes a body stays one when carriage returns are put in or taken out. -/
theorem body_iff_of_padded {q : Quote} {body body' : Text} (h : Padded 0 body body')
    (hbackslash : CodePoint.ofChar '\\' ∉ body) : q.Body body ↔ q.Body body' := by
  have hbackslash' : CodePoint.ofChar '\\' ∉ body' := fun hmem =>
    (h.mem_or hmem).elim hbackslash (by decide)
  constructor
  · intro hbody
    have hplain := Quote.isPlain_of_body hbody hbackslash
    refine Quote.body_of_isPlain fun c hc => ?_
    rcases h.mem_or hc with hc | rfl
    · exact hplain c hc
    · exact q.isPlain_return
  · intro hbody
    have hplain := Quote.isPlain_of_body hbody hbackslash'
    exact Quote.body_of_isPlain fun c hc => hplain c (h.subset hc)

/-- A literal in front of the padded text is one in front of the text. -/
theorem exists_literal_of_padded {q : Quote} {t body' rest' : Text}
    (h : Padded 0 t (q.mark :: (body' ++ q.mark :: rest')))
    (hbackslash : CodePoint.ofChar '\\' ∉ t) (hbody : q.Body body') :
    ∃ body rest, q.Body body ∧ t = q.mark :: (body ++ q.mark :: rest) := by
  obtain ⟨front, tail, rfl, hfront, htail⟩ := h.split_behind (u := []) q.isFiller_mark
  obtain rfl := hfront.of_nil
  obtain ⟨body, rest, rfl, hpadded, -⟩ := htail.split_behind q.isFiller_mark
  refine ⟨body, rest, (body_iff_of_padded hpadded fun hmem => hbackslash ?_).mpr hbody, rfl⟩
  exact List.mem_cons_of_mem _ (List.mem_append_left _ hmem)

/-- Masking a text without backslashes leaves a padded text. -/
theorem maskLiterals_padded {t t' : Text} (h : Padded 0 t t')
    (hbackslash : CodePoint.ofChar '\\' ∉ t) :
    Padded 0 (maskLiterals t) (maskLiterals t') := by
  induction t using literal_induction generalizing t' with
  | nil =>
      rw [h.eq_nil]
      exact padded_nil
  | literal q body rest hbody ih =>
      simp only [List.mem_cons, List.mem_append, not_or] at hbackslash
      obtain ⟨_, rfl, hbehind⟩ := h.of_cons q.isFiller_mark
      obtain ⟨body', _, rfl, hpadded, hclose⟩ := hbehind.split
      obtain ⟨rest', rfl, hrest⟩ := hclose.of_cons q.isFiller_mark
      have hbody' := (body_iff_of_padded hpadded hbackslash.2.1).mp hbody
      rw [maskLiterals_literal hbody, maskLiterals_literal hbody', emptied_literal, emptied_literal,
        hpadded.count_lineFeed]
      exact (ih hrest hbackslash.2.2.2).append_left _
  | plain c rest hnone ih =>
      have hrest : CodePoint.ofChar '\\' ∉ rest := fun hmem =>
        hbackslash (List.mem_cons_of_mem _ hmem)
      cases h with
      | @cons _ _ rest' h =>
          have hnone' : ∀ (q : Quote) body tail, q.Body body →
              c :: rest' ≠ q.mark :: (body ++ q.mark :: tail) := by
            intro q body tail hbody hsplit
            have hpadded := Padded.cons c h
            rw [hsplit] at hpadded
            obtain ⟨body', tail', hbody', hfront⟩ :=
              exists_literal_of_padded hpadded hbackslash hbody
            exact hnone q body' tail' hbody' hfront
          rw [maskLiterals_plain hnone, maskLiterals_plain hnone']
          exact .cons c (ih h hrest)
      | returned h =>
          rw [maskLiterals_plain hnone, maskLiterals_noQuote (by decide),
            maskLiterals_noQuote (by decide)]
          exact .returned (ih h hrest)

end Source

/-! ### Lines -/

/-- The second line is the first one, with or without a carriage return at its end. -/
def LineAlike (l l' : Text) : Prop := l' = l ∨ l' = l ++ [CodePoint.ofChar '\r']

theorem LineAlike.cons (c : CodePoint) {l l' : Text} (h : LineAlike l l') :
    LineAlike (c :: l) (c :: l') := by
  rcases h with rfl | rfl
  · exact Or.inl rfl
  · exact Or.inr rfl

theorem LineAlike.padded {l l' : Text} (h : LineAlike l l') : Padded 1 l l' := by
  rcases h with rfl | rfl
  · have hsame := (padded_nil (k := 1)).append_left l'
    rwa [List.append_nil] at hsame
  · refine Padded.append_filler (s := [CodePoint.ofChar '\r']) l fun c hc => ?_
    rw [List.mem_singleton.mp hc]
    exact CodePoint.isFiller_return

theorem Padded.lines {t t' : Text} (h : Padded 0 t t') :
    List.Forall₂ LineAlike t.lines t'.lines := by
  induction h with
  | behind hs hlen =>
      rw [List.length_eq_zero_iff.mp (Nat.le_zero.mp hlen)]
      exact .cons (Or.inl rfl) .nil
  | @cons c t t' h ih =>
      rw [Text.lines_cons, Text.lines_cons]
      by_cases hc : c = CodePoint.ofChar '\n'
      · subst hc
        rw [Text.consToLines_lineFeed (Text.lines_ne_nil t),
          Text.consToLines_lineFeed (Text.lines_ne_nil t')]
        exact .cons (Or.inl rfl) ih
      · obtain ⟨l, ls, hls⟩ := List.exists_cons_of_ne_nil (Text.lines_ne_nil t)
        obtain ⟨l', ls', hls'⟩ := List.exists_cons_of_ne_nil (Text.lines_ne_nil t')
        rw [hls, hls', List.forall₂_cons] at ih
        rw [hls, hls', Text.consToLines_of_ne hc, Text.consToLines_of_ne hc]
        exact .cons (ih.1.cons c) ih.2
  | @returned t t' h ih =>
      rw [Text.lines_cons, Text.lines_cons, Text.lines_cons,
        Text.consToLines_lineFeed (Text.lines_ne_nil t),
        Text.consToLines_lineFeed (Text.lines_ne_nil t'), Text.consToLines_of_ne (by decide)]
      exact .cons (Or.inr rfl) ih

section Related

variable {α : Type} {R : α → α → Prop} {as bs : List α}

theorem any_eq_of_forall₂ {f : α → Bool} (hf : ∀ a b, R a b → f a = f b)
    (h : List.Forall₂ R as bs) : as.any f = bs.any f := by
  induction h with
  | nil => rfl
  | cons hab _ ih => rw [List.any_cons, List.any_cons, hf _ _ hab, ih]

theorem foldl_eq_of_forall₂ {σ : Type} {step : σ → α → σ}
    (hstep : ∀ s a b, R a b → step s a = step s b) (h : List.Forall₂ R as bs) {s : σ} :
    as.foldl step s = bs.foldl step s := by
  induction h generalizing s with
  | nil => rfl
  | cons hab _ ih => rw [List.foldl_cons, List.foldl_cons, hstep s _ _ hab, ih]

end Related

end BigO
