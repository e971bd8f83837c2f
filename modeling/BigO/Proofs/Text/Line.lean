import BigO.Text.Basic

/-! Lines. A text is a line, or a line and a line feed with another text behind; so a fact about the
lines of a text is an induction with two cases. -/

namespace BigO.Text

theorem lines_cons (c : CodePoint) (t : Text) : lines (c :: t) = consToLines c (lines t) := rfl

theorem consToLines_lineFeed {ls : List Text} (hls : ls ≠ []) :
    consToLines (CodePoint.ofChar '\n') ls = [] :: ls := by
  cases ls with
  | nil => exact absurd rfl hls
  | cons l ls => rw [consToLines, if_pos rfl]

theorem consToLines_of_ne {c : CodePoint} (hc : c ≠ CodePoint.ofChar '\n') (l : Text)
    (ls : List Text) : consToLines c (l :: ls) = (c :: l) :: ls := if_neg hc

theorem lines_ne_nil (t : Text) : lines t ≠ [] := by
  cases t with
  | nil => exact List.cons_ne_nil _ _
  | cons c t =>
      rw [lines_cons]
      cases lines t with
      | nil => exact List.cons_ne_nil _ _
      | cons l ls =>
          rw [consToLines]
          split <;> exact List.cons_ne_nil _ _

theorem lines_append_lineFeed (t s : Text) :
    lines (t ++ CodePoint.ofChar '\n' :: s) = lines t ++ lines s := by
  induction t with
  | nil => exact consToLines_lineFeed (lines_ne_nil s)
  | cons c t ih =>
      rw [List.cons_append, lines_cons, lines_cons, ih]
      obtain ⟨l, ls, hls⟩ := List.exists_cons_of_ne_nil (lines_ne_nil t)
      rw [hls, List.cons_append]
      by_cases hc : c = CodePoint.ofChar '\n'
      · subst hc
        rfl
      · rw [consToLines_of_ne hc, consToLines_of_ne hc, List.cons_append]

theorem lines_of_notMem {t : Text} (ht : CodePoint.ofChar '\n' ∉ t) : lines t = [t] := by
  induction t with
  | nil => rfl
  | cons c t ih =>
      rw [List.mem_cons, not_or] at ht
      rw [lines_cons, ih ht.2, consToLines_of_ne (Ne.symm ht.1)]

/-- Induction along the lines of a text. -/
theorem line_induction {motive : Text → Prop}
    (last : ∀ l, CodePoint.ofChar '\n' ∉ l → motive l)
    (line : ∀ l t, CodePoint.ofChar '\n' ∉ l → motive t →
      motive (l ++ CodePoint.ofChar '\n' :: t))
    (t : Text) : motive t := by
  induction hlen : t.length using Nat.strongRecOn generalizing t with
  | ind len ih =>
      by_cases hline : CodePoint.ofChar '\n' ∈ t
      · obtain ⟨l, s, rfl, hl⟩ := List.eq_append_cons_of_mem hline
        refine line l s hl (ih _ ?_ s rfl)
        rw [List.length_append, List.length_cons] at hlen
        omega
      · exact last t hline

theorem lines_line {l : Text} (hl : CodePoint.ofChar '\n' ∉ l) (t : Text) :
    lines (l ++ CodePoint.ofChar '\n' :: t) = l :: lines t := by
  rw [lines_append_lineFeed, lines_of_notMem hl]
  rfl

/-- Lines that are joined are found again. -/
theorem lines_join {ls : List Text} (h : ∀ l ∈ ls, CodePoint.ofChar '\n' ∉ l) (hls : ls ≠ []) :
    lines (join (text "\n") ls) = ls := by
  induction ls with
  | nil => exact absurd rfl hls
  | cons l ls ih =>
      obtain ⟨hl, hrest⟩ := List.forall_mem_cons.mp h
      cases ls with
      | nil => rw [join, List.intercalate_singleton, lines_of_notMem hl]
      | cons l' ls =>
          have hjoin : join (text "\n") (l :: l' :: ls) =
              l ++ CodePoint.ofChar '\n' :: join (text "\n") (l' :: ls) := by
            rw [join, List.intercalate_cons_of_ne_nil (List.cons_ne_nil _ _), List.append_assoc]
            rfl
          rw [hjoin, lines_line hl, ih hrest (List.cons_ne_nil _ _)]

theorem infix_of_mem_lines {t l : Text} (h : l ∈ lines t) : l <:+: t := by
  induction t using line_induction with
  | last k hk =>
      rw [lines_of_notMem hk, List.mem_singleton] at h
      subst h
      exact List.infix_rfl
  | line k t hk ih =>
      rw [lines_line hk, List.mem_cons] at h
      rcases h with rfl | h
      · exact (List.prefix_append _ _).isInfix
      · exact (ih h).trans ((List.suffix_cons _ t).trans (List.suffix_append k _)).isInfix

theorem mem_of_mem_lines {t l : Text} (h : l ∈ lines t) {c : CodePoint} (hc : c ∈ l) : c ∈ t :=
  (infix_of_mem_lines h).subset hc

theorem lineFeed_notMem_of_mem_lines {t l : Text} (h : l ∈ lines t) :
    CodePoint.ofChar '\n' ∉ l := by
  induction t using line_induction with
  | last k hk =>
      rw [lines_of_notMem hk, List.mem_singleton] at h
      rwa [h]
  | line k t hk ih =>
      rw [lines_line hk, List.mem_cons] at h
      rcases h with rfl | h
      · exact hk
      · exact ih h

end BigO.Text
