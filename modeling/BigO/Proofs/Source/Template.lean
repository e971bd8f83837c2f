import BigO.Proofs.Source.Literal

/-! Templates. Between two backticks the language allows any escape, also that of a line feed, with
which a line is continued. Masking knows no such escape, and from a template with one it takes the
first backtick for a mark that opens nothing: the template stays in the text, and the scan goes on in
the middle of it. All other templates are masked. -/

namespace BigO.Source

open Quote

/-! ### Bodies from the front -/

theorem Quote.body_escape_iff {q : Quote} {c : CodePoint} {rest : Text} :
    q.Body (CodePoint.ofChar '\\' :: c :: rest) ↔ c ≠ '\n' ∧ q.Body rest := by
  constructor
  · intro h
    cases h with
    | escape hc hrest => exact ⟨hc, hrest⟩
    | plain hplain _ =>
        -- A backslash never stands for itself.
        rw [isPlain] at hplain
        simp at hplain
  · rintro ⟨hc, hrest⟩
    exact .escape hc hrest

theorem Quote.body_plain_iff {q : Quote} {c : CodePoint} {rest : Text} (hc : c ≠ '\\') :
    q.Body (c :: rest) ↔ q.isPlain c ∧ q.Body rest := by
  constructor
  · intro h
    cases h with
    | escape _ _ => exact absurd rfl hc
    | plain hplain hrest => exact ⟨hplain, hrest⟩
  · rintro ⟨hplain, hrest⟩
    exact .plain hplain hrest

/-! ### Templates -/

/-- What may stand between the backticks of a template: any code point behind a backslash, and any
that is neither a backtick nor a backslash. -/
inductive TemplateItem where
  | escaped (c : CodePoint)
  | plain (c : CodePoint) (hmark : c ≠ .backtick) (hbackslash : c ≠ '\\')
deriving DecidableEq

namespace TemplateItem

/-- How an item is written. -/
def written : TemplateItem → Text
  | escaped c => [CodePoint.ofChar '\\', c]
  | plain c _ _ => [c]

end TemplateItem

/-- What is written between the backticks. -/
def templateBody (items : List TemplateItem) : Text := items.flatMap TemplateItem.written

/-- The template with these items. -/
def template (items : List TemplateItem) : Text :=
  .backtick :: (templateBody items ++ [.backtick])

variable {items : List TemplateItem}

theorem isPlain_backtick {c : CodePoint} (hmark : c ≠ .backtick) (hbackslash : c ≠ '\\') :
    backtick.isPlain c = true := by
  simp [isPlain, mark, spansLines, hmark, hbackslash]

/-- The scan knows the body of a template unless a line is continued in it. -/
theorem body_templateBody_iff :
    backtick.Body (templateBody items) ↔ TemplateItem.escaped '\n' ∉ items := by
  induction items with
  | nil => simp [templateBody, Body.nil]
  | cons item items ih =>
      rw [templateBody, List.flatMap_cons, List.mem_cons, not_or]
      cases item with
      | escaped c =>
          change backtick.Body (CodePoint.ofChar '\\' :: c :: templateBody items) ↔ _
          rw [body_escape_iff, ih, TemplateItem.escaped.injEq, ne_comm]
      | plain c hmark hbackslash =>
          change backtick.Body (c :: templateBody items) ↔ _
          rw [body_plain_iff hbackslash, ih, isPlain_backtick hmark hbackslash]
          simp

/-- A literal that begins where a template does ends where the template does. -/
theorem body_templateBody_of_split {body tail : Text} (hbody : backtick.Body body)
    (h : templateBody items ++ [.backtick] = body ++ .backtick :: tail) :
    backtick.Body (templateBody items) := by
  induction items generalizing body with
  | nil => exact .nil
  | cons item items ih =>
      rw [templateBody, List.flatMap_cons, List.append_assoc] at h
      cases item with
      | escaped c =>
          change CodePoint.ofChar '\\' :: c :: (templateBody items ++ [.backtick]) = _ at h
          change backtick.Body (CodePoint.ofChar '\\' :: c :: templateBody items)
          have hmark : CodePoint.ofChar '\\' ≠ .backtick := by decide
          cases hbody with
          | nil => exact absurd (List.cons.inj h).1 hmark
          | escape hc hrest =>
              obtain ⟨-, hbehind⟩ := List.cons.inj h
              obtain ⟨rfl, htail⟩ := List.cons.inj hbehind
              exact .escape hc (ih hrest htail)
          | plain hplain _ =>
              obtain ⟨rfl, -⟩ := List.cons.inj h
              cases hplain
      | plain c hmark hbackslash =>
          change c :: (templateBody items ++ [.backtick]) = _ at h
          change backtick.Body (c :: templateBody items)
          cases hbody with
          | nil => exact absurd (List.cons.inj h).1 hmark
          | escape _ _ => exact absurd (List.cons.inj h).1 hbackslash
          | plain hplain hrest =>
              obtain ⟨rfl, htail⟩ := List.cons.inj h
              exact .plain hplain (ih hrest htail)

theorem maskLiterals_template :
    maskLiterals (template items) =
      if TemplateItem.escaped '\n' ∈ items then
        .backtick :: maskLiterals (templateBody items ++ [.backtick])
      else emptied (template items) := by
  split
  · next hcontinued =>
      refine maskLiterals_plain fun q body tail hbody hsplit => ?_
      obtain ⟨hmark, hsplit⟩ := List.cons.inj hsplit
      obtain rfl : q = backtick := by
        have hq := q.ofMark?_mark
        rw [← hmark] at hq
        exact (Option.some.inj hq).symm
      exact body_templateBody_iff.mp (body_templateBody_of_split hbody hsplit) hcontinued
  · next hbody =>
      have hmasked := maskLiterals_literal (body_templateBody_iff.mpr hbody) []
      rwa [maskLiterals_nil, List.append_nil] at hmasked

/-- **A template is masked unless a line is continued in it.** Where one is, the first backtick stays,
and all behind it is masked as a text on its own. -/
theorem template_masked_iff (items : List TemplateItem) :
    (maskLiterals (template items) = text "\"\"" ++ List.replicate
        ((templateBody items).count (CodePoint.ofChar '\n')) (CodePoint.ofChar '\n') ↔
      TemplateItem.escaped '\n' ∉ items) ∧
    maskLiterals (template items) =
      if TemplateItem.escaped '\n' ∈ items then
        .backtick :: maskLiterals (templateBody items ++ [.backtick])
      else emptied (template items) := by
  refine ⟨?_, maskLiterals_template⟩
  rw [maskLiterals_template]
  split
  · next hcontinued =>
      refine iff_of_false (fun heq => ?_) (not_not_intro hcontinued)
      cases (List.cons.inj heq).1
  · next hnone => exact iff_of_true (emptied_literal backtick (templateBody items)) hnone

/-- A template that is nothing but the break of a line behind a backslash is not masked. -/
theorem template_kept_at_continuation :
    template [.escaped '\n'] = text "`\\\n`" ∧
      maskLiterals (template [.escaped '\n']) = text "`\\\n`" ∧
      maskLiterals (template [.escaped '\n']) ≠ text "\"\"" ++ List.replicate
        ((templateBody [.escaped '\n']).count (CodePoint.ofChar '\n')) (CodePoint.ofChar '\n') := by
  decide

end BigO.Source
