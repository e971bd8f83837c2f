import BigO.Proofs.Source.Literal

/-! The division of a code at its literals. From a quote on there is at most one literal, so the first
position at which one begins settles where the division goes on, and there is one division alone in
which no literal begins outside of the literals. It is the one that the scan from the left finds:
masking empties its literals and keeps all else, on the lines where it was. -/

namespace BigO.Source

/-- A complete literal, its quotes included. -/
def IsLiteral (w : Text) : Prop :=
  ∃ (q : Quote) (body : Text), q.Body body ∧ w = q.mark :: (body ++ [q.mark])

theorem IsLiteral.ne_nil {w : Text} (h : IsLiteral w) : w ≠ [] := by
  obtain ⟨q, body, -, rfl⟩ := h
  exact List.cons_ne_nil _ _

/-- The literal with which a text begins is all that the reader takes. -/
theorem IsLiteral.exists_read {w : Text} (h : IsLiteral w) (s : Text) :
    ∃ q, literal none (w ++ s) = some (q, w.length) := by
  obtain ⟨q, body, hbody, rfl⟩ := h
  refine ⟨q, ?_⟩
  rw [List.cons_append, List.append_assoc, List.singleton_append, literal_body hbody]
  simp

/-- A text begins with at most one literal. -/
theorem IsLiteral.unique {w w' s s' : Text} (h : IsLiteral w) (h' : IsLiteral w')
    (heq : w ++ s = w' ++ s') : w = w' ∧ s = s' := by
  obtain ⟨q, hread⟩ := h.exists_read s
  obtain ⟨q', hread'⟩ := h'.exists_read s'
  rw [heq, hread', Option.some.injEq, Prod.mk.injEq] at hread
  exact List.append_inj heq hread.2.symm

/-- At no position of the text begins a literal, which may run on into what stands behind. -/
def NoneBegins (outside behind : Text) : Prop :=
  ∀ front c rest, outside = front ++ c :: rest →
    ∀ w, IsLiteral w → ¬ w <+: c :: (rest ++ behind)

theorem noneBegins_nil (behind : Text) : NoneBegins [] behind := by
  intro front c rest hsplit
  simp at hsplit

theorem NoneBegins.cons {c : CodePoint} {outside behind : Text} (h : NoneBegins outside behind)
    (hc : ∀ w, IsLiteral w → ¬ w <+: c :: (outside ++ behind)) :
    NoneBegins (c :: outside) behind := by
  intro front d rest hsplit
  cases front with
  | nil =>
      obtain ⟨rfl, rfl⟩ := List.cons.inj hsplit
      exact hc
  | cons e front => exact h front d rest (List.cons.inj hsplit).2

/-- A literal begins behind the whole of such a text only. -/
theorem NoneBegins.eq_nil {front between behind w s : Text}
    (h : NoneBegins (front ++ between) behind) (hw : IsLiteral w)
    (heq : w ++ s = between ++ behind) : between = [] := by
  cases between with
  | nil => rfl
  | cons c rest => exact absurd ⟨s, heq⟩ (h front c rest rfl w hw)

/-- A code divided at literals: what stands outside and the literal behind it, in turn, and what
stands behind the last literal. -/
inductive Division where
  | outside (rest : Text)
  | literal (front quoted : Text) (behind : Division)

namespace Division

/-- What is written of a division when each literal is written as `f` says. -/
def render (f : Text → Text) : Division → Text
  | .outside rest => rest
  | .literal front quoted behind => front ++ (f quoted ++ behind.render f)

/-- The code that is divided. -/
def code (d : Division) : Text := d.render id

/-- The literals are literals, and outside of them none begins. -/
def IsComplete : Division → Prop
  | .outside rest => NoneBegins rest []
  | .literal front quoted behind =>
    NoneBegins front (quoted ++ behind.code) ∧ IsLiteral quoted ∧ behind.IsComplete

/-- The code is divided at all its literals. -/
structure Divides (d : Division) (code : Text) : Prop where
  code_eq : d.code = code
  isComplete : d.IsComplete

/-- What stands outside of the literals, each part with the number of the line on which it begins
when each literal is written as `f` says. The first part begins on the given line. -/
def places (f : Text → Text) : (line : Nat) → Division → List (Nat × Text)
  | line, .outside rest => [(line, rest)]
  | line, .literal front quoted behind =>
    (line, front) :: behind.places f (line + (front ++ f quoted).count (CodePoint.ofChar '\n'))

/-! ### There is one division -/

/-- Two divisions of one code agree up to the first literal. -/
theorem front_eq {front front' quoted quoted' s s' : Text}
    (h : NoneBegins front (quoted ++ s)) (h' : NoneBegins front' (quoted' ++ s'))
    (hquoted : IsLiteral quoted) (hquoted' : IsLiteral quoted')
    (heq : front ++ (quoted ++ s) = front' ++ (quoted' ++ s')) : front = front' := by
  rcases List.append_eq_append_iff.mp heq with ⟨between, rfl, hbehind⟩ | ⟨between, rfl, hbehind⟩
  · rw [h'.eq_nil hquoted hbehind, List.append_nil]
  · rw [h.eq_nil hquoted' hbehind, List.append_nil]

theorem IsComplete.outside_ne_literal {rest front quoted : Text} {behind : Division}
    (h : (outside rest).IsComplete) (hquoted : IsLiteral quoted) :
    (outside rest).code ≠ (literal front quoted behind).code := by
  intro heq
  change rest = front ++ (quoted ++ behind.code) at heq
  have hnone : NoneBegins (front ++ (quoted ++ behind.code)) [] := heq ▸ h
  have hnil := hnone.eq_nil hquoted (List.append_nil _).symm
  exact hquoted.ne_nil (List.append_eq_nil_iff.mp hnil).1

theorem IsComplete.unique {d d' : Division} (h : d.IsComplete) (h' : d'.IsComplete)
    (heq : d.code = d'.code) : d = d' := by
  induction d generalizing d' with
  | outside rest =>
      cases d' with
      | outside rest' => exact congrArg outside heq
      | literal front' quoted' behind' => exact absurd heq (h.outside_ne_literal h'.2.1)
  | literal front quoted behind ih =>
      obtain ⟨hfront, hquoted, hbehind⟩ := h
      cases d' with
      | outside rest' => exact absurd heq.symm (h'.outside_ne_literal hquoted)
      | literal front' quoted' behind' =>
          obtain ⟨hfront', hquoted', hbehind'⟩ := h'
          obtain rfl := front_eq hfront hfront' hquoted hquoted' heq
          obtain ⟨rfl, hrest⟩ := hquoted.unique hquoted' (List.append_cancel_left heq)
          rw [ih hbehind hbehind' hrest]

/-- The division with one code point more in front, which is in no literal. -/
def push (c : CodePoint) : Division → Division
  | .outside rest => .outside (c :: rest)
  | .literal front quoted behind => .literal (c :: front) quoted behind

@[simp] theorem render_push (f : Text → Text) (c : CodePoint) (d : Division) :
    (d.push c).render f = c :: d.render f := by
  cases d <;> rfl

theorem IsComplete.push {c : CodePoint} {d : Division} (h : d.IsComplete)
    (hc : ∀ w, IsLiteral w → ¬ w <+: c :: d.code) : (d.push c).IsComplete := by
  cases d with
  | outside rest =>
      refine NoneBegins.cons h fun w hw => ?_
      rw [List.append_nil]
      exact hc w hw
  | literal front quoted behind => exact ⟨h.1.cons hc, h.2⟩

/-- The scan from the left divides the code, and masking empties the literals of its division. -/
theorem exists_divides (code : Text) :
    ∃ d : Division, d.Divides code ∧ maskLiterals code = d.render emptied := by
  induction code using literal_induction with
  | nil => exact ⟨.outside [], ⟨rfl, noneBegins_nil []⟩, rfl⟩
  | literal q body rest hbody ih =>
      obtain ⟨d, ⟨rfl, hcomplete⟩, hmasked⟩ := ih
      refine ⟨.literal [] (q.mark :: (body ++ [q.mark])) d,
        ⟨?_, noneBegins_nil _, ?_, hcomplete⟩, ?_⟩
      · change [] ++ (q.mark :: (body ++ [q.mark]) ++ d.code) = _
        simp
      · exact ⟨q, body, hbody, rfl⟩
      · rw [maskLiterals_literal hbody, hmasked]
        rfl
  | plain c rest hnone ih =>
      obtain ⟨d, ⟨rfl, hcomplete⟩, hmasked⟩ := ih
      refine ⟨d.push c, ⟨render_push id c d, hcomplete.push ?_⟩, ?_⟩
      · rintro w ⟨q, body, hbody, rfl⟩ ⟨tail, htail⟩
        refine hnone q body tail hbody ?_
        rw [← htail, List.cons_append, List.append_assoc, List.singleton_append]
      · rw [maskLiterals_plain hnone, hmasked, render_push]

/-! ### Lines -/

/-- An emptied literal has the line feeds of the literal. -/
theorem count_emptied (w : Text) :
    (emptied w).count (CodePoint.ofChar '\n') = w.count (CodePoint.ofChar '\n') := by
  have hquotes : (text "\"\"").count (CodePoint.ofChar '\n') = 0 := by decide
  rw [emptied, List.count_append, hquotes, List.count_replicate_self, Nat.zero_add]

theorem count_render_emptied (d : Division) :
    (d.render emptied).count (CodePoint.ofChar '\n') = d.code.count (CodePoint.ofChar '\n') := by
  induction d with
  | outside rest => rfl
  | literal front quoted behind ih =>
      change (front ++ (emptied quoted ++ behind.render emptied)).count _ =
        (front ++ (quoted ++ behind.code)).count _
      simp only [List.count_append, count_emptied, ih]

theorem places_emptied (d : Division) (line : Nat) : d.places emptied line = d.places id line := by
  induction d generalizing line with
  | outside rest => rfl
  | literal front quoted behind ih =>
      rw [places, places, ih, List.count_append, List.count_append, count_emptied, id]

end Division

/-- **Masking keeps all outside of the literals.** A code is divided at its literals in one way alone.
The masked code is what is written of that division with the literals emptied: it has as many lines,
and what stands outside of the literals begins on the lines on which it begins in the code. -/
theorem masking_keeps_outside (code : Text) :
    ∃ d : Division, (∀ d' : Division, d'.Divides code ↔ d' = d) ∧
      maskLiterals code = d.render emptied ∧
      (maskLiterals code).countLines = code.countLines ∧
      d.places emptied 1 = d.places id 1 := by
  obtain ⟨d, hdivides, hmasked⟩ := Division.exists_divides code
  refine ⟨d, fun d' => ⟨fun hdivides' => ?_, ?_⟩, hmasked, ?_, d.places_emptied 1⟩
  · exact hdivides'.isComplete.unique hdivides.isComplete
      (hdivides'.code_eq.trans hdivides.code_eq.symm)
  · rintro rfl
    exact hdivides
  · rw [Text.countLines, Text.countLines, hmasked, d.count_render_emptied, hdivides.code_eq]

end BigO.Source
