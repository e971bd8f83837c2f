import BigO.Proofs.Braced.Site
import BigO.Proofs.Text.Overlap

/-! Which declarations and call sites the scans see. Another one can begin between the angle brackets,
but it cannot go on behind the outer one: what it holds of a parenthesis stands behind an angle bracket
of its own, and the first closing one ends both. So a scan sees exactly what is no part of another
one. -/

namespace BigO.Braced

open Pattern Reader

/-! ### One inside of another -/

/-- A code point that is not in the first of two texts stands in the second. -/
theorem exists_behind_of_notMem {c : CodePoint} {x y w w' : Text} (h : x ++ c :: y = w ++ w')
    (hc : c ∉ w) : ∃ z, x = w ++ z ∧ w' = z ++ c :: y := by
  rcases List.append_eq_append_iff.mp h with ⟨z, rfl, hz⟩ | hsplit
  · cases z with
    | nil => exact ⟨[], by simp, hz.symm⟩
    | cons d z =>
        obtain ⟨rfl, -⟩ := List.cons.inj hz
        exact absurd (List.mem_append_right x List.mem_cons_self) hc
  · exact hsplit

/-- A code point that is not in the second of two texts stands in the first. -/
theorem exists_before_of_notMem {c : CodePoint} {x y w w' : Text} (h : x ++ c :: y = w ++ w')
    (hc : c ∉ w') : ∃ z, w = x ++ c :: z ∧ y = z ++ w' := by
  rcases List.append_eq_append_iff.mp h with ⟨z, rfl, hz⟩ | ⟨z, -, rfl⟩
  · cases z with
    | nil =>
        rw [List.nil_append] at hz
        rw [← hz] at hc
        exact absurd List.mem_cons_self hc
    | cons d z =>
        obtain ⟨rfl, rfl⟩ := List.cons.inj hz
        exact ⟨z, rfl, rfl⟩
  · exact absurd (List.mem_append_right z List.mem_cons_self) hc

/-- The longer one of two beginnings of a text goes on behind the shorter one. -/
theorem exists_part_of_length_lt {y v w rest : Text} (h : y ++ v = w ++ rest)
    (hlength : y.length < w.length) : ∃ q, q ≠ [] ∧ w = y ++ q ∧ v = q ++ rest := by
  rcases List.append_eq_append_iff.mp h with ⟨q, rfl, rfl⟩ | ⟨q, rfl, -⟩
  · refine ⟨q, ?_, rfl, rfl⟩
    rintro rfl
    rw [List.append_nil] at hlength
    exact absurd hlength (Nat.lt_irrefl _)
  · rw [List.length_append] at hlength
    omega

theorem IsArguments.greater_notMem {args : Text} (h : IsArguments args) :
    CodePoint.ofChar '>' ∉ args := fun hmem => absurd (h.inside _ hmem) (by decide)

/-- Behind each opening angle bracket of a reading there is a closing one. -/
theorem IsGap.closes {hd g x y : Text} (hg : IsGap g) (hhd : Unbracketed hd)
    (h : x ++ CodePoint.ofChar '<' :: y = hd ++ g) : CodePoint.ofChar '>' ∈ y := by
  have hless : ∀ {w}, Unbracketed w → CodePoint.ofChar '<' ∉ w := fun hw hmem =>
    (hw _ hmem).2.1 rfl
  cases hg with
  | blank hblank =>
      refine absurd ?_ (hless (hhd.append (unbracketed_blank hblank)))
      rw [← h]
      exact List.mem_append_right x List.mem_cons_self
  | @typeArguments ws args ws' hblank hargs hblank' =>
      have hbehind : CodePoint.ofChar '<' ∉ CodePoint.ofChar '>' :: ws' := by
        rw [List.mem_cons, not_or]
        exact ⟨by decide, hless (unbracketed_blank hblank')⟩
      rw [← List.cons_append, ← List.append_assoc, ← List.append_assoc] at h
      obtain ⟨z, -, rfl⟩ := exists_before_of_notMem h hbehind
      exact List.mem_append_right z List.mem_cons_self

/-- A parenthesis in a reading, the last one apart, stands behind an opening angle bracket and no
closing one. -/
theorem IsGap.opens {hd g x y : Text} (hg : IsGap g) (hhd : Unbracketed hd)
    (h : x ++ CodePoint.ofChar '(' :: y = hd ++ g) :
    ∃ x₁ x₂, x = x₁ ++ CodePoint.ofChar '<' :: x₂ ∧ CodePoint.ofChar '>' ∉ x₂ := by
  have hparen : ∀ {w}, Unbracketed w → CodePoint.ofChar '(' ∉ w := fun hw hmem =>
    (hw _ hmem).1 rfl
  cases hg with
  | blank hblank =>
      refine absurd ?_ (hparen (hhd.append (unbracketed_blank hblank)))
      rw [← h]
      exact List.mem_append_right x List.mem_cons_self
  | @typeArguments ws args ws' hblank hargs hblank' =>
      have hbefore : CodePoint.ofChar '(' ∉ hd ++ (ws ++ [CodePoint.ofChar '<']) := by
        have hempty : CodePoint.ofChar '(' ∉ [CodePoint.ofChar '<'] := by decide
        rw [← List.append_assoc, List.mem_append, not_or]
        exact ⟨hparen (hhd.append (unbracketed_blank hblank)), hempty⟩
      have hbehind : CodePoint.ofChar '(' ∉ CodePoint.ofChar '>' :: ws' := by
        rw [List.mem_cons, not_or]
        exact ⟨by decide, hparen (unbracketed_blank hblank')⟩
      have hsplit : x ++ CodePoint.ofChar '(' :: y =
          (hd ++ (ws ++ [CodePoint.ofChar '<'])) ++ (args ++ CodePoint.ofChar '>' :: ws') := by
        rw [h]
        simp only [List.append_assoc, List.singleton_append]
      obtain ⟨z, rfl, hz⟩ := exists_behind_of_notMem hsplit hbefore
      obtain ⟨z', rfl, -⟩ := exists_before_of_notMem hz.symm hbehind
      refine ⟨hd ++ ws, z, by simp only [List.append_assoc, List.singleton_append], fun hmem => ?_⟩
      exact hargs.greater_notMem (List.mem_append_left _ hmem)

/-- A reading that begins inside another one does not go on behind it. -/
theorem IsGap.nested {y q z hd g hd' g' : Text} (hg : IsGap g) (hhd : Unbracketed hd)
    (hg' : IsGap g') (hhd' : Unbracketed hd') (hq : q ≠ [])
    (houter : y ++ q = hd ++ (g ++ [CodePoint.ofChar '(']))
    (hinner : q ++ z = hd' ++ (g' ++ [CodePoint.ofChar '('])) : z = [] := by
  obtain ⟨q₀, d, rfl⟩ := (List.eq_nil_or_concat q).resolve_left hq
  rw [List.concat_eq_append] at houter hinner
  rw [← List.append_assoc, ← List.append_assoc] at houter
  obtain ⟨hbody, hlast⟩ := List.append_inj' houter rfl
  obtain rfl := List.singleton_inj.mp hlast
  rcases List.eq_nil_or_concat z with rfl | ⟨z₀, d, rfl⟩
  · rfl
  rw [List.concat_eq_append, ← List.append_assoc, ← List.append_assoc] at hinner
  obtain ⟨hbody', -⟩ := List.append_inj' hinner rfl
  rw [List.append_assoc, List.singleton_append] at hbody'
  obtain ⟨x₁, x₂, rfl, hgreater⟩ := hg'.opens hhd' hbody'
  rw [← List.append_assoc] at hbody
  exact absurd (hg.closes hhd hbody) hgreater

/-- Behind the position between `u` and `v` stand a head of `a` of this kind, a gap and an opening
parenthesis. -/
def Opens (Head : Option CodePoint → Text → Text → Prop) (a u v : Text) : Prop :=
  ∃ hd g rest, v = hd ++ (g ++ CodePoint.ofChar '(' :: rest) ∧ Head u.getLast? a hd ∧ IsGap g

/-- The position is in the type arguments behind a head of this kind. -/
def InTypeArguments (Head : Option CodePoint → Text → Text → Prop) (u v : Text) : Prop :=
  ∃ x a hd ws args args' ws' rest, Head x.getLast? a hd ∧ AllBlank ws ∧
    IsArguments (args ++ args') ∧ AllBlank ws' ∧
    u = x ++ (hd ++ (ws ++ CodePoint.ofChar '<' :: args)) ∧
    v = args' ++ CodePoint.ofChar '>' :: (ws' ++ CodePoint.ofChar '(' :: rest)

/-- The position is inside of the head of a reading. -/
def InHead (Head : Option CodePoint → Text → Text → Prop) (u v : Text) : Prop :=
  ∃ x a y z g rest, Head x.getLast? a (y ++ z) ∧ y ≠ [] ∧ z ≠ [] ∧ IsGap g ∧ u = x ++ y ∧
    v = z ++ (g ++ CodePoint.ofChar '(' :: rest)

/-- A declaration or call site that is part of no other one. -/
structure Seen (Head : Option CodePoint → Text → Text → Prop) (a u v : Text) : Prop where
  opens : Opens Head a u v
  notInTypeArguments : ¬ InTypeArguments Head u v
  notInHead : ¬ InHead Head u v

/-- A part of a name in a gap is in type arguments. -/
theorem IsGap.exists_arguments {g z q : Text} {c : CodePoint} (hg : IsGap g)
    (hc : isNamePart c = true) (h : g = z ++ c :: q) :
    ∃ ws args args' ws', AllBlank ws ∧ IsArguments (args ++ c :: args') ∧ AllBlank ws' ∧
      z = ws ++ CodePoint.ofChar '<' :: args ∧ q = args' ++ CodePoint.ofChar '>' :: ws' := by
  have hblanks : ∀ {w}, AllBlank w → c ∉ w := by
    intro w hw hmem
    have hblank := hw c hmem
    rw [not_isBlank_of_isNamePart hc] at hblank
    cases hblank
  cases hg with
  | blank hblank =>
      refine absurd ?_ (hblanks hblank)
      rw [h]
      exact List.mem_append_right z List.mem_cons_self
  | @typeArguments ws args ws' hblank hargs hblank' =>
      have hbefore : c ∉ ws ++ [CodePoint.ofChar '<'] := by
        rw [List.mem_append, List.mem_singleton, not_or]
        exact ⟨hblanks hblank, ne_of_isNamePart (by decide) hc⟩
      have hbehind : c ∉ CodePoint.ofChar '>' :: ws' := by
        rw [List.mem_cons, not_or]
        exact ⟨ne_of_isNamePart (by decide) hc, hblanks hblank'⟩
      have hsplit : z ++ c :: q =
          (ws ++ [CodePoint.ofChar '<']) ++ (args ++ CodePoint.ofChar '>' :: ws') := by
        rw [← h, List.append_assoc, List.singleton_append]
      obtain ⟨args₁, rfl, hargs₁⟩ := exists_behind_of_notMem hsplit hbefore
      obtain ⟨args₂, rfl, rfl⟩ := exists_before_of_notMem hargs₁.symm hbehind
      refine ⟨ws, args₁, args₂, ws', hblank, hargs, hblank', ?_, rfl⟩
      rw [List.append_assoc, List.singleton_append]

section Opening

variable {p : Pattern Text} {Head : Option CodePoint → Text → Text → Prop} (hp : IsOpening p Head)
include hp

theorem IsOpening.exists_takes {before : Option CodePoint} {t a : Text} {n : Nat}
    (h : p before t = some (a, n)) :
    ∃ hd g rest, t = hd ++ (g ++ [CodePoint.ofChar '(']) ++ rest ∧
      n = (hd ++ (g ++ [CodePoint.ofChar '('])).length ∧ Head before a hd ∧ IsGap g := by
  obtain ⟨w, rest, rfl, rfl, htakes⟩ := (hp.inside before).exists_takes h
  obtain ⟨hd, g, rfl, hhead, hgap⟩ := hp.takes_iff.mp htakes
  exact ⟨hd, g, rest, rfl, rfl, hhead, hgap⟩

theorem IsOpening.nested : p.Nested where
  pos h := by
    obtain ⟨hd, g, rest, -, rfl, -, -⟩ := hp.exists_takes h
    simp only [List.length_append, List.length_singleton]
    omega
  inside h := hp.inside _ _ _ _ h
  ends {before y v a b n m} houter hy hlength hinner := by
    obtain ⟨hd, g, rest, hsplit, rfl, hhead, hgap⟩ := hp.exists_takes houter
    obtain ⟨hd', g', rest', rfl, rfl, hhead', hgap'⟩ := hp.exists_takes hinner
    obtain ⟨q, hne, hq, hrest⟩ := exists_part_of_length_lt hsplit hlength
    rw [hq, show (y ++ q).length = y.length + q.length from List.length_append]
    refine Nat.add_le_add_left (Nat.le_of_not_lt fun hlonger => ?_) _
    obtain ⟨z, hz, hinner', -⟩ := exists_part_of_length_lt hrest.symm hlonger
    exact hz (hgap.nested (hp.unbracketed hhead) hgap' (hp.unbracketed hhead') hne hq.symm
      hinner'.symm)

/-- Where a part of a name stands, a position is covered in type arguments or in a head only. -/
theorem IsOpening.covers_cases {u v : Text} (hv : ∃ c ∈ v.head?, isNamePart c = true)
    (h : p.Covers none u v) : InTypeArguments Head u v ∨ InHead Head u v := by
  obtain ⟨x, y, a, n, rfl, hy, hread, hlength⟩ := h
  obtain ⟨hd, g, rest, hsplit, rfl, hhead, hgap⟩ := hp.exists_takes hread
  rw [lastOf, Option.or_none] at hhead
  obtain ⟨q, hne, hq, rfl⟩ := exists_part_of_length_lt hsplit hlength
  cases q with
  | nil => exact absurd rfl hne
  | cons c q =>
      obtain ⟨_, ⟨⟩, hc⟩ := hv
      rcases List.append_eq_append_iff.mp hq with ⟨z, rfl, hz⟩ | ⟨z, rfl, hz⟩
      · have hparen : c ∉ [CodePoint.ofChar '('] := by
          rw [List.mem_singleton]
          exact ne_of_isNamePart (by decide) hc
        obtain ⟨q', hgap', rfl⟩ := exists_before_of_notMem hz.symm hparen
        obtain ⟨ws, args, args', ws', hblank, hargs, hblank', rfl, rfl⟩ :=
          hgap.exists_arguments hc hgap'
        refine Or.inl ⟨x, a, hd, ws, args, c :: args', ws', rest, hhead, hblank, hargs, hblank',
          rfl, ?_⟩
        simp only [List.append_assoc, List.cons_append, List.nil_append]
      · have hbehind : z ≠ [] := by
          rintro rfl
          rw [List.nil_append] at hz
          have hpart := hgap.head_not_isNamePart [] c (by rw [← hz]; rfl)
          rw [hc] at hpart
          cases hpart
        refine Or.inr ⟨x, a, y, z, g, rest, hhead, hy, hbehind, hgap, rfl, ?_⟩
        rw [hz]
        simp only [List.append_assoc, List.singleton_append]

theorem IsOpening.read_eq_some {before : Option CodePoint} {a hd g : Text} (hhead : Head before a hd)
    (hgap : IsGap g) (rest : Text) :
    p before (hd ++ (g ++ CodePoint.ofChar '(' :: rest)) =
      some (a, (hd ++ (g ++ [CodePoint.ofChar '('])).length) := by
  have htakes : (p before).Takes (hd ++ (g ++ [CodePoint.ofChar '('])) rest a :=
    hp.takes_iff.mpr ⟨hd, g, rfl, hhead, hgap⟩
  simpa only [Takes, List.append_assoc, List.singleton_append] using htakes

theorem IsOpening.exists_read_iff {a u v : Text} :
    (∃ n, p (lastOf u none) v = some (a, n)) ↔ Opens Head a u v := by
  rw [lastOf, Option.or_none]
  constructor
  · rintro ⟨n, hread⟩
    obtain ⟨hd, g, rest, rfl, -, hhead, hgap⟩ := hp.exists_takes hread
    exact ⟨hd, g, rest, by simp only [List.append_assoc, List.singleton_append], hhead, hgap⟩
  · rintro ⟨hd, g, rest, rfl, hhead, hgap⟩
    exact ⟨_, hp.read_eq_some hhead hgap rest⟩

/-- What stands inside of a reading is covered by it. -/
theorem IsOpening.covers_of_inside {a x hd g y v : Text} (hhead : Head x.getLast? a hd)
    (hgap : IsGap g) (rest : Text) (hsplit : y ++ v = hd ++ (g ++ CodePoint.ofChar '(' :: rest))
    (hy : y ≠ []) (hlength : y.length ≤ (hd ++ g).length) : p.Covers none (x ++ y) v := by
  refine ⟨x, y, a, (hd ++ (g ++ [CodePoint.ofChar '('])).length, rfl, hy, ?_, ?_⟩
  · rw [lastOf, Option.or_none, hsplit]
    exact hp.read_eq_some hhead hgap rest
  · simp only [List.length_append, List.length_singleton] at hlength ⊢
    omega

theorem IsOpening.head_isNamePart {a u v : Text} (h : Opens Head a u v) :
    ∃ c ∈ v.head?, isNamePart c = true := by
  obtain ⟨hd, g, rest, rfl, hhead, -⟩ := h
  exact hp.begins _ hhead

theorem IsOpening.covers_iff {a u v : Text} (h : Opens Head a u v) :
    p.Covers none u v ↔ InTypeArguments Head u v ∨ InHead Head u v := by
  refine ⟨hp.covers_cases (hp.head_isNamePart h), ?_⟩
  clear h
  rintro (⟨x, a, hd, ws, args, args', ws', rest, hhead, hblank, hargs, hblank', rfl, rfl⟩ |
    ⟨x, a, y, z, g, rest, hhead, hy, -, hgap, rfl, rfl⟩)
  · refine hp.covers_of_inside hhead (.typeArguments hblank hargs hblank') rest ?_ (by simp) ?_
    · simp only [List.append_assoc, List.cons_append]
    · simp only [List.length_append, List.length_cons]
      omega
  · refine hp.covers_of_inside hhead hgap rest (List.append_assoc _ _ _).symm hy ?_
    simp only [List.length_append]
    omega

/-- A site is read openly when it is part of no other one. -/
theorem IsOpening.readsOpenly_iff {a u v : Text} :
    p.ReadsOpenly none a u v ↔ Seen Head a u v := by
  rw [ReadsOpenly, hp.exists_read_iff]
  constructor
  · rintro ⟨hopens, hcovers⟩
    rw [hp.covers_iff hopens, not_or] at hcovers
    exact ⟨hopens, hcovers.1, hcovers.2⟩
  · rintro ⟨hopens, harguments, hinHead⟩
    rw [hp.covers_iff hopens, not_or]
    exact ⟨hopens, harguments, hinHead⟩

end Opening

/-! ### Sites that only type arguments hide -/

/-- A name with an opening parenthesis behind it, blanks apart. -/
def Calls (a u v : Text) : Prop :=
  nameStart u.getLast? = true ∧
    ∃ ws rest, AllBlank ws ∧ v = a ++ (ws ++ CodePoint.ofChar '(' :: rest)

/-- The word `function` with blanks or asterisks behind it, and the name and an opening parenthesis
behind those, blanks apart. -/
def Declares (a u v : Text) : Prop :=
  wordStart u.getLast? = true ∧ ∃ sep ws rest, sep ≠ [] ∧ IsSeparator sep ∧ AllBlank ws ∧
    v = text "function" ++ (sep ++ (a ++ (ws ++ CodePoint.ofChar '(' :: rest)))

/-- Behind a part of a name no name starts. -/
theorem not_isNamePart_of_nameStart {x y : Text} (h : nameStart (x ++ y).getLast? = true) :
    ∀ c ∈ y.getLast?, isNamePart c = false := by
  intro c hc
  rw [List.getLast?_append, Option.mem_def.mp hc, Option.some_or, nameStart, Option.any_some] at h
  simpa using h

theorem Calls.seen_iff {a u v : Text} (ha : IsName a) (h : Calls a u v) :
    Seen CallHead a u v ↔ ¬ InTypeArguments CallHead u v := by
  obtain ⟨hu, ws, rest, hblank, rfl⟩ := h
  refine ⟨Seen.notInTypeArguments, fun harguments => ⟨?_, harguments, ?_⟩⟩
  · exact ⟨a, ws, rest, rfl, ⟨hu, ha, rfl⟩, .blank hblank⟩
  · rintro ⟨x, _, y, z, g, _, ⟨-, hname, rfl⟩, hy, -, -, rfl, -⟩
    have hlast := List.getLast?_eq_some_getLast hy
    have hpart := hname.2 _ (List.mem_append_left z (List.getLast_mem hy))
    rw [not_isNamePart_of_nameStart hu _ hlast] at hpart
    cases hpart

theorem isSeparator_not_isNamePart {c : CodePoint} (h : (c.isBlank || c = '*') = true) :
    isNamePart c = false := by
  rw [Bool.or_eq_true, decide_eq_true_eq] at h
  rcases h with hblank | rfl
  · exact not_isNamePart_of_isBlank hblank
  · decide

/-- The keyword of a declaration is not the end of the name in another one: blanks and asterisks with
a name behind them are no gap. -/
theorem keyword_ne_declared {b g sep rest s : Text} (hb : ∀ c ∈ b, isNamePart c = true)
    (hg : IsGap g) (hne : sep ≠ []) (hsep : IsSeparator sep)
    (hs : ∃ c ∈ s.head?, isNamePart c = true) :
    b ++ (g ++ CodePoint.ofChar '(' :: rest) ≠ text "function" ++ (sep ++ s) := by
  intro h
  have hstop : ∀ c ∈ (sep ++ s).head?, isNamePart c = false := by
    cases sep with
    | nil => exact absurd rfl hne
    | cons d sep =>
        rintro c ⟨⟩
        exact isSeparator_not_isNamePart (hsep d List.mem_cons_self)
  have hname : b = text "function" := by
    rw [← takeWhile_append_eq hb (hg.head_not_isNamePart rest), h]
    exact takeWhile_append_eq (by decide) hstop
  rw [hname] at h
  obtain ⟨ws, c, k, hsplit, hblank, hc⟩ := hg.exists_blank rest
  rw [List.append_cancel_left h] at hsplit
  obtain ⟨d, hhead, hd⟩ := hs
  have hruns : sep = ws := by
    have hsepEnds : ∀ e ∈ s.head?, (e.isBlank || e = '*') = false := by
      intro e he
      rw [Option.mem_def.mp hhead] at he
      cases he
      rw [Bool.eq_false_iff]
      intro hseparator
      rw [isSeparator_not_isNamePart hseparator] at hd
      cases hd
    have hwsEnds : ∀ e ∈ (c :: k).head?, (e.isBlank || e = '*') = false := by
      rintro e ⟨⟩
      rcases hc with rfl | rfl
      · decide
      · decide
    rw [← takeWhile_append_eq hsep hsepEnds, hsplit]
    refine takeWhile_append_eq (fun e he => ?_) hwsEnds
    rw [hblank e he]
    rfl
  rw [hruns] at hsplit
  rw [List.append_cancel_left hsplit] at hhead
  cases hhead
  rcases hc with rfl | rfl
  · exact absurd hd (by decide)
  · exact absurd hd (by decide)

/-- Behind its front the head of a declaration goes on with an `f` in the declared name only. -/
theorem isNamePart_of_inside_head {b sep y z : Text} (hb : IsName b) (hsep : IsSeparator sep)
    (h : y ++ z = text "function" ++ (sep ++ b)) (hy : y ≠ [])
    (hz : CodePoint.ofChar 'f' ∈ z.head?) : ∀ c ∈ z, isNamePart c = true := by
  cases y with
  | nil => exact absurd rfl hy
  | cons d y =>
      have hbehind : y ++ z = text "unction" ++ (sep ++ b) := (List.cons.inj h).2
      rcases List.append_eq_append_iff.mp hbehind with ⟨t, ht, rfl⟩ | ⟨t, rfl, hrest⟩
      · cases t with
        | nil =>
            cases sep with
            | nil => exact hb.2
            | cons e sep =>
                cases hz
                exact absurd (hsep _ List.mem_cons_self) (by decide)
        | cons e t =>
            cases hz
            have hmem : CodePoint.ofChar 'f' ∈ text "unction" :=
              ht ▸ List.mem_append_right y List.mem_cons_self
            exact absurd hmem (by decide)
      · rcases List.append_eq_append_iff.mp hrest with ⟨t', -, rfl⟩ | ⟨t', rfl, rfl⟩
        · exact fun c hc => hb.2 c (List.mem_append_right t' hc)
        · cases t' with
          | nil => exact hb.2
          | cons e t' =>
              cases hz
              exact absurd (hsep _ (List.mem_append_right t List.mem_cons_self)) (by decide)

theorem Declares.seen_iff {a u v : Text} (ha : IsName a) (h : Declares a u v) :
    Seen DeclarationHead a u v ↔ ¬ InTypeArguments DeclarationHead u v := by
  obtain ⟨hu, sep, ws, rest, hne, hsep, hblank, rfl⟩ := h
  refine ⟨Seen.notInTypeArguments, fun harguments => ⟨?_, harguments, ?_⟩⟩
  · refine ⟨text "function" ++ (sep ++ a), ws, rest, ?_, ⟨hu, ha, sep, hsep, rfl⟩, .blank hblank⟩
    simp only [List.append_assoc]
  · rintro ⟨x, b, y, z, g, rest', ⟨-, hb, sep', hsep', hhead⟩, hy, hz, hg, rfl, hbehind⟩
    have hf : CodePoint.ofChar 'f' ∈ z.head? := by
      cases z with
      | nil => exact absurd rfl hz
      | cons c z => exact congrArg some (List.cons.inj hbehind).1.symm
    exact keyword_ne_declared (isNamePart_of_inside_head hb hsep' hhead hy hf) hg hne hsep
      (ha.head_isNamePart _) hbehind.symm

end BigO.Braced
