import BigO.Proofs.Braced.Pattern
import BigO.Proofs.Text.Grammar

/-! What declarations and call sites look like. Each has a head, then blanks or type arguments between
blanks, then the opening parenthesis. -/

namespace BigO.Braced

open Pattern Reader

/-- A name begins as one and goes on with parts of names. -/
def IsName (w : Text) : Prop :=
  (∃ c ∈ w.head?, isNameStart c = true) ∧ ∀ c ∈ w, isNamePart c = true

instance (w : Text) : Decidable (IsName w) := inferInstanceAs (Decidable (_ ∧ _))

abbrev AllBlank (w : Text) : Prop := ∀ c ∈ w, c.isBlank = true

/-- What may stand between the keyword of a declaration and the name. -/
abbrev IsSeparator (w : Text) : Prop := ∀ c ∈ w, (c.isBlank || c = '*') = true

/-- What type arguments hold between their angle brackets. -/
structure IsArguments (w : Text) : Prop where
  short : w.length ≤ typeArgumentLimit
  inside : ∀ c ∈ w, (c ≠ '>' && c ≠ '\n') = true

/-- What may stand between a name and the parenthesis behind it. -/
inductive IsGap : Text → Prop
  | blank {ws : Text} : AllBlank ws → IsGap ws
  | typeArguments {ws args ws' : Text} : AllBlank ws → IsArguments args → AllBlank ws' →
      IsGap (ws ++ CodePoint.ofChar '<' :: (args ++ CodePoint.ofChar '>' :: ws'))

/-! ### Classes of code points -/

theorem not_isBlank_of_isNamePart {c : CodePoint} (h : isNamePart c = true) : c.isBlank = false := by
  rw [Bool.eq_false_iff]
  intro hblank
  rw [isNamePart, CodePoint.isWord_of_isBlank hblank, Bool.false_or, decide_eq_true_eq] at h
  rw [h] at hblank
  exact absurd hblank (by decide)

theorem ne_of_isNamePart {c : CodePoint} {x : Char} (hx : isNamePart x = false)
    (h : isNamePart c = true) : c ≠ x := by
  rintro rfl
  rw [hx] at h
  cases h

theorem ne_of_isBlank {c : CodePoint} {x : Char} (hx : CodePoint.isBlank x = false)
    (h : c.isBlank = true) : c ≠ x := by
  rintro rfl
  rw [hx] at h
  cases h

/-! ### What is taken -/

section Takes

variable {w rest : Text}

theorem takes_name_iff {v : Text} :
    name.Takes w rest v ↔ v = w ∧ IsName w ∧ ∀ c ∈ rest.head?, isNamePart c = false := by
  rw [name, takes_bind_iff]
  constructor
  · rintro ⟨c, _, w₂, rfl, hfirst, hmore⟩
    obtain ⟨rfl, hc⟩ := takes_one_iff.mp hfirst
    obtain ⟨more, w₃, w₄, rfl, hrun, hpure⟩ := takes_bind_iff.mp hmore
    obtain ⟨rfl, rfl⟩ := takes_pure_iff.mp hpure
    obtain ⟨rfl, hpart, hrest⟩ := takes_run_iff.mp hrun
    rw [List.append_nil]
    refine ⟨rfl, ⟨⟨c, rfl, hc⟩, ?_⟩, hrest⟩
    exact List.forall_mem_cons.mpr ⟨isNamePart_of_isNameStart hc, hpart⟩
  · rintro ⟨rfl, ⟨⟨c, hhead, hc⟩, hpart⟩, hrest⟩
    cases v with
    | nil => cases hhead
    | cons d v =>
        cases hhead
        refine ⟨c, [c], v, rfl, takes_one_iff.mpr ⟨rfl, hc⟩, takes_bind_iff.mpr ?_⟩
        refine ⟨v, v, [], (List.append_nil v).symm, takes_run_iff.mpr ⟨rfl, ?_, hrest⟩,
          takes_pure_iff.mpr ⟨rfl, rfl⟩⟩
        exact (List.forall_mem_cons.mp hpart).2

theorem takes_blanks_iff {v : Text} :
    blanks.Takes w rest v ↔ v = w ∧ AllBlank w ∧ ∀ c ∈ rest.head?, c.isBlank = false :=
  takes_run_iff

theorem takes_typeArguments_iff {u : Unit} :
    typeArguments.Takes w rest u ↔
      ∃ args ws, w = CodePoint.ofChar '<' :: (args ++ CodePoint.ofChar '>' :: ws) ∧
        IsArguments args ∧ AllBlank ws ∧ ∀ c ∈ rest.head?, c.isBlank = false := by
  rw [typeArguments, takes_bind_iff]
  constructor
  · rintro ⟨_, _, w₂, rfl, hless, hbehindLess⟩
    obtain ⟨rfl, -⟩ := takes_char_iff.mp hless
    obtain ⟨_, args, w₃, rfl, hargs, hbehindArgs⟩ := takes_bind_iff.mp hbehindLess
    obtain ⟨-, hinside, hshort⟩ := of_takes_runAtMost hargs
    obtain ⟨_, _, w₄, rfl, hgreater, hbehindGreater⟩ := takes_bind_iff.mp hbehindArgs
    obtain ⟨rfl, -⟩ := takes_char_iff.mp hgreater
    obtain ⟨_, ws, w₅, rfl, hws, hpure⟩ := takes_bind_iff.mp hbehindGreater
    obtain ⟨-, rfl⟩ := takes_pure_iff.mp hpure
    obtain ⟨-, hblank, hrest⟩ := takes_blanks_iff.mp hws
    rw [List.append_nil]
    exact ⟨args, ws, rfl, ⟨hshort, hinside⟩, hblank, hrest⟩
  · rintro ⟨args, ws, rfl, ⟨hshort, hinside⟩, hblank, hrest⟩
    refine ⟨_, [CodePoint.ofChar '<'], _, rfl, takes_char_iff.mpr ⟨rfl, rfl⟩, ?_⟩
    refine takes_bind_iff.mpr ⟨args, args, _, rfl, takes_runAtMost hinside hshort ?_, ?_⟩
    · rintro c ⟨⟩
      decide
    · refine takes_bind_iff.mpr ⟨_, [CodePoint.ofChar '>'], ws, rfl,
        takes_char_iff.mpr ⟨rfl, rfl⟩, takes_bind_iff.mpr ?_⟩
      exact ⟨ws, ws, [], (List.append_nil ws).symm, takes_blanks_iff.mpr ⟨rfl, hblank, hrest⟩,
        takes_pure_iff.mpr ⟨rfl, rfl⟩⟩

/-- The reader from behind the name on, which hands on the name. -/
abbrev opening (a : Text) : Reader Text := do
  beforeParenthesis
  let _ ← Reader.char '('
  return a

theorem takes_opening_iff {a b : Text} :
    (opening a).Takes w rest b ↔ b = a ∧ ∃ g, w = g ++ [CodePoint.ofChar '('] ∧ IsGap g := by
  rw [opening, takes_bind_iff]
  constructor
  · rintro ⟨_, g, w₂, rfl, hgap, hmore⟩
    obtain ⟨_, _, w₃, rfl, hparen, hpure⟩ := takes_bind_iff.mp hmore
    obtain ⟨rfl, -⟩ := takes_char_iff.mp hparen
    obtain ⟨rfl, rfl⟩ := takes_pure_iff.mp hpure
    rw [List.append_nil] at hgap ⊢
    refine ⟨rfl, g, rfl, ?_⟩
    obtain ⟨_, ws, w₄, rfl, hws, hoptional⟩ := takes_bind_iff.mp hgap
    obtain ⟨-, hblank, -⟩ := takes_blanks_iff.mp hws
    rcases takes_optional_iff.mp hoptional with ⟨_, harguments⟩ | ⟨rfl, -⟩
    · obtain ⟨args, ws', rfl, hargs, hblank', -⟩ := takes_typeArguments_iff.mp harguments
      exact .typeArguments hblank hargs hblank'
    · rw [List.append_nil]
      exact .blank hblank
  · rintro ⟨rfl, g, rfl, hgap⟩
    have hparen : ∀ c ∈ (CodePoint.ofChar '(' :: rest).head?, c.isBlank = false := by
      rintro c ⟨⟩
      decide
    refine ⟨(), g, [CodePoint.ofChar '('], rfl, takes_bind_iff.mpr ?_, takes_bind_iff.mpr
      ⟨_, [CodePoint.ofChar '('], [], rfl, takes_char_iff.mpr ⟨rfl, rfl⟩,
        takes_pure_iff.mpr ⟨rfl, rfl⟩⟩⟩
    cases hgap with
    | blank hblank =>
        exact ⟨g, g, [], (List.append_nil g).symm, takes_blanks_iff.mpr ⟨rfl, hblank, hparen⟩,
          takes_optional_iff.mpr (Or.inr ⟨rfl, rfl⟩)⟩
    | @typeArguments ws args ws' hblank hargs hblank' =>
        refine ⟨ws, ws, _, rfl, takes_blanks_iff.mpr ⟨rfl, hblank, ?_⟩, ?_⟩
        · rintro c ⟨⟩
          decide
        · exact takes_optional_iff.mpr (Or.inl ⟨(), takes_typeArguments_iff.mpr
            ⟨args, ws', rfl, hargs, hblank', hparen⟩⟩)

end Takes

/-! ### Heads -/

/-- The head of a call site of `a`. -/
def CallHead (before : Option CodePoint) (a hd : Text) : Prop :=
  nameStart before = true ∧ IsName a ∧ hd = a

/-- The head of a declaration of `a`. -/
def DeclarationHead (before : Option CodePoint) (a hd : Text) : Prop :=
  wordStart before = true ∧ IsName a ∧
    ∃ sep, IsSeparator sep ∧ hd = text "function" ++ (sep ++ a)

/-- Neither parentheses nor angle brackets are in the text. -/
def Unbracketed (w : Text) : Prop :=
  ∀ c ∈ w, c ≠ CodePoint.ofChar '(' ∧ c ≠ CodePoint.ofChar '<' ∧ c ≠ CodePoint.ofChar '>'

/-- What the pattern reads has a head of this kind, a gap and an opening parenthesis. -/
structure IsOpening (p : Pattern Text) (Head : Option CodePoint → Text → Text → Prop) : Prop where
  takes_iff {before : Option CodePoint} {w rest a : Text} :
    (p before).Takes w rest a ↔
      ∃ hd g, w = hd ++ (g ++ [CodePoint.ofChar '(']) ∧ Head before a hd ∧ IsGap g
  inside (before : Option CodePoint) : (p before).Inside
  begins {before : Option CodePoint} {a hd : Text} (rest : Text) :
    Head before a hd → ∃ c ∈ (hd ++ rest).head?, isNamePart c = true
  unbracketed {before : Option CodePoint} {a hd : Text} : Head before a hd → Unbracketed hd

theorem not_isNamePart_of_isBlank {c : CodePoint} (h : c.isBlank = true) : isNamePart c = false := by
  rw [Bool.eq_false_iff]
  intro hpart
  rw [not_isBlank_of_isNamePart hpart] at h
  cases h

/-- A gap and the parenthesis behind it are blanks, and then a bracket. -/
theorem IsGap.exists_blank {g : Text} (h : IsGap g) (rest : Text) :
    ∃ ws c k, g ++ CodePoint.ofChar '(' :: rest = ws ++ c :: k ∧ AllBlank ws ∧
      (c = CodePoint.ofChar '(' ∨ c = CodePoint.ofChar '<') := by
  cases h with
  | blank hblank => exact ⟨g, _, rest, rfl, hblank, Or.inl rfl⟩
  | typeArguments hblank _ _ =>
      exact ⟨_, _, _, List.append_assoc _ _ _, hblank, Or.inr rfl⟩

theorem IsGap.head_not_isNamePart {g : Text} (h : IsGap g) (rest : Text) :
    ∀ c ∈ (g ++ CodePoint.ofChar '(' :: rest).head?, isNamePart c = false := by
  obtain ⟨ws, d, k, hsplit, hblank, hd⟩ := h.exists_blank rest
  rw [hsplit]
  intro c hc
  cases ws with
  | nil =>
      cases hc
      rcases hd with rfl | rfl
      · decide
      · decide
  | cons e ws =>
      cases hc
      exact not_isNamePart_of_isBlank (hblank _ List.mem_cons_self)

theorem unbracketed_name {a : Text} (h : IsName a) : Unbracketed a := fun c hc =>
  have hpart := h.2 c hc
  ⟨ne_of_isNamePart (by decide) hpart, ne_of_isNamePart (by decide) hpart,
    ne_of_isNamePart (by decide) hpart⟩

theorem unbracketed_blank {w : Text} (h : AllBlank w) : Unbracketed w := fun c hc =>
  have hblank := h c hc
  ⟨ne_of_isBlank (by decide) hblank, ne_of_isBlank (by decide) hblank,
    ne_of_isBlank (by decide) hblank⟩

theorem Unbracketed.append {w w' : Text} (h : Unbracketed w) (h' : Unbracketed w') :
    Unbracketed (w ++ w') := List.forall_mem_append.mpr ⟨h, h'⟩

theorem IsName.head_isNamePart {a : Text} (h : IsName a) (rest : Text) :
    ∃ c ∈ (a ++ rest).head?, isNamePart c = true := by
  obtain ⟨⟨c, hhead, hc⟩, -⟩ := h
  cases a with
  | nil => cases hhead
  | cons d a =>
      cases hhead
      exact ⟨c, rfl, isNamePart_of_isNameStart hc⟩

theorem inside_name : name.Inside :=
  (inside_one _).bind fun _ => (inside_run _).bind fun _ => inside_pure _

theorem inside_typeArguments : typeArguments.Inside :=
  (inside_one _).bind fun _ => (inside_runAtMost _ _).bind fun _ => (inside_one _).bind fun _ =>
    (inside_run _).bind fun _ => inside_pure _

theorem inside_opening (a : Text) : (opening a).Inside :=
  Inside.bind ((inside_run _).bind fun _ => inside_typeArguments.optional) fun _ =>
    (inside_one _).bind fun _ => inside_pure a

theorem inside_after {r : Reader Text} (hr : r.Inside) (ok : Option CodePoint → Bool)
    (before : Option CodePoint) : (Pattern.after ok r before).Inside :=
  fun s a n h => hr s a n (after_eq_some.mp h).2

theorem isOpening_callSite : IsOpening callSite CallHead where
  takes_iff {before w rest a} := by
    rw [Takes, callSite, after_eq_some]
    change _ ∧ (name >>= opening).Takes w rest a ↔ _
    rw [takes_bind_iff]
    constructor
    · rintro ⟨hstart, _, w₁, w₂, rfl, hread, hopening⟩
      obtain ⟨rfl, hname, -⟩ := takes_name_iff.mp hread
      obtain ⟨rfl, g, rfl, hgap⟩ := takes_opening_iff.mp hopening
      exact ⟨a, g, rfl, ⟨hstart, hname, rfl⟩, hgap⟩
    · rintro ⟨_, g, rfl, ⟨hstart, hname, rfl⟩, hgap⟩
      refine ⟨hstart, _, _, _, rfl, takes_name_iff.mpr ⟨rfl, hname, ?_⟩,
        takes_opening_iff.mpr ⟨rfl, g, rfl, hgap⟩⟩
      rw [List.append_assoc]
      exact hgap.head_not_isNamePart rest
  inside := inside_after (inside_name.bind inside_opening) nameStart
  begins := by
    rintro before a hd rest ⟨-, hname, rfl⟩
    exact hname.head_isNamePart rest
  unbracketed := by
    rintro before a hd ⟨-, hname, rfl⟩
    exact unbracketed_name hname

/-- No separator goes on into the name behind it. -/
theorem IsName.head_not_separator {a : Text} (h : IsName a) (rest : Text) :
    ∀ c ∈ (a ++ rest).head?, (c.isBlank || c = '*') = false := by
  obtain ⟨⟨d, hhead, hd⟩, -⟩ := h
  cases a with
  | nil => cases hhead
  | cons e a =>
      cases hhead
      rintro c ⟨⟩
      have hpart := isNamePart_of_isNameStart hd
      rw [not_isBlank_of_isNamePart hpart, Bool.false_or, decide_eq_false_iff_not]
      exact ne_of_isNamePart (by decide) hpart

theorem unbracketed_separator {sep : Text} (h : IsSeparator sep) : Unbracketed sep := by
  intro c hc
  have hsep := h c hc
  rw [Bool.or_eq_true, decide_eq_true_eq] at hsep
  rcases hsep with hblank | rfl
  · exact ⟨ne_of_isBlank (by decide) hblank, ne_of_isBlank (by decide) hblank,
      ne_of_isBlank (by decide) hblank⟩
  · decide

theorem isOpening_declaration : IsOpening declaration DeclarationHead where
  takes_iff {before w rest a} := by
    rw [Takes, declaration, after_eq_some]
    change _ ∧ (exactly (text "function") >>= fun _ =>
      run (fun c => c.isBlank || c = '*') >>= fun _ => name >>= opening).Takes w rest a ↔ _
    rw [takes_bind_iff]
    constructor
    · rintro ⟨hstart, _, w₁, w₂, rfl, hkeyword, hbehind⟩
      obtain ⟨rfl, -⟩ := takes_exactly_iff.mp hkeyword
      obtain ⟨_, sep, w₃, rfl, hsep, hnamed⟩ := takes_bind_iff.mp hbehind
      obtain ⟨-, hall, -⟩ := takes_run_iff.mp hsep
      obtain ⟨_, w₄, w₅, rfl, hread, hopening⟩ := takes_bind_iff.mp hnamed
      obtain ⟨rfl, hname, -⟩ := takes_name_iff.mp hread
      obtain ⟨rfl, g, rfl, hgap⟩ := takes_opening_iff.mp hopening
      refine ⟨_, g, ?_, ⟨hstart, hname, sep, hall, rfl⟩, hgap⟩
      simp only [List.append_assoc]
    · rintro ⟨_, g, rfl, ⟨hstart, hname, sep, hsep, rfl⟩, hgap⟩
      refine ⟨hstart, _, text "function", sep ++ (a ++ (g ++ [CodePoint.ofChar '('])), ?_,
        takes_exactly_iff.mpr ⟨rfl, rfl⟩, takes_bind_iff.mpr ⟨sep, sep, _, rfl,
        takes_run_iff.mpr ⟨rfl, hsep, ?_⟩, takes_bind_iff.mpr ⟨a, a, _, rfl,
        takes_name_iff.mpr ⟨rfl, hname, ?_⟩, takes_opening_iff.mpr ⟨rfl, g, rfl, hgap⟩⟩⟩⟩
      · simp only [List.append_assoc]
      · rw [List.append_assoc]
        exact hname.head_not_separator _
      · rw [List.append_assoc]
        exact hgap.head_not_isNamePart rest
  inside := inside_after ((inside_exactly _).bind fun _ => (inside_run _).bind fun _ =>
    inside_name.bind inside_opening) wordStart
  begins := by
    rintro before a hd rest ⟨-, -, sep, -, rfl⟩
    exact ⟨CodePoint.ofChar 'f', rfl, by decide⟩
  unbracketed := by
    rintro before a hd ⟨-, hname, sep, hsep, rfl⟩
    have hkeyword : Unbracketed (text "function") := by
      rw [Unbracketed]
      decide
    exact hkeyword.append ((unbracketed_separator hsep).append (unbracketed_name hname))

end BigO.Braced
