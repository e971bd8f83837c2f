import BigO.Proofs.Indented.Enclosed
import BigO.Proofs.Text.Search

/-! Comprehensions. An opening bracket begins a group anew, so the groups are all pairs of brackets with
no bracket between them, wherever other brackets are left open or closed twice. In a group the first
`for` is enough, since what stands behind a later one stands behind the first one as well. The
brackets at both ends of a group are no word characters: a word that is cut off inside of the group is
cut off in the code. -/

namespace BigO.Indented

open Pattern Reader

/-! ### Groups -/

/-- Neither an opening nor a closing bracket. -/
abbrev IsNoBracket (c : CodePoint) : Prop := c ≠ CodePoint.ofChar '[' ∧ c ≠ CodePoint.ofChar ']'

/-- A group of which `read` was read goes on to its closing bracket, and is then `g`. -/
def GroupEnds (g : Text) : Text → Text → Prop :=
  Text.Completes (CodePoint.ofChar ']') IsNoBracket (g = ·)

/-- The group stands somewhere in the text, with brackets around it. -/
def GroupIn (g t : Text) : Prop := ∃ u s, t = u ++ CodePoint.ofChar '[' :: s ∧ GroupEnds g [] s

section Groups

variable {g t : Text} {c : CodePoint}

theorem groupIn_open :
    GroupIn g (CodePoint.ofChar '[' :: t) ↔ GroupEnds g [] t ∨ GroupIn g t := by
  constructor
  · rintro ⟨u, s, hsplit, hends⟩
    cases u with
    | nil =>
        obtain ⟨-, rfl⟩ := List.cons.inj hsplit
        exact Or.inl hends
    | cons d u =>
        obtain ⟨-, rfl⟩ := List.cons.inj hsplit
        exact Or.inr ⟨u, s, rfl, hends⟩
  · rintro (hends | ⟨u, s, rfl, hends⟩)
    · exact ⟨[], t, rfl, hends⟩
    · exact ⟨CodePoint.ofChar '[' :: u, s, rfl, hends⟩

theorem groupIn_cons (hc : c ≠ CodePoint.ofChar '[') : GroupIn g (c :: t) ↔ GroupIn g t := by
  constructor
  · rintro ⟨u, s, hsplit, hends⟩
    cases u with
    | nil => exact absurd (List.cons.inj hsplit).1 hc
    | cons d u =>
        obtain ⟨-, rfl⟩ := List.cons.inj hsplit
        exact ⟨u, s, rfl, hends⟩
  · rintro ⟨u, s, rfl, hends⟩
    exact ⟨c :: u, s, rfl, hends⟩

/-- From here on the collection comes to hold the group. -/
def Enclosed.Gathers (e : Enclosed) (g t : Text) : Prop :=
  e.Comes (g = ·) (GroupEnds g · t) (GroupIn g t)

namespace Enclosed

theorem gathers_bracket (e : Enclosed) (c : CodePoint) :
    e.Gathers g (c :: t) ↔ (e.bracket c).Gathers g t := by
  unfold Gathers
  obtain ⟨closed, opened⟩ := e
  by_cases hopen : c = CodePoint.ofChar '['
  · subst hopen
    have hbracket : bracket { closed, opened } (CodePoint.ofChar '[') =
        { closed, opened := some [] } := rfl
    rw [hbracket, comes_some, List.reverse_nil, ← groupIn_open]
    cases opened with
    | none => rw [comes_none]
    | some inside =>
        -- the group that was open can not be closed any more
        have hlost : ¬ GroupEnds g inside.reverse (CodePoint.ofChar '[' :: t) :=
          Text.not_completes_cons (fun h => h.1 rfl) (by decide)
        rw [comes_some, or_iff_right hlost]
  · rw [groupIn_cons hopen]
    cases opened with
    | none =>
        have hbracket : bracket { closed, opened := none } c = { closed, opened := none } :=
          if_neg hopen
        rw [hbracket, comes_none, comes_none]
    | some inside =>
        by_cases hclose : c = CodePoint.ofChar ']'
        · subst hclose
          have hbracket : bracket { closed, opened := some inside } (CodePoint.ofChar ']') =
              { closed := inside.reverse :: closed, opened := none } := rfl
          have hends : GroupEnds g inside.reverse (CodePoint.ofChar ']' :: t) ↔
              g = inside.reverse := Text.completes_mark fun h => h.2 rfl
          rw [hbracket, comes_some, comes_closed, hends]
        · have hbracket : bracket { closed, opened := some inside } c =
              { closed, opened := some (c :: inside) } :=
            (if_neg hopen).trans (if_neg hclose)
          have hstep : GroupEnds g inside.reverse (c :: t) ↔
              GroupEnds g (inside.reverse ++ [c]) t :=
            Text.completes_cons (fun h => h.2 rfl) ⟨hopen, hclose⟩
          rw [hbracket, comes_some, comes_some, hstep, List.reverse_cons]

theorem exists_closed_foldl_bracket (e : Enclosed) (t : Text) :
    (∃ a ∈ (t.foldl bracket e).closed, g = a) ↔ e.Gathers g t := by
  induction t generalizing e with
  | nil =>
      have hopen : ∀ read, ¬ GroupEnds g read [] := fun _ => Text.not_completes_nil
      simp [Gathers, Comes, GroupIn, hopen]
  | cons c t ih => rw [List.foldl_cons, ih, ← e.gathers_bracket c]

end Enclosed

/-- The groups are the texts without brackets that stand between brackets. -/
theorem mem_bracketGroups_iff {code : Text} :
    g ∈ bracketGroups code ↔ ∃ front back,
      code = front ++ CodePoint.ofChar '[' :: (g ++ CodePoint.ofChar ']' :: back) ∧
        ∀ c ∈ g, IsNoBracket c := by
  have hrun := Enclosed.exists_closed_foldl_bracket (g := g) {} code
  rw [exists_eq_right', Enclosed.Gathers, Enclosed.comes_none] at hrun
  rw [bracketGroups, hrun, or_iff_right (by simp)]
  constructor
  · rintro ⟨front, _, rfl, _, back, rfl, hg, rfl⟩
    exact ⟨front, back, rfl, hg⟩
  · rintro ⟨front, back, rfl, hg⟩
    exact ⟨front, _, rfl, g, back, rfl, hg, rfl⟩

end Groups

/-! ### Words in a group -/

/-- No word character stands where the two texts meet what is between them. -/
def BoundsWord (u v : Text) : Prop :=
  (∀ c ∈ u.getLast?, c.isWord = false) ∧ ∀ c ∈ v.head?, c.isWord = false

/-- The brackets around a group cut off words as the ends of a text do. -/
theorem boundsWord_bracketed (front u v back : Text) :
    BoundsWord (front ++ CodePoint.ofChar '[' :: u) (v ++ CodePoint.ofChar ']' :: back) ↔
      BoundsWord u v := by
  have hopen : CodePoint.isWord '[' = false := by decide
  have hclose : CodePoint.isWord ']' = false := by decide
  unfold BoundsWord
  rw [List.getLast?_append, List.getLast?_cons, List.head?_append, List.head?_cons]
  apply and_congr
  · cases u.getLast? <;> simp [hopen]
  · cases v.head? <;> simp [hclose]

theorem isComprehension_iff_readsThen {t : Text} :
    isComprehension t = true ↔
      (word "for").ReadsThen ((word "in").ReadsThen fun _ _ => True) none t := by
  have hfor : (word "for").Apart := apart_wholeWord _
  have hin : (word "in").Apart := apart_wholeWord _
  rw [← hfor.any_find?_iff hin, isComprehension]
  cases (word "for").find? none t <;> rfl

theorem isComprehension_iff {t : Text} :
    isComprehension t = true ↔
      ∃ u m v, t = u ++ (text "for" ++ (m ++ (text "in" ++ v))) ∧
        BoundsWord u (m ++ (text "in" ++ v)) ∧ BoundsWord (u ++ (text "for" ++ m)) v := by
  have hfor : ∀ Q, (word "for").ReadsThen Q none t ↔ _ := fun Q =>
    readsThen_wholeWord_iff (w := text "for") (by decide) (by decide)
  have hin : ∀ before s, (word "in").ReadsThen (fun _ _ => True) before s ↔ _ := fun before s =>
    readsThen_wholeWord_iff (w := text "in") (by decide) (by decide)
  rw [isComprehension_iff_readsThen, hfor]
  simp only [hin, and_true]
  constructor
  · rintro ⟨u, _, rfl, hu, hfor, m, v, rfl, hm, hv⟩
    rw [← lastOf_append, wordStart_lastOf_none_iff, List.append_assoc] at hm
    exact ⟨u, m, v, rfl, ⟨wordStart_lastOf_none_iff.mp hu, hfor⟩, hm, hv⟩
  · rintro ⟨u, m, v, rfl, ⟨hu, hfor⟩, hm, hv⟩
    refine ⟨u, _, rfl, wordStart_lastOf_none_iff.mpr hu, hfor, m, v, rfl, ?_, hv⟩
    rwa [← lastOf_append, wordStart_lastOf_none_iff, List.append_assoc]

/-- **Comprehensions**: one is found exactly when between some pair of brackets, with no bracket in
between, the word `for` stands and behind it the word `in`, each of them a whole word of the code. -/
theorem hasComprehension_iff (code : Text) :
    hasComprehension code = true ↔
      ∃ front u m v back,
        code = front ++ CodePoint.ofChar '[' ::
          (u ++ (text "for" ++ (m ++ (text "in" ++ (v ++ CodePoint.ofChar ']' :: back))))) ∧
        (∀ c ∈ u ++ (m ++ v), c ≠ CodePoint.ofChar '[' ∧ c ≠ CodePoint.ofChar ']') ∧
        BoundsWord (front ++ CodePoint.ofChar '[' :: u)
          (m ++ (text "in" ++ (v ++ CodePoint.ofChar ']' :: back))) ∧
        BoundsWord (front ++ CodePoint.ofChar '[' :: (u ++ (text "for" ++ m)))
          (v ++ CodePoint.ofChar ']' :: back) := by
  have hfor : ∀ c ∈ text "for", IsNoBracket c := by decide
  have hin : ∀ c ∈ text "in", IsNoBracket c := by decide
  -- a word is whole in the code exactly when it is whole in the group
  have hwords : ∀ front u m v back,
      BoundsWord (front ++ CodePoint.ofChar '[' :: u)
          (m ++ (text "in" ++ (v ++ CodePoint.ofChar ']' :: back))) ∧
        BoundsWord (front ++ CodePoint.ofChar '[' :: (u ++ (text "for" ++ m)))
          (v ++ CodePoint.ofChar ']' :: back) ↔
      BoundsWord u (m ++ (text "in" ++ v)) ∧ BoundsWord (u ++ (text "for" ++ m)) v := by
    intro front u m v back
    have hfirst := boundsWord_bracketed front u (m ++ (text "in" ++ v)) back
    simp only [List.append_assoc] at hfirst
    rw [hfirst, boundsWord_bracketed]
  simp only [hwords]
  rw [hasComprehension, List.any_eq_true]
  constructor
  · rintro ⟨_, hgroup, hfound⟩
    obtain ⟨u, m, v, rfl, hbounds⟩ := isComprehension_iff.mp hfound
    obtain ⟨front, back, rfl, hbrackets⟩ := mem_bracketGroups_iff.mp hgroup
    refine ⟨front, u, m, v, back, by simp, ?_, hbounds⟩
    simp only [List.forall_mem_append] at hbrackets ⊢
    exact ⟨hbrackets.1, hbrackets.2.2.1, hbrackets.2.2.2.2⟩
  · rintro ⟨front, u, m, v, back, rfl, hbrackets, hbounds⟩
    refine ⟨_, mem_bracketGroups_iff.mpr ⟨front, back, ?_, ?_⟩,
      isComprehension_iff.mpr ⟨u, m, v, rfl, hbounds⟩⟩
    · simp
    · simp only [List.forall_mem_append] at hbrackets ⊢
      exact ⟨hbrackets.1, hfor, hbrackets.2.1, hin, hbrackets.2.2⟩

/-- An index inside of a comprehension hides it. -/
example :
    hasComprehension (text "[a for a in b]") = true ∧
      hasComprehension (text "[a[0] for a in b]") = false := by decide

end BigO.Indented
