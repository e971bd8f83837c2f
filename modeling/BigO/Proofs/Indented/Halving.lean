import BigO.Proofs.Indented.Call
import BigO.Proofs.Indented.Enclosed

/-! Calls of `divmod` whose last argument is two. The collection of arguments takes each first closing
parenthesis for one call only, so it never looks at a call inside the arguments of another. It misses
nothing by that: the two calls share the parenthesis, what stands behind the inner one is the end of
what stands behind the outer one, and at the place where the inner one begins there stands a
parenthesis, which is no part of a number. -/

namespace BigO.Indented

open Pattern Reader

/-! ### Arguments -/

theorem endsInTwo_iff {t : Text} :
    endsInTwo t = true ↔ ∃ front ws, t = front ++ CodePoint.ofChar '2' :: ws ∧
      wordStart front.getLast? = true ∧ ∀ c ∈ ws, c.isBlank = true := by
  unfold endsInTwo
  constructor
  · intro h
    have hsplit : t.reverse.takeWhile CodePoint.isBlank ++ t.reverse.dropWhile CodePoint.isBlank =
        t.reverse := List.takeWhile_append_dropWhile
    cases hrest : t.reverse.dropWhile CodePoint.isBlank with
    | nil =>
        rw [hrest] at h
        cases h
    | cons c back =>
        rw [hrest] at h hsplit
        obtain ⟨htwo, hstart⟩ := (Bool.and_eq_true _ _).mp h
        obtain rfl := of_decide_eq_true htwo
        have ht := congrArg List.reverse hsplit
        rw [List.reverse_reverse, List.reverse_append, List.reverse_cons, List.append_assoc] at ht
        refine ⟨back.reverse, (t.reverse.takeWhile CodePoint.isBlank).reverse, ht.symm, ?_, ?_⟩
        · rwa [List.getLast?_reverse]
        · intro d hd
          exact List.all_eq_true.mp List.all_takeWhile d (List.mem_reverse.mp hd)
  · rintro ⟨front, ws, rfl, hstart, hblank⟩
    have hback : ∀ c ∈ ws.reverse, c.isBlank = true := fun c hc => hblank c (List.mem_reverse.mp hc)
    rw [List.reverse_append, List.reverse_cons, List.append_assoc,
      List.dropWhile_append_of_pos hback, List.singleton_append,
      List.dropWhile_cons_of_neg (by decide)]
    rw [← List.head?_reverse] at hstart
    simp only [hstart, decide_true, Bool.and_self]

/-- A text that ends in two still does with a text before it that ends in no word. -/
theorem endsInTwo_append {x t : Text} (hx : ∀ c ∈ x.getLast?, c.isWord = false)
    (ht : endsInTwo t = true) : endsInTwo (x ++ t) = true := by
  obtain ⟨front, ws, rfl, hstart, hblank⟩ := endsInTwo_iff.mp ht
  refine endsInTwo_iff.mpr ⟨x ++ front, ws, (List.append_assoc ..).symm, ?_, hblank⟩
  rw [wordStart_iff] at hstart ⊢
  intro c hc
  rw [List.getLast?_append, Option.mem_def, Option.or_eq_some_iff] at hc
  rcases hc with hc | ⟨-, hc⟩
  · exact hstart c hc
  · exact hx c hc

/-- An argument of which `read` was read goes on to the first closing parenthesis so that all of it
ends in two. -/
def ArgumentEnds : Text → Text → Prop :=
  Text.Completes (CodePoint.ofChar ')') (· ≠ CodePoint.ofChar ')') (endsInTwo · = true)

/-- What stands behind an inner call is the end of what stands behind the outer one. -/
theorem ArgumentEnds.outer {read t : Text} (hread : ∀ c ∈ read.getLast?, c.isWord = false)
    (h : ArgumentEnds [] t) : ArgumentEnds read t := by
  obtain ⟨x, v, rfl, hx, hends⟩ := h
  exact ⟨x, v, rfl, hx, endsInTwo_append hread hends⟩

theorem argumentEnds_append {read w t : Text} (hw : ∀ c ∈ w, c ≠ CodePoint.ofChar ')') :
    ArgumentEnds read (w ++ t) ↔ ArgumentEnds (read ++ w) t :=
  Text.completes_append (fun h => h rfl) hw

/-- Behind some call in the text, be it inside of another one or not, the arguments end in two. -/
def HalvesIn : Option CodePoint → Text → Prop := divmodCall.ReadsThen fun _ => ArgumentEnds []

/-! ### The collection -/

/-- From here on the collection comes to hold an argument that ends in two. -/
def Enclosed.Halves (e : Enclosed) (before : Option CodePoint) (t : Text) : Prop :=
  e.Comes (endsInTwo · = true) (ArgumentEnds · t) (HalvesIn before t)

namespace Enclosed

variable {before : Option CodePoint} {t : Text}

theorem halves_plain (e : Enclosed) {c : CodePoint} (h : divmodCall before (c :: t) = none) :
    e.Halves before (c :: t) ↔ (e.argumentPiece (.plain c)).Halves (some c) t := by
  have hlater : HalvesIn before (c :: t) ↔ HalvesIn (some c) t := readsThen_plain h
  unfold Halves
  rw [hlater]
  obtain ⟨closed, opened⟩ := e
  cases opened with
  | none =>
      have hpiece : argumentPiece { closed, opened := none } (.plain c) =
          { closed, opened := none } := rfl
      rw [hpiece, comes_none, comes_none]
  | some inside =>
      by_cases hc : c = CodePoint.ofChar ')'
      · subst hc
        have hpiece : argumentPiece { closed, opened := some inside }
            (.plain (CodePoint.ofChar ')')) =
              { closed := inside.reverse :: closed, opened := none } := rfl
        have hclose : ArgumentEnds inside.reverse (CodePoint.ofChar ')' :: t) ↔
            endsInTwo inside.reverse = true := Text.completes_mark fun h => h rfl
        rw [hpiece, comes_some, comes_closed, hclose]
      · have hpiece : argumentPiece { closed, opened := some inside } (.plain c) =
            { closed, opened := some (c :: inside) } := if_neg hc
        have hstep : ArgumentEnds inside.reverse (c :: t) ↔
            ArgumentEnds (inside.reverse ++ [c]) t := Text.completes_cons (fun h => h rfl) hc
        rw [hpiece, comes_some, comes_some, hstep, List.reverse_cons]

/-- A call opens an argument. Inside of one it is a part of it, and what it would open itself ends
with it and in the same way. -/
theorem halves_token (e : Enclosed) {w s : Text} {u : Unit} (h : (divmodCall before).Takes w s u) :
    e.Halves before (w ++ s) ↔ (e.argumentPiece (.token u w)).Halves (lastOf w before) s := by
  have hlater : HalvesIn before (w ++ s) ↔ ArgumentEnds [] s ∨ HalvesIn (lastOf w before) s :=
    apart_divmodCall.readsThen_takes h
  unfold Halves
  rw [hlater]
  obtain ⟨closed, opened⟩ := e
  cases opened with
  | none =>
      have hpiece : argumentPiece { closed, opened := none } (.token u w) =
          { closed, opened := some [] } := rfl
      rw [hpiece, comes_none, comes_some, List.reverse_nil]
  | some inside =>
      have hpiece : argumentPiece { closed, opened := some inside } (.token u w) =
          { closed, opened := some (w.reverse ++ inside) } := rfl
      obtain ⟨hparen, hlast⟩ := of_takes_callOf isWord_of_mem_divmod h
      -- behind the parenthesis of the inner call a two stands alone in both arguments
      have hinner : ArgumentEnds [] s → ArgumentEnds (inside.reverse ++ w) s := by
        apply ArgumentEnds.outer
        intro c hc
        rw [List.getLast?_append, hlast, Option.some_or, Option.mem_some_iff] at hc
        rw [← hc]
        decide
      rw [hpiece, comes_some, comes_some, argumentEnds_append hparen, List.reverse_append,
        List.reverse_reverse, ← or_assoc (b := ArgumentEnds [] s), or_iff_left_of_imp hinner]

/-- The run of the collection over a text. -/
theorem exists_closed_foldl_argumentPiece (e : Enclosed) (before : Option CodePoint) (t : Text) :
    (∃ a ∈ ((scan divmodCall before t).foldl argumentPiece e).closed, endsInTwo a = true) ↔
      e.Halves before t := by
  induction before, t using takes_induction apart_divmodCall.pos apart_divmodCall.inside
    generalizing e with
  | nil before =>
      have hopen : ∀ read, ¬ ArgumentEnds read [] := fun _ => Text.not_completes_nil
      have hlater : ¬ HalvesIn before [] := apart_divmodCall.not_readsThen_nil
      simp [Halves, Comes, hopen, hlater]
  | token before w s u htakes ih =>
      rw [scan_takes htakes (apart_divmodCall.pos htakes), List.foldl_cons, ih,
        e.halves_token htakes]
  | plain before c t hnone ih =>
      rw [scan_none hnone, List.foldl_cons, ih, ← e.halves_plain hnone]

end Enclosed

/-- **Halving calls**: a division by two through `divmod` is found exactly when some call of it, be it
inside of the arguments of another one, has arguments that end in the number two; they reach to the
first closing parenthesis behind the call. -/
theorem halvesWithDivmod_iff (code : Text) :
    halvesWithDivmod code = true ↔
      ∃ front ws arguments back,
        code = front ++ (text "divmod" ++ (ws ++ CodePoint.ofChar '(' ::
          (arguments ++ CodePoint.ofChar ')' :: back))) ∧
        (∀ c ∈ front.getLast?, c.isWord = false) ∧ (∀ c ∈ ws, c.isBlank = true) ∧
        CodePoint.ofChar ')' ∉ arguments ∧
        ∃ others ws', arguments = others ++ CodePoint.ofChar '2' :: ws' ∧
          (∀ c ∈ others.getLast?, c.isWord = false) ∧ ∀ c ∈ ws', c.isBlank = true := by
  have hrun : halvesWithDivmod code = true ↔ HalvesIn none code := by
    rw [halvesWithDivmod, divmodArguments, pieces_eq_scan, List.any_eq_true,
      Enclosed.exists_closed_foldl_argumentPiece, Enclosed.Halves, Enclosed.comes_none]
    simp
  rw [hrun]
  constructor
  · rintro ⟨front, w, s, u, rfl, hread, arguments, back, rfl, hparen, hends⟩
    obtain ⟨hstart, ws, rfl, hblank⟩ := takes_callOf_iff.mp hread
    obtain ⟨others, ws', rfl, hword, hblank'⟩ := endsInTwo_iff.mp hends
    refine ⟨front, ws, others ++ CodePoint.ofChar '2' :: ws', back, by simp,
      wordStart_lastOf_none_iff.mp hstart, hblank, ?_, others, ws', rfl, wordStart_iff.mp hword,
      hblank'⟩
    exact fun hmem => hparen _ hmem rfl
  · rintro ⟨front, ws, _, back, rfl, hstart, hblank, hparen, others, ws', rfl, hword, hblank'⟩
    have hends : endsInTwo (others ++ CodePoint.ofChar '2' :: ws') = true :=
      endsInTwo_iff.mpr ⟨others, ws', rfl, wordStart_iff.mpr hword, hblank'⟩
    refine ⟨front, text "divmod" ++ (ws ++ [CodePoint.ofChar '(']), _, (), ?_, takes_callOf_iff.mpr
      ⟨wordStart_lastOf_none_iff.mpr hstart, ws, rfl, hblank⟩, _, back, rfl, ?_, hends⟩
    · simp
    · rintro c hc rfl
      exact hparen hc

/-- Of two calls with one closing parenthesis the inner one decides. -/
example :
    halvesWithDivmod (text "divmod(divmod(a, 2), 4)") = true ∧
      halvesWithDivmod (text "divmod(divmod(a, 4), 2)") = false := by decide

end BigO.Indented
