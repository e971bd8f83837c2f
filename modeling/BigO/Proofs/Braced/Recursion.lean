import BigO.Proofs.Braced.Seen

/-! Recursion in braced code, told from the text alone. A name is recursive when the scans see a
declaration of it and two call sites, one of which may be the declaration. They miss what type
arguments hold, and a comparison with a parenthesis behind it reads as type arguments; and the keyword
of a declaration may be the front of a longer name. -/

namespace BigO.Braced

open Pattern

/-- Some site of the name is seen. -/
def SeenIn (Head : Option CodePoint → Text → Text → Prop) (a t : Text) : Prop :=
  ∃ u v, t = u ++ v ∧ Seen Head a u v

/-- Two sites of the name are seen. -/
def SeenTwiceIn (Head : Option CodePoint → Text → Text → Prop) (a t : Text) : Prop :=
  ∃ u m v, m ≠ [] ∧ t = u ++ (m ++ v) ∧ Seen Head a u (m ++ v) ∧ Seen Head a (u ++ m) v

section Opening

variable {p : Pattern Text} {Head : Option CodePoint → Text → Text → Prop} (hp : IsOpening p Head)
include hp

theorem IsOpening.mem_tokens_iff {a t : Text} : a ∈ p.tokens t ↔ SeenIn Head a t := by
  rw [tokens_eq_tokensFrom, hp.nested.mem_tokensFrom_iff, OpenlyIn, SeenIn]
  simp only [hp.readsOpenly_iff]

theorem IsOpening.two_le_count_tokens_iff {a t : Text} :
    2 ≤ (p.tokens t).count a ↔ SeenTwiceIn Head a t := by
  rw [tokens_eq_tokensFrom, hp.nested.two_le_count_tokensFrom_iff, OpenlyTwiceIn, SeenTwiceIn]
  simp only [hp.readsOpenly_iff]

end Opening

theorem isRecursive_iff (masked : Text) :
    isRecursive masked = true ↔
      ∃ a, SeenIn DeclarationHead a masked ∧ SeenTwiceIn CallHead a masked := by
  rw [isRecursive, List.any_eq_true]
  simp only [decide_eq_true_eq, isOpening_declaration.mem_tokens_iff,
    isOpening_callSite.two_le_count_tokens_iff]

/-! ### Recursion that is missed -/

theorem InTypeArguments.less_mem {Head : Option CodePoint → Text → Text → Prop} {u v : Text}
    (h : InTypeArguments Head u v) : CodePoint.ofChar '<' ∈ u := by
  obtain ⟨x, a, hd, ws, args, args', ws', rest, -, -, -, -, rfl, -⟩ := h
  simp

theorem InTypeArguments.greater_mem {Head : Option CodePoint → Text → Text → Prop} {u v : Text}
    (h : InTypeArguments Head u v) : CodePoint.ofChar '>' ∈ v := by
  obtain ⟨x, a, hd, ws, args, args', ws', rest, -, -, -, -, -, rfl⟩ := h
  simp

/-- What the scans see is recursive, and a whole declaration and two calls are seen wherever they do
not stand in type arguments. -/
theorem recursion_seen (masked : Text) :
    (isRecursive masked = true ↔
      ∃ a, SeenIn DeclarationHead a masked ∧ SeenTwiceIn CallHead a masked) ∧
    ∀ a, IsName a →
      (∃ u v, masked = u ++ v ∧ Declares a u v ∧ ¬ InTypeArguments DeclarationHead u v) →
      (∃ u m v, m ≠ [] ∧ masked = u ++ (m ++ v) ∧
        (Calls a u (m ++ v) ∧ ¬ InTypeArguments CallHead u (m ++ v)) ∧
        (Calls a (u ++ m) v ∧ ¬ InTypeArguments CallHead (u ++ m) v)) →
      isRecursive masked = true := by
  refine ⟨isRecursive_iff masked, ?_⟩
  rintro a ha ⟨u, v, hsplit, hdeclares, hdeclared⟩
    ⟨u', m, v', hm, hsplit', ⟨hcalls, hcalled⟩, ⟨hcalls', hcalled'⟩⟩
  refine (isRecursive_iff masked).mpr ⟨a, ⟨u, v, hsplit, (hdeclares.seen_iff ha).mpr hdeclared⟩, ?_⟩
  exact ⟨u', m, v', hm, hsplit', (hcalls.seen_iff ha).mpr hcalled, (hcalls'.seen_iff ha).mpr hcalled'⟩

theorem recursion_seen_behind_comparison :
    let called := text "f(n) \x7b\n  return n < f(n - 1) && n > (2) || "
    isRecursive (text "function " ++ (called ++ text "f(0);\n\x7d")) = true := by
  intro called
  refine (recursion_seen _).2 (text "f") (by decide) ⟨[], _, rfl, ?_, ?_⟩
    ⟨text "function ", called, text "f(0);\n\x7d", by decide, rfl, ⟨?_, ?_⟩, ⟨?_, ?_⟩⟩
  · exact ⟨rfl, text " ", [], _, by decide, by decide, by decide, rfl⟩
  · exact fun h => absurd h.less_mem (by decide)
  · exact ⟨by decide, [], _, by decide, rfl⟩
  · exact fun h => absurd h.less_mem (by decide)
  · exact ⟨by decide, [], _, by decide, rfl⟩
  · exact fun h => absurd h.greater_mem (by decide)

/-- The second call stands between the angle brackets of two comparisons. -/
theorem recursion_missed :
    ¬ ∀ masked a, IsName a → (∃ u v, masked = u ++ v ∧ Declares a u v) →
      (∃ u m v, m ≠ [] ∧ masked = u ++ (m ++ v) ∧ Calls a u (m ++ v) ∧ Calls a (u ++ m) v) →
      isRecursive masked = true := by
  intro hseen
  let called := text "f(n) \x7b\n  return n < "
  let hidden := text "f(n - 1) && n > (2);\n\x7d"
  have hmissed := hseen (text "function " ++ (called ++ hidden)) (text "f") (by decide)
    ⟨[], _, rfl, rfl, text " ", [], _, by decide, by decide, by decide, rfl⟩
    ⟨text "function ", called, hidden, by decide, rfl, ⟨by decide, [], _, by decide, rfl⟩,
      ⟨by decide, [], _, by decide, rfl⟩⟩
  exact absurd hmissed (by decide)

/-! ### Recursion that is made up -/

/-- The text holds the name, and no part of a name before it or behind it. -/
def HasName (t w : Text) : Prop :=
  ∃ u v, t = u ++ w ++ v ∧ (∀ c ∈ u.getLast?, isNamePart c = false) ∧
    ∀ c ∈ v.head?, isNamePart c = false

theorem isWord_of_not_isNamePart {c : CodePoint} (h : isNamePart c = false) : c.isWord = false := by
  rw [isNamePart, Bool.or_eq_false_iff] at h
  exact h.1

theorem HasName.hasWord {t w : Text} (h : HasName t w) : t.HasWord w := by
  obtain ⟨u, v, rfl, hbefore, hbehind⟩ := h
  exact ⟨u, v, rfl, fun c hc => isWord_of_not_isNamePart (hbefore c hc),
    fun c hc => isWord_of_not_isNamePart (hbehind c hc)⟩

theorem HasName.occursIn {t w : Text} (h : HasName t w) (hw : w ≠ [])
    (hall : ∀ c ∈ w, c.isWord = true) : (wholeWord [w]).occursIn t = true :=
  ((begins_wholeWord [w]).occursIn_iff t).mpr
    (readsIn_of_hasWord hw hall List.mem_cons_self h.hasWord)

/-- A declaration that is no whole word `function` with something between it and the name stands
behind a dollar sign, or has nothing there. -/
theorem Opens.dollar_or_joined {a t u v : Text} (h : Opens DeclarationHead a u v)
    (ht : ¬ HasName t (text "function")) (hsplit : t = u ++ v) :
    u.getLast? = some (CodePoint.ofChar '$') ∨ text "function" ++ a <+: v := by
  obtain ⟨_, g, rest, rfl, ⟨hstart, -, sep, hsep, rfl⟩, -⟩ := h
  cases sep with
  | nil => exact Or.inr (List.prefix_append _ _)
  | cons d sep =>
      refine Or.inl (Classical.byContradiction fun hdollar => ht ?_)
      refine ⟨u, d :: (sep ++ a) ++ (g ++ CodePoint.ofChar '(' :: rest), ?_, fun c hc => ?_, ?_⟩
      · rw [hsplit]
        simp only [List.append_assoc, List.cons_append]
      · rw [Option.mem_def.mp hc] at hstart hdollar
        rw [isNamePart, Bool.or_eq_false_iff, decide_eq_false_iff_not]
        exact ⟨by simpa [wordStart] using hstart, fun h => hdollar (congrArg some h)⟩
      · rintro c ⟨⟩
        exact isSeparator_not_isNamePart (hsep d List.mem_cons_self)

/-- Without a whole `function` only a keyword behind a dollar sign or one that runs into the name can
declare what is recursive. -/
theorem recursion_invented_iff {masked : Text} (h : ¬ HasName masked (text "function")) :
    isRecursive masked = true ↔
      ∃ a, (∃ u v, masked = u ++ v ∧ Seen DeclarationHead a u v ∧
          (u.getLast? = some (CodePoint.ofChar '$') ∨ text "function" ++ a <+: v)) ∧
        SeenTwiceIn CallHead a masked := by
  rw [isRecursive_iff]
  constructor
  · rintro ⟨a, ⟨u, v, hsplit, hseen⟩, htwice⟩
    exact ⟨a, ⟨u, v, hsplit, hseen, hseen.opens.dollar_or_joined h hsplit⟩, htwice⟩
  · rintro ⟨a, ⟨u, v, hsplit, hseen, -⟩, htwice⟩
    exact ⟨a, ⟨u, v, hsplit, hseen⟩, htwice⟩

theorem recursion_invented_at_call :
    let masked := text "functionCall(a);\nCall(b);\nCall(c);"
    ¬ HasName masked (text "function") ∧
      ∃ a, (∃ u v, masked = u ++ v ∧ Seen DeclarationHead a u v ∧
          (u.getLast? = some (CodePoint.ofChar '$') ∨ text "function" ++ a <+: v)) ∧
        SeenTwiceIn CallHead a masked := by
  intro masked
  have hnone : ¬ HasName masked (text "function") := fun h =>
    absurd (h.occursIn (by decide) (by decide)) (by decide)
  exact ⟨hnone, (recursion_invented_iff hnone).mp (by decide)⟩

/-- The keyword is the front of a longer name, and the rest of that name is called. -/
theorem recursion_invented :
    ¬ ∀ masked, ¬ HasName masked (text "function") → isRecursive masked = false := by
  intro hnever
  have hinvented := hnever (text "functionCall(a);\nCall(b);\nCall(c);") fun h =>
    absurd (h.occursIn (by decide) (by decide)) (by decide)
  exact absurd hinvented (by decide)

end BigO.Braced
