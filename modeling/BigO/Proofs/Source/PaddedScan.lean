import BigO.Proofs.Source.Padding

/-! The scan of a padded text. A pattern that begins with no filler and goes along with the padding
reads the same tokens in a padded text, is found at the same place in it, and leaves a padded text
when its tokens are replaced. -/

namespace BigO.Pattern

open Source

variable {α : Type}

/-- From places beside each other behind the same code point, the pattern goes to places beside each
other. -/
def Tracks (p : Pattern α) : Prop :=
  ∀ k x y, Beside k x y → x.before = y.before →
    Reader.Alike Eq k x y (p x.before x.rest) (p y.before y.rest)

theorem tracks_anywhere {r : Reader α} (hr : r.Tracks Eq) : (anywhere r).Tracks :=
  fun k x y hxy _ => hr k x y hxy

theorem tracks_after {r : Reader α} (hr : r.Tracks Eq) (ok : Option CodePoint → Bool) :
    (after ok r).Tracks := by
  intro k x y hxy hbefore
  rw [after, after, hbefore]
  split
  · exact hr k x y hxy
  · exact .none

theorem Tracks.orElse {p p' : Pattern α} (hp : p.Tracks) (hp' : p'.Tracks) :
    (p.orElse p').Tracks := by
  intro k x y hxy hbefore
  have hread := hp k x y hxy hbefore
  rw [Pattern.orElse, Pattern.orElse, Reader.orElse, Reader.orElse]
  generalize p x.before x.rest = hit at hread ⊢
  generalize p y.before y.rest = hit' at hread ⊢
  cases hread with
  | none => exact hp' k x y hxy hbefore
  | some h => exact .some h

/-- The pattern begins with no filler and goes along with the padding. -/
structure Steady (p : Pattern α) : Prop where
  begins : p.Begins (CodePoint.isFiller · = false)
  tracks : p.Tracks

theorem steady_anywhere {r : Reader α} (hr : r.Steady) : (anywhere r).Steady :=
  ⟨Begins.anywhere hr.begins, tracks_anywhere hr.tracks⟩

theorem steady_after {r : Reader α} (hr : r.Steady) (ok : Option CodePoint → Bool) :
    (after ok r).Steady := ⟨Begins.after hr.begins ok, tracks_after hr.tracks ok⟩

theorem steady_wholeWord (words : List Text) : (wholeWord words).Steady :=
  steady_after (Reader.steady_wordAmong words) wordStart

namespace Steady

variable {p : Pattern α} {k : Nat}

theorem orElse {p' : Pattern α} (hp : p.Steady) (hp' : p'.Steady) : (p.orElse p').Steady :=
  ⟨hp.begins.orElse hp'.begins, hp.tracks.orElse hp'.tracks⟩

theorem none_of_filler (hp : p.Steady) {c : CodePoint} (hc : c.isFiller = true)
    (before : Option CodePoint) (t : Text) : p before (c :: t) = none :=
  (hp.begins before).cons (by rw [hc]; exact Bool.noConfusion) t

theorem not_readsIn_filler (hp : p.Steady) {s : Text} (hs : ∀ c ∈ s, c.isFiller = true)
    (before : Option CodePoint) : ¬ ReadsIn p before s :=
  hp.begins.not_readsIn (fun c hc => by rw [hs c hc]; exact Bool.noConfusion) before

/-- Behind the same code point, no token stands in front of either text, or the same token in front
of both, and the places behind it are beside each other. -/
theorem token_or_none (hp : p.Steady) (before : Option CodePoint) (c : CodePoint) {t t' : Text}
    (h : Padded k t t') :
    (p before (c :: t) = none ∧ p before (c :: t') = none) ∨
      ∃ a n m, p before (c :: t) = some (a, n + 1) ∧ p before (c :: t') = some (a, m + 1) ∧
        Beside k (Place.skip ⟨some c, t⟩ n) (Place.skip ⟨some c, t'⟩ m) := by
  have hread : Reader.Alike Eq k ⟨before, c :: t⟩ ⟨before, c :: t'⟩ (p before (c :: t))
      (p before (c :: t')) := hp.tracks k _ _ (.of_padded (.cons c h) before) rfl
  have htaken : ∀ t (hit : α × Nat), p before (c :: t) = some hit → ∃ n, hit.2 = n + 1 :=
    fun t hit hhit => Nat.exists_eq_succ_of_ne_zero (Nat.ne_of_gt (hp.begins before _ _ _ hhit).1)
  have hx := htaken t
  have hy := htaken t'
  generalize p before (c :: t) = hit at hread hx ⊢
  generalize p before (c :: t') = hit' at hread hy ⊢
  cases hread with
  | none => exact Or.inl ⟨rfl, rfl⟩
  | @some hit hit' h =>
      obtain ⟨hvalue, hskip⟩ := h
      obtain ⟨n, hn⟩ := hx hit rfl
      obtain ⟨m, hm⟩ := hy hit' rfl
      rw [hn, hm, Place.skip_succ, Place.skip_succ] at hskip
      exact Or.inr ⟨hit.1, n, m, congrArg some (Prod.ext rfl hn),
        congrArg some (Prod.ext hvalue.symm hm), hskip⟩

/-- Induction along a text and the padded text: both are at their ends, both have the same code
point in front at which no token begins, a line feed has got a carriage return, or both have a token
in front. -/
theorem induction (hp : p.Steady) {motive : (x y : Place) → Beside k x y → Prop}
    (behind : ∀ before before' s (hs : ∀ c ∈ s, c.isFiller = true) (hlen : s.length ≤ k),
      motive ⟨before, []⟩ ⟨before', s⟩ (.of_filler hs hlen))
    (plain : ∀ before before' c t t' (h : Padded k t t')
      (hxy : Beside k ⟨before, c :: t⟩ ⟨before', c :: t'⟩), p before (c :: t) = none →
      p before' (c :: t') = none → motive ⟨some c, t⟩ ⟨some c, t'⟩ (.of_padded h _) →
      motive ⟨before, c :: t⟩ ⟨before', c :: t'⟩ hxy)
    (returned : ∀ before before' t t' (h : Padded k t t'),
      motive ⟨some (CodePoint.ofChar '\n'), t⟩ ⟨some (CodePoint.ofChar '\n'), t'⟩ (.of_padded h _) →
      motive ⟨before, CodePoint.ofChar '\n' :: t⟩
        ⟨before', CodePoint.ofChar '\r' :: CodePoint.ofChar '\n' :: t'⟩ (.of_returned h _ _))
    (token : ∀ before c t t' a n m (h : Padded k t t'), p before (c :: t) = some (a, n + 1) →
      p before (c :: t') = some (a, m + 1) →
      ∀ hskip : Beside k (Place.skip ⟨some c, t⟩ n) (Place.skip ⟨some c, t'⟩ m),
      motive (Place.skip ⟨some c, t⟩ n) (Place.skip ⟨some c, t'⟩ m) hskip →
      motive ⟨before, c :: t⟩ ⟨before, c :: t'⟩ (.of_padded (.cons c h) _))
    {x y : Place} (hxy : Beside k x y) : motive x y hxy := by
  induction hlen : x.rest.length using Nat.strongRecOn generalizing x y with
  | ind len ih =>
      obtain ⟨before, t⟩ := x
      obtain ⟨before', t'⟩ := y
      obtain ⟨(hpadded : Padded k t t'), hbefore⟩ := id hxy
      cases hpadded with
      | behind hs hlen => exact behind before before' t' hs hlen
      | @returned t t' h =>
          refine returned before before' t t' h (ih _ ?_ (.of_padded h _) rfl)
          exact hlen ▸ Nat.lt_succ_self _
      | @cons c t t' h =>
          have hrest : ∀ n, (Place.skip ⟨some c, t⟩ n).rest.length < len := by
            intro n
            rw [← hlen]
            exact Nat.lt_succ_of_le (List.drop_sublist n t).length_le
          by_cases hc : c.isFiller = true
          · exact plain before before' c t t' h hxy (hp.none_of_filler hc before t)
              (hp.none_of_filler hc before' t') (ih _ (hrest 0) (.of_padded h _) rfl)
          · -- A line does not end here, so the same code point stands before.
            have hsame : before = before' := by
              refine hbefore.resolve_right fun hline => hc ?_
              rw [hline c rfl]
              exact CodePoint.isFiller_lineFeed
            subst hsame
            rcases hp.token_or_none before c h with ⟨hx, hy⟩ | ⟨a, n, m, hx, hy, hskip⟩
            · exact plain before before c t t' h hxy hx hy (ih _ (hrest 0) (.of_padded h _) rfl)
            · exact token before c t t' a n m h hx hy hskip (ih _ (hrest n) hskip rfl)

/-- A padded text has the same tokens. -/
theorem tokensFrom_eq (hp : p.Steady) {x y : Place} (hxy : Beside k x y) :
    tokensFrom p x.before x.rest = tokensFrom p y.before y.rest := by
  induction hxy using hp.induction with
  | behind before before' s hs hlen =>
      have hnone := hp.not_readsIn_filler hs before'
      exact ((hp.begins.tokensFrom_eq_nil_iff before' s).mpr hnone).symm
  | plain before before' c t t' h _ hx hy ih =>
      simp only
      rw [tokensFrom_none hx, tokensFrom_none hy]
      exact ih
  | returned before before' t t' h ih =>
      simp only
      rw [tokensFrom_none (hp.none_of_filler CodePoint.isFiller_lineFeed _ _),
        tokensFrom_none (hp.none_of_filler CodePoint.isFiller_return _ _),
        tokensFrom_none (hp.none_of_filler CodePoint.isFiller_lineFeed _ _)]
      exact ih
  | token before c t t' a n m h hx hy hskip ih =>
      simp only
      rw [tokensFrom_token hx, tokensFrom_token hy, List.cons.injEq]
      exact ⟨rfl, ih⟩

theorem tokens_eq (hp : p.Steady) {t t' : Text} (h : Padded k t t') : p.tokens t = p.tokens t' :=
  hp.tokensFrom_eq (.of_padded h none)

theorem occursIn_eq (hp : p.Steady) {t t' : Text} (h : Padded k t t') :
    p.occursIn t = p.occursIn t' := by
  rw [hp.begins.occursIn_eq, hp.begins.occursIn_eq, hp.tokens_eq h]

/-- The first token of a padded text is the first one of the text, and the places behind the two are
beside each other. -/
theorem find?_alike (hp : p.Steady) {x y : Place} (hxy : Beside k x y) :
    Option.Rel (fun hit hit' => hit.1 = hit'.1 ∧ Beside k ⟨hit.2.1, hit.2.2⟩ ⟨hit'.2.1, hit'.2.2⟩)
      (find? p x.before x.rest) (find? p y.before y.rest) := by
  induction hxy using hp.induction with
  | behind before before' s hs hlen =>
      have hnone := mt (hp.begins.isSome_find?_iff before' s).mp (hp.not_readsIn_filler hs before')
      rw [Bool.not_eq_true, Option.isSome_eq_false_iff, Option.isNone_iff_eq_none] at hnone
      simp only [hnone]
      exact .none
  | plain before before' c t t' h _ hx hy ih =>
      simp only [find?, hx, hy]
      exact ih
  | returned before before' t t' h ih =>
      simp only [find?, hp.none_of_filler CodePoint.isFiller_lineFeed,
        hp.none_of_filler CodePoint.isFiller_return]
      exact ih
  | token before c t t' a n m h hx hy hskip ih =>
      simp only [find?, hx, hy]
      refine .some ⟨rfl, ?_⟩
      rw [← Place.skip_succ before, ← Place.skip_succ before] at hskip
      exact hskip

theorem isSome_find?_eq (hp : p.Steady) {x y : Place} (hxy : Beside k x y) :
    (find? p x.before x.rest).isSome = (find? p y.before y.rest).isSome := by
  have hfound := hp.find?_alike hxy
  generalize find? p x.before x.rest = hit at hfound ⊢
  generalize find? p y.before y.rest = hit' at hfound ⊢
  cases hfound with
  | none => rfl
  | some _ => rfl

/-- Replacing the tokens by one text leaves a padded text. -/
theorem replaceFrom_padded (hp : p.Steady) (w : Text) {x y : Place} (hxy : Beside k x y) :
    Padded k (replaceFrom p (fun _ => w) x.before x.rest)
      (replaceFrom p (fun _ => w) y.before y.rest) := by
  induction hxy using hp.induction with
  | behind before before' s hs hlen =>
      simp only
      rw [replaceFrom_eq_self (hp.not_readsIn_filler hs before'), replaceFrom_nil]
      exact .behind hs hlen
  | plain before before' c t t' h _ hx hy ih =>
      simp only
      rw [replaceFrom_none hx, replaceFrom_none hy]
      exact .cons c ih
  | returned before before' t t' h ih =>
      simp only
      rw [replaceFrom_none (hp.none_of_filler CodePoint.isFiller_lineFeed _ _),
        replaceFrom_none (hp.none_of_filler CodePoint.isFiller_return _ _),
        replaceFrom_none (hp.none_of_filler CodePoint.isFiller_lineFeed _ _)]
      exact .returned ih
  | token before c t t' a n m h hx hy hskip ih =>
      simp only
      rw [replaceFrom_token hx, replaceFrom_token hy]
      exact ih.append_left w

end Steady

end BigO.Pattern
