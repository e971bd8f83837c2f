import Mathlib.Algebra.GroupWithZero.Nat
import Mathlib.Data.List.SplitBy
import BigO.Proofs.Text.Search

/-! Runs. A text is made of the longest runs of code points of a class and of single code points
between them. A whole word is such a run or nothing of it, and a mark that is written twice is read
in a run as often as it fits; so the tokens of these patterns are counted run by run. Patterns that
read code points of different classes do not get in the way of each other. -/

namespace BigO

/-! ### Runs of a class -/

namespace Text

variable {p : CodePoint → Bool}

/-- The longest runs of code points of the class: the text is cut everywhere but between two of
them, and the parts with others in them are left out. -/
def runs (p : CodePoint → Bool) (t : Text) : List Text :=
  (t.splitBy fun c d => p c && p d).filter (List.all · p)

@[simp] theorem runs_nil : runs p [] = [] := rfl

theorem runs_append {t s : Text}
    (h : ∀ c ∈ t.getLast?, ∀ d ∈ s.head?, (p c && p d) = false) :
    runs p (t ++ s) = runs p t ++ runs p s := by
  rw [runs, List.splitBy_append h, List.filter_append]
  rfl

theorem runs_cons_of_not {c : CodePoint} (hc : p c = false) (t : Text) :
    runs p (c :: t) = runs p t := by
  have hsingle : runs p [c] = [] := by
    rw [runs, List.splitBy_of_isChain (List.cons_ne_nil _ _) (List.isChain_singleton c)]
    simp [hc]
  rw [← List.singleton_append, runs_append, hsingle, List.nil_append]
  intro d hd e _
  rw [List.getLast?_singleton, Option.mem_some_iff] at hd
  rw [← hd, hc, Bool.false_and]

theorem runs_append_of_all {w s : Text} (hne : w ≠ []) (hw : ∀ c ∈ w, p c = true)
    (hs : ∀ c ∈ s.head?, p c = false) : runs p (w ++ s) = w :: runs p s := by
  have hchain : w.IsChain fun c d => (p c && p d) = true := by
    rw [List.isChain_iff_forall_rel_of_append_cons_cons]
    rintro c d front back rfl
    rw [hw c (by simp), hw d (by simp)]
    rfl
  have hrun : runs p w = [w] := by
    rw [runs, List.splitBy_of_isChain hne hchain]
    simpa using hw
  rw [runs_append, hrun, List.singleton_append]
  intro c _ d hd
  rw [hs d hd, Bool.and_false]

/-- Every text is empty or begins with a code point of another class or with a longest run. -/
theorem run_induction (p : CodePoint → Bool) {motive : Text → Prop} (nil : motive [])
    (other : ∀ c t, p c = false → motive t → motive (c :: t))
    (run : ∀ w s, w ≠ [] → (∀ c ∈ w, p c = true) → (∀ c ∈ s.head?, p c = false) → motive s →
      motive (w ++ s)) (t : Text) : motive t := by
  induction hlen : t.length using Nat.strongRecOn generalizing t with
  | ind len ih =>
      cases t with
      | nil => exact nil
      | cons c t =>
          rw [List.length_cons] at hlen
          cases hc : p c with
          | false => exact other c t hc (ih _ (by omega) t rfl)
          | true =>
              have hsplit : c :: t = (c :: t.takeWhile p) ++ t.dropWhile p := by
                rw [List.cons_append, List.takeWhile_append_dropWhile]
              have hrest : (t.dropWhile p).length < len := by
                have := (List.dropWhile_sublist p (l := t)).length_le
                omega
              rw [hsplit]
              refine run _ _ (List.cons_ne_nil _ _) ?_ (fun d hd => ?_) (ih _ hrest _ rfl)
              · exact List.forall_mem_cons.mpr ⟨hc, List.all_eq_true.mp List.all_takeWhile⟩
              · have hhead := List.head?_dropWhile_not p t
                rw [Option.mem_def.mp hd] at hhead
                simpa using hhead

end Text

namespace Pattern

open Reader

variable {α : Type} {p q : Pattern α} {C D : CodePoint → Prop} {before : Option CodePoint}
  {w s t : Text}

/-! ### Steps of a scan -/

/-- Where nothing is read in a text, the scan passes over it. -/
theorem tokensFrom_passes
    (h : ∀ x y, w = x ++ y → y ≠ [] → p (lastOf x before) (y ++ s) = none) :
    tokensFrom p before (w ++ s) = tokensFrom p (lastOf w before) s := by
  induction w generalizing before with
  | nil => rfl
  | cons c w ih =>
      have hnone := h [] (c :: w) rfl (List.cons_ne_nil _ _)
      rw [lastOf_nil, List.cons_append] at hnone
      rw [List.cons_append, tokensFrom_none hnone, lastOf_cons]
      refine ih fun x y hsplit hy => ?_
      have hread := h (c :: x) y (by rw [hsplit, List.cons_append]) hy
      rwa [lastOf_cons] at hread

theorem Begins.tokensFrom_append (hp : p.Begins C) (hw : ∀ c ∈ w, ¬ C c)
    (before : Option CodePoint) (s : Text) :
    tokensFrom p before (w ++ s) = tokensFrom p (lastOf w before) s := by
  refine tokensFrom_passes ?_
  rintro x y rfl hy
  obtain ⟨c, y, rfl⟩ := List.exists_cons_of_ne_nil hy
  exact (hp _).cons (hw c (List.mem_append_right x List.mem_cons_self)) _

/-! ### Patterns of different classes -/

/-- What the pattern reads is not empty, stays in the text and is made of code points of the
class. -/
structure Within (C : CodePoint → Prop) (p : Pattern α) : Prop where
  pos {before : Option CodePoint} {w s : Text} {a : α} : (p before).Takes w s a → w ≠ []
  inside (before : Option CodePoint) : (p before).Inside
  all {before : Option CodePoint} {w s : Text} {a : α} : (p before).Takes w s a → ∀ c ∈ w, C c

theorem Within.begins (hp : p.Within C) : p.Begins C := by
  intro before t a n hread
  obtain ⟨w, s, rfl, rfl, htakes⟩ := (hp.inside before).exists_takes hread
  obtain ⟨c, w, rfl⟩ := List.exists_cons_of_ne_nil (hp.pos htakes)
  exact ⟨Nat.succ_pos _, c, rfl, hp.all htakes c List.mem_cons_self⟩

theorem Within.orElse (hp : p.Within C) (hq : q.Within D) :
    (p.orElse q).Within fun c => C c ∨ D c where
  pos h := by
    rcases orElse_eq_some.mp h with h | ⟨-, h⟩
    · exact hp.pos h
    · exact hq.pos h
  inside before s a n h := by
    rcases orElse_eq_some.mp h with h | ⟨-, h⟩
    · exact hp.inside before s a n h
    · exact hq.inside before s a n h
  all h c hc := by
    rcases orElse_eq_some.mp h with h | ⟨-, h⟩
    · exact Or.inl (hp.all h c hc)
    · exact Or.inr (hq.all h c hc)

/-- The tokens of two patterns of different classes are those of the one and those of the other:
each of them passes over what the other reads. -/
theorem tokensFrom_orElse_perm (hp : p.Within C) (hq : q.Within D) (hCD : ∀ c, C c → ¬ D c)
    (before : Option CodePoint) (t : Text) :
    (tokensFrom (p.orElse q) before t).Perm (tokensFrom p before t ++ tokensFrom q before t) := by
  have hpq := hp.orElse hq
  induction before, t using takes_induction hpq.pos hpq.inside with
  | nil before => exact .refl _
  | token before w s a htakes ih =>
      rw [tokensFrom_takes htakes (hpq.pos htakes)]
      rcases orElse_eq_some.mp htakes with hread | ⟨-, hread⟩
      · have hskip := hq.begins.tokensFrom_append (fun c hc => hCD c (hp.all hread c hc)) before s
        rw [tokensFrom_takes hread (hp.pos hread), hskip, List.cons_append]
        exact ih.cons a
      · have hskip := hp.begins.tokensFrom_append
          (fun c hc hc' => hCD c hc' (hq.all hread c hc)) before s
        rw [tokensFrom_takes hread (hq.pos hread), hskip]
        exact (ih.cons a).trans List.perm_middle.symm
  | plain before c t hnone ih =>
      obtain ⟨hnone₁, hnone₂⟩ : p before (c :: t) = none ∧ q before (c :: t) = none := by
        rw [Pattern.orElse, Reader.orElse] at hnone
        cases hread : p before (c :: t) with
        | none =>
            rw [hread] at hnone
            exact ⟨rfl, hnone⟩
        | some hit =>
            rw [hread] at hnone
            cases hnone
      rw [tokensFrom_none hnone, tokensFrom_none hnone₁, tokensFrom_none hnone₂]
      exact ih

/-! ### Words -/

theorem within_wholeWord (words : List Text) :
    (wholeWord words).Within (CodePoint.isWord · = true) where
  pos h := (takes_wholeWord_iff.mp h).2.2.1
  inside _ _ _ _ h := (inline_wholeWord words).inside h
  all h := (takes_wholeWord_iff.mp h).2.2.2.2.1

/-- The whole words of a list in a text are the runs of word characters that are in the list. -/
theorem tokensFrom_wholeWord {words : List Text}
    (h : ∀ c ∈ t.head?, c.isWord = true → wordStart before = true) :
    tokensFrom (wholeWord words) before t =
      (t.runs CodePoint.isWord).filter (· ∈ words) := by
  induction t using Text.run_induction CodePoint.isWord generalizing before with
  | nil => rfl
  | other c t hc ih =>
      have hnone := (begins_wholeWord words before).cons (by rw [hc]; exact Bool.false_ne_true) t
      rw [tokensFrom_none hnone, Text.runs_cons_of_not hc]
      refine ih fun _ _ _ => ?_
      rw [wordStart, Option.any_some, hc]
      rfl
  | run w s hne hw hs ih =>
      have hrest : tokensFrom (wholeWord words) (lastOf w before) s =
          (s.runs CodePoint.isWord).filter (· ∈ words) := by
        refine ih fun c hc hword => ?_
        rw [hs c hc] at hword
        cases hword
      have hstart : wordStart before = true := by
        obtain ⟨c, w, rfl⟩ := List.exists_cons_of_ne_nil hne
        exact h c rfl (hw c List.mem_cons_self)
      rw [Text.runs_append_of_all hne hw hs]
      by_cases hmem : w ∈ words
      · have htakes : (wholeWord words before).Takes w s w :=
          takes_wholeWord_iff.mpr ⟨hstart, rfl, hne, hmem, hw, hs⟩
        rw [tokensFrom_takes htakes hne, List.filter_cons, if_pos (decide_eq_true hmem), hrest]
      · rw [List.filter_cons, if_neg (by rwa [decide_eq_true_iff]), ← hrest]
        refine tokensFrom_passes fun x y hsplit hy => ?_
        -- the run is no word of the list, and behind its first code point no word begins
        rw [Option.eq_none_iff_forall_ne_some]
        rintro ⟨v, n⟩ hread
        obtain ⟨hbegins, rfl, -, hv, -⟩ := wholeWord_eq_some.mp hread
        by_cases hx : x = []
        · subst hx
          rw [List.nil_append] at hsplit
          rw [← hsplit, takeWhile_append_eq hw hs] at hv
          exact hmem hv
        · rw [hsplit] at hw
          rw [wordStart_lastOf_of_isWord hx (List.forall_mem_append.mp hw).1] at hbegins
          cases hbegins

theorem tokens_wholeWord (words : List Text) (t : Text) :
    (wholeWord words).tokens t = (t.runs CodePoint.isWord).filter (· ∈ words) :=
  tokensFrom_wholeWord fun _ _ _ => rfl

/-! ### Doubled marks -/

/-- A mark written twice. -/
abbrev doubled (m : CodePoint) : Pattern Text := anywhere (exactly [m, m])

theorem within_doubled (m : CodePoint) : (doubled m).Within (· = m) where
  pos h := by
    rw [(takes_exactly_iff.mp h).1]
    exact List.cons_ne_nil _ _
  inside _ := inside_exactly _
  all h := by
    rw [(takes_exactly_iff.mp h).1]
    simp

theorem tokensFrom_doubled (m : CodePoint) (before : Option CodePoint) (t : Text) :
    tokensFrom (doubled m) before t = (doubled m).tokens t := by
  have hread : doubled m before = doubled m none := rfl
  rw [tokens_eq_tokensFrom, tokensFrom_congr hread]

theorem length_tokens_replicate {m : CodePoint} (hs : ∀ c ∈ s.head?, c ≠ m) (n : Nat) :
    ((doubled m).tokens (List.replicate n m ++ s)).length =
      n / 2 + ((doubled m).tokens s).length := by
  induction n using Nat.twoStepInduction with
  | zero => rw [List.replicate_zero, List.nil_append, Nat.zero_div, Nat.zero_add]
  | one =>
      have hnone : doubled m none (m :: s) = none := by
        rw [Option.eq_none_iff_forall_ne_some]
        rintro ⟨v, k⟩ hread
        obtain ⟨⟨back, hfront⟩, -⟩ := exactly_eq_some.mp hread
        obtain ⟨-, rfl⟩ := List.cons.inj hfront
        exact hs m rfl rfl
      rw [List.replicate_one, List.singleton_append, tokens_eq_tokensFrom, tokensFrom_none hnone,
        tokensFrom_doubled]
      omega
  | more n ih _ =>
      have htakes : (doubled m none).Takes [m, m] (List.replicate n m ++ s) [m, m] :=
        takes_exactly_iff.mpr ⟨rfl, rfl⟩
      have hsplit : List.replicate (n + 2) m ++ s = [m, m] ++ (List.replicate n m ++ s) := rfl
      rw [hsplit, tokens_eq_tokensFrom, tokensFrom_takes htakes (List.cons_ne_nil _ _),
        List.length_cons, tokensFrom_doubled, ih]
      omega

/-- A run holds the doubled mark half as often as it is long; a mark too many is passed over. -/
theorem length_tokens_doubled (m : CodePoint) (t : Text) :
    ((doubled m).tokens t).length = ((t.runs (· = m)).map (·.length / 2)).sum := by
  induction t using Text.run_induction (fun c : CodePoint => decide (c = m)) with
  | nil => rfl
  | other c t hc ih =>
      have hnone := (within_doubled m).begins none |>.cons (of_decide_eq_false hc) t
      rw [tokens_eq_tokensFrom, tokensFrom_none hnone, tokensFrom_doubled, ih,
        Text.runs_cons_of_not hc]
  | run w s hne hw hs ih =>
      have hmarks : w = List.replicate w.length m :=
        List.eq_replicate_length.mpr fun c hc => of_decide_eq_true (hw c hc)
      have hcount := length_tokens_replicate (fun c hc => of_decide_eq_false (hs c hc)) w.length
      rw [← hmarks] at hcount
      rw [hcount, Text.runs_append_of_all hne hw hs, List.map_cons, List.sum_cons, ih]

end Pattern

end BigO
