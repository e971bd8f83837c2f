import BigO.Proofs.Text.Line
import BigO.Proofs.Text.Reader
import BigO.Proofs.Text.Scan

/-! Where a pattern occurs. It occurs in a text when it reads in front of some rest of it, however
the scan cuts the text into pieces; and a pattern that stays on its line has in a text the tokens of
its lines. -/

namespace BigO.Pattern

variable {α β : Type}

/-- Whatever the pattern reads is not empty and begins with a code point of the class. -/
def Begins (C : CodePoint → Prop) (p : Pattern α) : Prop := ∀ before, (p before).Begins C

section Begins

variable {C : CodePoint → Prop}

theorem Begins.after {r : Reader α} (h : r.Begins C) (ok : Option CodePoint → Bool) :
    (Pattern.after ok r).Begins C := by
  intro before s a n hread
  exact h s a n (after_eq_some.mp hread).2

theorem Begins.anywhere {r : Reader α} (h : r.Begins C) : (Pattern.anywhere r).Begins C :=
  fun _ => h

theorem Begins.orElse {p p' : Pattern α} (h : p.Begins C) (h' : p'.Begins C) :
    (p.orElse p').Begins C := fun before => (h before).orElse (h' before)

theorem Begins.mono {D : CodePoint → Prop} {p : Pattern α} (h : p.Begins C)
    (hCD : ∀ c, C c → D c) : p.Begins D := fun before => (h before).mono hCD

end Begins

/-- The pattern reads in front of some rest of a text that stands behind a code point. -/
def ReadsIn (p : Pattern α) (before : Option CodePoint) (t : Text) : Prop :=
  ∃ u v, t = u ++ v ∧ (p (lastOf u before) v).isSome

variable {p : Pattern α} {C : CodePoint → Prop}

theorem readsIn_cons {before : Option CodePoint} {c : CodePoint} {t : Text} :
    ReadsIn p before (c :: t) ↔ (p before (c :: t)).isSome ∨ ReadsIn p (some c) t := by
  constructor
  · rintro ⟨u, v, hsplit, hread⟩
    cases u with
    | nil =>
        rw [List.nil_append] at hsplit
        rw [← hsplit] at hread
        exact Or.inl hread
    | cons d u =>
        obtain ⟨rfl, rfl⟩ := List.cons.inj hsplit
        rw [lastOf_cons] at hread
        exact Or.inr ⟨u, v, rfl, hread⟩
  · rintro (hread | ⟨u, v, rfl, hread⟩)
    · exact ⟨[], c :: t, rfl, hread⟩
    · exact ⟨c :: u, v, rfl, by rwa [lastOf_cons]⟩

theorem Begins.not_readsIn_nil (hp : p.Begins C) (before : Option CodePoint) :
    ¬ ReadsIn p before [] := by
  rintro ⟨u, v, hsplit, hread⟩
  obtain ⟨rfl, rfl⟩ := List.nil_eq_append_iff.mp hsplit
  rw [(hp _).nil] at hread
  cases hread

/-- Nothing is read in a text whose code points are all of another class. -/
theorem Begins.not_readsIn (hp : p.Begins C) {t : Text} (ht : ∀ c ∈ t, ¬ C c)
    (before : Option CodePoint) : ¬ ReadsIn p before t := by
  induction t generalizing before with
  | nil => exact hp.not_readsIn_nil before
  | cons c t ih =>
      rw [readsIn_cons, not_or]
      refine ⟨?_, ih (fun d hd => ht d (List.mem_cons_of_mem _ hd)) _⟩
      rw [(hp before).cons (ht c List.mem_cons_self)]
      exact Bool.false_ne_true

theorem ReadsIn.mono {q : Pattern β} {before : Option CodePoint} {t : Text}
    (hpq : ∀ b s, (p b s).isSome → (q b s).isSome) (h : ReadsIn p before t) :
    ReadsIn q before t := by
  obtain ⟨u, v, hsplit, hread⟩ := h
  exact ⟨u, v, hsplit, hpq _ _ hread⟩

/-- Where nothing is read, nothing is replaced. -/
theorem replaceFrom_eq_self {before : Option CodePoint} {t : Text} (h : ¬ ReadsIn p before t)
    (f : Text → Text) : replaceFrom p f before t = t := by
  induction t generalizing before with
  | nil => rfl
  | cons c t ih =>
      rw [readsIn_cons, not_or, Bool.not_eq_true, Option.isSome_eq_false_iff,
        Option.isNone_iff_eq_none] at h
      rw [replaceFrom_none h.1, ih h.2]

/-- Searching finds a pattern wherever it reads. -/
theorem Begins.isSome_find?_iff (hp : p.Begins C) (before : Option CodePoint) (t : Text) :
    (find? p before t).isSome ↔ ReadsIn p before t := by
  induction t generalizing before with
  | nil => exact iff_of_false Bool.false_ne_true (hp.not_readsIn_nil before)
  | cons c t ih =>
      rw [readsIn_cons, ← ih, find?]
      cases p before (c :: t) with
      | none => simp
      | some hit => simp

theorem Begins.occursIn_iff (hp : p.Begins C) (t : Text) :
    p.occursIn t = true ↔ ReadsIn p none t := hp.isSome_find?_iff none t

/-- A scan has tokens exactly where the pattern reads, although it passes over what stands inside
the tokens before. -/
theorem Begins.tokensFrom_eq_nil_iff (hp : p.Begins C) (before : Option CodePoint) (t : Text) :
    tokensFrom p before t = [] ↔ ¬ ReadsIn p before t := by
  induction t generalizing before with
  | nil => exact iff_of_true rfl (hp.not_readsIn_nil before)
  | cons c t ih =>
      rw [readsIn_cons]
      cases hread : p before (c :: t) with
      | none =>
          rw [tokensFrom_none hread, ih]
          simp
      | some hit =>
          obtain ⟨a, n⟩ := hit
          obtain ⟨n, rfl⟩ := Nat.exists_eq_succ_of_ne_zero (Nat.ne_of_gt (hp before _ a n hread).1)
          rw [tokensFrom_token hread]
          simp

theorem Begins.occursIn_eq (hp : p.Begins C) (t : Text) :
    p.occursIn t = !(p.tokens t).isEmpty := by
  rw [Bool.eq_iff_iff, hp.occursIn_iff, tokens_eq_tokensFrom, Bool.not_eq_true',
    List.isEmpty_eq_false_iff, ne_eq, hp.tokensFrom_eq_nil_iff, Classical.not_not]

/-! ### Patterns on a line -/

/-- What the pattern reads ends on the line it begins on and depends on that line alone. -/
structure Inline (p : Pattern α) : Prop where
  start : p (some (CodePoint.ofChar '\n')) = p none
  ofLine (before : Option CodePoint) (t s : Text) :
    p before (t ++ CodePoint.ofChar '\n' :: s) = p before t
  inside {before : Option CodePoint} {t : Text} {a : α} {n : Nat} :
    p before t = some (a, n) → n ≤ t.length

namespace Inline

theorem plain_lineFeed (hp : p.Inline) (before : Option CodePoint) (s : Text) (a : α) (n : Nat) :
    p before (CodePoint.ofChar '\n' :: s) ≠ some (a, n + 1) := by
  intro hread
  have hnil := hp.ofLine before [] s
  rw [List.nil_append, hread] at hnil
  exact absurd (hp.inside hnil.symm) (Nat.not_succ_le_zero n)

theorem tokensFrom_append (hp : p.Inline) (before : Option CodePoint) (t s : Text) :
    tokensFrom p before (t ++ CodePoint.ofChar '\n' :: s) =
      tokensFrom p before t ++ tokensFrom p none s := by
  induction before, t using scan_induction p with
  | nil before =>
      rw [List.nil_append, tokensFrom_plain (hp.plain_lineFeed before s), tokensFrom_nil,
        List.nil_append, tokensFrom_congr hp.start]
  | token before c rest a n hread ih =>
      have hn : n ≤ rest.length := Nat.le_of_succ_le_succ (hp.inside hread)
      have hread' := hp.ofLine before (c :: rest) s
      rw [hread, List.cons_append] at hread'
      rw [List.cons_append, tokensFrom_token hread', tokensFrom_token hread,
        List.take_append_of_le_length hn, List.drop_append_of_le_length hn, ih, List.cons_append]
  | plain before c rest hread ih =>
      have hread' : ∀ a n, p before (c :: (rest ++ CodePoint.ofChar '\n' :: s)) ≠
          some (a, n + 1) := by
        intro a n
        rw [← List.cons_append, hp.ofLine]
        exact hread a n
      rw [List.cons_append, tokensFrom_plain hread', tokensFrom_plain hread, ih]

theorem tokens_append (hp : p.Inline) (t s : Text) :
    p.tokens (t ++ CodePoint.ofChar '\n' :: s) = p.tokens t ++ p.tokens s :=
  hp.tokensFrom_append none t s

/-- The tokens of a text are those of its lines. -/
theorem tokens_eq_flatMap_lines (hp : p.Inline) (t : Text) :
    p.tokens t = t.lines.flatMap p.tokens := by
  induction t using Text.line_induction with
  | last l hl => rw [Text.lines_of_notMem hl, List.flatMap_singleton]
  | line l t hl ih => rw [hp.tokens_append, Text.lines_line hl, List.flatMap_cons, ih]

end Inline

end BigO.Pattern
