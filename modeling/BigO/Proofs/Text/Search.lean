import BigO.Proofs.Text.Grammar
import BigO.Proofs.Text.Word

/-! Searches that go on behind what they have found. A search for a reading looks no further than the
first one, and a scan begins again behind it; where readings never begin inside of one another,
neither of them passes over any. -/

namespace BigO

/-! ### Readings with something behind them -/

theorem Reader.Takes.unique {α : Type} {r : Reader α} {w s w' s' : Text} {a b : α}
    (h : r.Takes w s a) (h' : r.Takes w' s' b) (hsplit : w ++ s = w' ++ s') : w = w' ∧ s = s' := by
  unfold Takes at h h'
  rw [hsplit, h', Option.some.injEq, Prod.mk.injEq] at h
  exact List.append_inj hsplit h.2.symm

namespace Pattern

open Reader

variable {α : Type} {p : Pattern α} {Q : Option CodePoint → Text → Prop}
  {before : Option CodePoint} {t : Text}

/-- The pattern reads somewhere in the text, and `Q` holds behind what it reads there. -/
def ReadsThen (p : Pattern α) (Q : Option CodePoint → Text → Prop) (before : Option CodePoint)
    (t : Text) : Prop :=
  ∃ u w s a, t = u ++ (w ++ s) ∧ (p (lastOf u before)).Takes w s a ∧ Q (lastOf (u ++ w) before) s

theorem ReadsThen.append {x : Text} (h : p.ReadsThen Q (lastOf x before) t) :
    p.ReadsThen Q before (x ++ t) := by
  obtain ⟨u, w, s, a, rfl, hread, hq⟩ := h
  rw [← lastOf_append] at hread hq
  rw [← List.append_assoc] at hq
  exact ⟨x ++ u, w, s, a, (List.append_assoc x u _).symm, hread, hq⟩

/-- Where nothing is read, the search goes on behind one code point. -/
theorem readsThen_plain {c : CodePoint} (h : p before (c :: t) = none) :
    p.ReadsThen Q before (c :: t) ↔ p.ReadsThen Q (some c) t := by
  constructor
  · rintro ⟨u, w, s, a, hsplit, hread, hq⟩
    cases u with
    | nil =>
        rw [List.nil_append] at hsplit
        rw [hsplit] at h
        rw [lastOf_nil, Takes, h] at hread
        cases hread
    | cons d u =>
        obtain ⟨rfl, rfl⟩ := List.cons.inj hsplit
        rw [lastOf_cons] at hread
        rw [List.cons_append, lastOf_cons] at hq
        exact ⟨u, w, s, a, rfl, hread, hq⟩
  · intro hread
    rw [← List.singleton_append]
    apply ReadsThen.append
    rwa [lastOf_cons, lastOf_nil]

/-- What the pattern reads is not empty and stays in the text, and no reading begins inside another
one. -/
structure Apart (p : Pattern α) : Prop where
  pos {before : Option CodePoint} {w s : Text} {a : α} : (p before).Takes w s a → w ≠ []
  inside (before : Option CodePoint) : (p before).Inside
  none_inside {before : Option CodePoint} {x y s : Text} {a : α} :
    (p before).Takes (x ++ y) s a → x ≠ [] → y ≠ [] → p (lastOf x before) (y ++ s) = none

namespace Apart

variable (hp : p.Apart)
include hp

theorem not_readsThen_nil : ¬ p.ReadsThen Q before [] := by
  rintro ⟨u, w, s, a, hsplit, hread, -⟩
  have hnil := List.append_eq_nil_iff.mp (List.append_eq_nil_iff.mp hsplit.symm).2
  exact hp.pos hread hnil.1

/-- Where something is read, the search goes on behind it, since nothing is read inside. -/
theorem readsThen_takes {w s : Text} {a : α} (h : (p before).Takes w s a) :
    p.ReadsThen Q before (w ++ s) ↔
      Q (lastOf w before) s ∨ p.ReadsThen Q (lastOf w before) s := by
  constructor
  · rintro ⟨u, v, r, b, hsplit, hread, hq⟩
    by_cases hu : u = []
    · subst hu
      obtain ⟨rfl, rfl⟩ := h.unique hread hsplit
      exact Or.inl hq
    -- a reading that does not begin here begins behind this one, or right at its end
    rcases List.append_eq_append_iff.mp hsplit with ⟨z, rfl, rfl⟩ | ⟨z, rfl, hrest⟩
    · rw [lastOf_append] at hread
      rw [List.append_assoc, lastOf_append] at hq
      exact Or.inr ⟨z, v, r, b, rfl, hread, hq⟩
    by_cases hz : z = []
    · subst hz
      rw [List.nil_append] at hrest
      rw [lastOf_append] at hq
      rw [List.append_nil, ← hrest]
      exact Or.inr ⟨[], v, r, b, rfl, hread, hq⟩
    · have hnone := hp.none_inside h hu hz
      rw [← hrest, hread] at hnone
      cases hnone
  · rintro (hq | hread)
    · exact ⟨[], w, s, a, rfl, h, hq⟩
    · exact hread.append

/-- The first reading is as good as any other, if `Q` says that something stands further on. -/
theorem exists_find?_iff (hQ : ∀ x b s, Q (lastOf x b) s → Q b (x ++ s))
    (before : Option CodePoint) (t : Text) :
    (∃ hit ∈ find? p before t, Q hit.2.1 hit.2.2) ↔ p.ReadsThen Q before t := by
  induction t generalizing before with
  | nil =>
      refine iff_of_false ?_ hp.not_readsThen_nil
      rintro ⟨hit, hmem, -⟩
      cases hmem
  | cons c t ih =>
      cases hread : p before (c :: t) with
      | none =>
          rw [readsThen_plain hread, ← ih, find?, hread]
      | some hit =>
          obtain ⟨a, n⟩ := hit
          obtain ⟨w, s, hsplit, rfl, htakes⟩ := (hp.inside before).exists_takes hread
          have hfind : find? p before (c :: t) = some (a, lastOf w before, s) := by
            rw [find?, hread, hsplit]
            simp only [List.take_left, List.drop_left]
            rfl
          rw [hfind, hsplit, hp.readsThen_takes htakes]
          simp only [Option.mem_some_iff, exists_eq_left']
          refine (or_iff_left_of_imp ?_).symm
          rintro ⟨u, v, r, b, rfl, -, hq⟩
          rw [← List.append_assoc]
          exact hQ _ _ _ hq

theorem isSome_find?_iff (before : Option CodePoint) (t : Text) :
    (find? p before t).isSome = true ↔ p.ReadsThen (fun _ _ => True) before t := by
  rw [← hp.exists_find?_iff (fun _ _ _ _ => trivial), Option.isSome_iff_exists]
  simp

/-- Of two patterns one behind the other, the first reading of the one is enough to search behind for
the other. -/
theorem any_find?_iff {β : Type} {q : Pattern β} (hq : q.Apart) (before : Option CodePoint)
    (t : Text) :
    (find? p before t).any (fun hit => (find? q hit.2.1 hit.2.2).isSome) = true ↔
      p.ReadsThen (q.ReadsThen fun _ _ => True) before t := by
  rw [← hp.exists_find?_iff (fun _ _ _ h => h.append)]
  cases find? p before t with
  | none => simp
  | some hit =>
      rw [Option.any_some, hq.isSome_find?_iff]
      simp only [Option.mem_some_iff, exists_eq_left']

end Apart

/-- Readings that hold the code point they begin with nowhere else stand apart. -/
theorem Begins.apart {m : CodePoint} (hp : p.Begins (· = m)) (hinside : ∀ before, (p before).Inside)
    (htail : ∀ {before w s a}, (p before).Takes w s a → m ∉ w.tail) : p.Apart where
  pos h := by
    rintro rfl
    exact absurd (hp _ _ _ _ h).1 (Nat.lt_irrefl 0)
  inside := hinside
  none_inside {before x y s a} h hx hy := by
    obtain ⟨d, x, rfl⟩ := List.exists_cons_of_ne_nil hx
    obtain ⟨c, y, rfl⟩ := List.exists_cons_of_ne_nil hy
    apply (hp _).cons
    rintro rfl
    apply htail h
    rw [List.cons_append, List.tail_cons]
    exact List.mem_append_right x List.mem_cons_self

/-! ### Tokens and what is behind them -/

section Tokens

variable {w s : Text}

theorem scan_takes {a : α} (h : (p before).Takes w s a) (hw : w ≠ []) :
    scan p before (w ++ s) = .token a w :: scan p (lastOf w before) s := by
  obtain ⟨c, v, rfl⟩ := List.exists_cons_of_ne_nil hw
  rw [Takes, List.cons_append, List.length_cons] at h
  rw [List.cons_append, scan_token h, List.take_left, List.drop_left, lastOf_cons]

theorem tokensFrom_takes {a : α} (h : (p before).Takes w s a) (hw : w ≠ []) :
    tokensFrom p before (w ++ s) = a :: tokensFrom p (lastOf w before) s := by
  rw [tokensFrom, scan_takes h hw]
  rfl

theorem replaceFrom_takes {f : Text → Text} {a : α} (h : (p before).Takes w s a) (hw : w ≠ []) :
    replaceFrom p f before (w ++ s) = f w ++ replaceFrom p f (lastOf w before) s := by
  rw [replaceFrom, scan_takes h hw]
  rfl

/-- Induction along a scan whose tokens are not empty and stay in the text. -/
theorem takes_induction (hpos : ∀ {before w s a}, (p before).Takes w s a → w ≠ [])
    (hinside : ∀ before, (p before).Inside) {motive : Option CodePoint → Text → Prop}
    (nil : ∀ before, motive before [])
    (token : ∀ before w s a, (p before).Takes w s a → motive (lastOf w before) s →
      motive before (w ++ s))
    (plain : ∀ before c t, p before (c :: t) = none → motive (some c) t → motive before (c :: t))
    (before : Option CodePoint) (t : Text) : motive before t := by
  induction before, t using scan_induction p with
  | nil before => exact nil before
  | token before c rest a n hread ih =>
      obtain ⟨w, s, hsplit, hn, htakes⟩ := (hinside before).exists_takes hread
      have hw : c :: rest.take n = w := by
        rw [← List.take_succ_cons, hsplit, hn, List.take_left]
      have hs : rest.drop n = s := by
        rw [← List.drop_succ_cons (a := c), hsplit, hn, List.drop_left]
      rw [← lastOf_cons c _ before, hw, hs] at ih
      rw [hsplit]
      exact token before w s a htakes ih
  | plain before c rest hread ih =>
      refine plain before c rest (Option.eq_none_iff_forall_ne_some.mpr ?_) ih
      rintro ⟨a, n⟩ hsome
      obtain ⟨w, s, -, rfl, htakes⟩ := (hinside before).exists_takes hsome
      obtain ⟨d, w, rfl⟩ := List.exists_cons_of_ne_nil (hpos htakes)
      exact hread a w.length hsome

end Tokens

/-! ### Words -/

theorem wordStart_iff : wordStart before = true ↔ ∀ c ∈ before, c.isWord = false := by
  cases before <;> simp [wordStart]

theorem wordStart_lastOf_none_iff {u : Text} :
    wordStart (lastOf u none) = true ↔ ∀ c ∈ u.getLast?, c.isWord = false := by
  rw [wordStart_iff, lastOf, Option.or_none]

/-- No word begins behind word characters. -/
theorem wordStart_lastOf_of_isWord {x : Text} (hx : x ≠ []) (hall : ∀ c ∈ x, c.isWord = true)
    (before : Option CodePoint) : wordStart (lastOf x before) = false := by
  rw [lastOf, List.getLast?_eq_some_getLast hx, Option.some_or, wordStart, Option.any_some,
    hall _ (List.getLast_mem hx)]
  rfl

section Words

variable {words : List Text} {w s v : Text}

theorem takes_wholeWord_iff :
    (wholeWord words before).Takes w s v ↔ wordStart before = true ∧ v = w ∧ w ≠ [] ∧ w ∈ words ∧
      (∀ c ∈ w, c.isWord = true) ∧ ∀ c ∈ s.head?, c.isWord = false := by
  have hrun : v = (w ++ s).takeWhile CodePoint.isWord ∧ w.length = v.length ↔
      v = w ∧ (∀ c ∈ w, c.isWord = true) ∧ ∀ c ∈ s.head?, c.isWord = false := by
    rw [← takes_run_iff, Takes, run_eq_some]
    constructor
    · rintro ⟨rfl, hlength⟩
      exact ⟨rfl, hlength⟩
    · rintro ⟨rfl, hlength⟩
      exact ⟨rfl, hlength⟩
  rw [Takes, wholeWord_eq_some]
  constructor
  · rintro ⟨hstart, hv, hne, hmem, hlength⟩
    obtain ⟨rfl, hall, hend⟩ := hrun.mp ⟨hv, hlength⟩
    exact ⟨hstart, rfl, hne, hmem, hall, hend⟩
  · rintro ⟨hstart, rfl, hne, hmem, hall, hend⟩
    obtain ⟨hv, hlength⟩ := hrun.mpr ⟨rfl, hall, hend⟩
    exact ⟨hstart, hv, hne, hmem, hlength⟩

theorem apart_wholeWord (words : List Text) : (wholeWord words).Apart where
  pos h := (takes_wholeWord_iff.mp h).2.2.1
  inside before _ _ _ h := (inline_wholeWord words).inside h
  none_inside {before x y s a} h hx hy := by
    obtain ⟨-, -, -, -, hall, -⟩ := takes_wholeWord_iff.mp h
    have hstart := wordStart_lastOf_of_isWord hx (List.forall_mem_append.mp hall).1 before
    rw [wholeWord, after, hstart, if_neg Bool.false_ne_true]
    rfl

theorem readsThen_wholeWord_iff (hw : w ≠ []) (hall : ∀ c ∈ w, c.isWord = true) :
    (wholeWord [w]).ReadsThen Q before t ↔
      ∃ u s, t = u ++ (w ++ s) ∧ wordStart (lastOf u before) = true ∧
        (∀ c ∈ s.head?, c.isWord = false) ∧ Q (lastOf (u ++ w) before) s := by
  constructor
  · rintro ⟨u, v, s, a, rfl, hread, hq⟩
    obtain ⟨hstart, -, -, hmem, -, hend⟩ := takes_wholeWord_iff.mp hread
    obtain rfl := List.mem_singleton.mp hmem
    exact ⟨u, s, rfl, hstart, hend, hq⟩
  · rintro ⟨u, s, rfl, hstart, hend, hq⟩
    exact ⟨u, w, s, w, rfl, takes_wholeWord_iff.mpr
      ⟨hstart, rfl, hw, List.mem_singleton_self w, hall, hend⟩, hq⟩

end Words

end Pattern

end BigO
