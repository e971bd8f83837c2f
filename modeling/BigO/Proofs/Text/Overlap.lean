import BigO.Proofs.Text.Scan

/-! Readings that reach over one another. A scan passes over whatever begins inside a token. Where no
reading that begins inside another one goes on behind its end, what is passed over can be told without
the scan: it is each position over which some reading reaches that begins before it, be that reading a
token or passed over itself. -/

namespace BigO.Pattern

variable {α : Type} {p : Pattern α}

/-- A reading that begins before the position between `u` and `v` goes on behind it. -/
def Covers (p : Pattern α) (before : Option CodePoint) (u v : Text) : Prop :=
  ∃ x y a n, u = x ++ y ∧ y ≠ [] ∧ p (lastOf x before) (y ++ v) = some (a, n) ∧ y.length < n

/-- The value is read at the position between `u` and `v`, and nothing covers the position. -/
def ReadsOpenly (p : Pattern α) (before : Option CodePoint) (a : α) (u v : Text) : Prop :=
  (∃ n, p (lastOf u before) v = some (a, n)) ∧ ¬ p.Covers before u v

/-- The value is read openly at some position of the text. -/
def OpenlyIn (p : Pattern α) (before : Option CodePoint) (a : α) (t : Text) : Prop :=
  ∃ u v, t = u ++ v ∧ p.ReadsOpenly before a u v

/-- The value is read openly at two positions of the text. -/
def OpenlyTwiceIn (p : Pattern α) (before : Option CodePoint) (a : α) (t : Text) : Prop :=
  ∃ u m v, m ≠ [] ∧ t = u ++ (m ++ v) ∧ p.ReadsOpenly before a u (m ++ v) ∧
    p.ReadsOpenly before a (u ++ m) v

/-- Readings are not empty and stay in the text, and one that begins inside another ends with it or
before. -/
structure Nested (p : Pattern α) : Prop where
  pos {before : Option CodePoint} {t : Text} {a : α} {n : Nat} : p before t = some (a, n) → 0 < n
  inside {before : Option CodePoint} {t : Text} {a : α} {n : Nat} :
    p before t = some (a, n) → n ≤ t.length
  ends {before : Option CodePoint} {y v : Text} {a b : α} {n m : Nat} :
    p before (y ++ v) = some (a, n) → y ≠ [] → y.length < n →
      p (lastOf y before) v = some (b, m) → y.length + m ≤ n

theorem not_covers_nil (before : Option CodePoint) (v : Text) : ¬ p.Covers before [] v := by
  rintro ⟨x, y, a, n, h, hy, -⟩
  exact hy (List.nil_eq_append_iff.mp h).2

/-! ### One step of the scan -/

/-- What is read at a position of `w`, with `s` behind it, ends in `w`. -/
def EndsWithin (p : Pattern α) (before : Option CodePoint) (w s : Text) : Prop :=
  ∀ x y a n, w = x ++ y → y ≠ [] → p (lastOf x before) (y ++ s) = some (a, n) → n ≤ y.length

theorem Nested.endsWithin_token (hp : p.Nested) {before : Option CodePoint} {w s : Text} {a : α}
    (h : p before (w ++ s) = some (a, w.length)) : EndsWithin p before w s := by
  rintro x y b m rfl hy hread
  by_cases hx : x = []
  · subst hx
    rw [List.nil_append] at h
    rw [lastOf_nil, h, Option.some.injEq, Prod.mk.injEq] at hread
    exact Nat.le_of_eq hread.2.symm
  · rw [List.append_assoc] at h
    have hlength : x.length < (x ++ y).length := by
      rw [List.length_append]
      have := List.length_pos_iff.mpr hy
      omega
    have hend := hp.ends h hx hlength hread
    rw [List.length_append] at hend
    omega

theorem endsWithin_plain {before : Option CodePoint} {c : CodePoint} {s : Text}
    (h : ∀ a n, p before (c :: s) ≠ some (a, n + 1)) : EndsWithin p before [c] s := by
  intro x y a n hsplit hy hread
  obtain ⟨rfl, rfl⟩ : x = [] ∧ y = [c] := by
    rcases List.singleton_eq_append_iff.mp hsplit with hx | hx
    · exact hx
    · exact absurd hx.2 hy
  cases n with
  | zero => exact Nat.zero_le _
  | succ n => exact absurd hread (h a n)

section Step

variable {before : Option CodePoint} {w s : Text} {a : α}

theorem EndsWithin.covers_append (h : EndsWithin p before w s) {u v : Text} (hs : s = u ++ v) :
    p.Covers before (w ++ u) v ↔ p.Covers (lastOf w before) u v := by
  subst hs
  constructor
  · rintro ⟨x, y, b, n, hsplit, hy, hread, hn⟩
    rcases List.append_eq_append_iff.mp hsplit with ⟨z, rfl, rfl⟩ | ⟨z, rfl, rfl⟩
    · rw [lastOf_append] at hread
      exact ⟨z, y, b, n, rfl, hy, hread, hn⟩
    · by_cases hz : z = []
      · subst hz
        rw [List.nil_append] at hy hread hn
        rw [List.append_nil]
        exact ⟨[], u, b, n, rfl, hy, hread, hn⟩
      · rw [List.append_assoc] at hread
        have hend := h x z b n rfl hz hread
        rw [List.length_append] at hn
        omega
  · rintro ⟨x, y, b, n, rfl, hy, hread, hn⟩
    rw [← lastOf_append] at hread
    exact ⟨w ++ x, y, b, n, (List.append_assoc w x y).symm, hy, hread, hn⟩

theorem EndsWithin.readsOpenly_append (h : EndsWithin p before w s) {u v : Text}
    (hs : s = u ++ v) :
    p.ReadsOpenly before a (w ++ u) v ↔ p.ReadsOpenly (lastOf w before) a u v := by
  rw [ReadsOpenly, ReadsOpenly, h.covers_append hs, lastOf_append]

/-- The scan goes on behind `w`: what is read in it ends in it, and nothing is read openly inside. -/
structure PassesOver (p : Pattern α) (before : Option CodePoint) (w s : Text) : Prop where
  endsWithin : EndsWithin p before w s
  closed {a : α} {x y : Text} : w = x ++ y → x ≠ [] → y ≠ [] → ¬ p.ReadsOpenly before a x (y ++ s)

theorem PassesOver.readsOpenly_iff (h : PassesOver p before w s) {u v : Text}
    (hsplit : w ++ s = u ++ v) (hu : u ≠ []) :
    p.ReadsOpenly before a u v ↔
      ∃ u', u = w ++ u' ∧ s = u' ++ v ∧ p.ReadsOpenly (lastOf w before) a u' v := by
  constructor
  · intro hopen
    rcases List.append_eq_append_iff.mp hsplit with ⟨z, rfl, rfl⟩ | ⟨z, rfl, rfl⟩
    · exact ⟨z, rfl, rfl, (h.endsWithin.readsOpenly_append rfl).mp hopen⟩
    · by_cases hz : z = []
      · subst hz
        rw [List.append_nil] at h ⊢
        refine ⟨[], (List.append_nil u).symm, rfl, (h.endsWithin.readsOpenly_append rfl).mp ?_⟩
        rwa [List.append_nil]
      · exact absurd hopen (h.closed rfl hu hz)
  · rintro ⟨u', rfl, rfl, hopen⟩
    exact (h.endsWithin.readsOpenly_append rfl).mpr hopen

theorem PassesOver.openlyIn_iff (h : PassesOver p before w s) :
    p.OpenlyIn before a (w ++ s) ↔
      p.ReadsOpenly before a [] (w ++ s) ∨ p.OpenlyIn (lastOf w before) a s := by
  constructor
  · rintro ⟨u, v, hsplit, hopen⟩
    by_cases hu : u = []
    · subst hu
      rw [List.nil_append] at hsplit
      rw [hsplit]
      exact Or.inl hopen
    · obtain ⟨u', -, hs, hopen⟩ := (h.readsOpenly_iff hsplit hu).mp hopen
      exact Or.inr ⟨u', v, hs, hopen⟩
  · rintro (hopen | ⟨u, v, hs, hopen⟩)
    · exact ⟨[], w ++ s, rfl, hopen⟩
    · subst hs
      exact ⟨w ++ u, v, (List.append_assoc w u v).symm,
        (h.endsWithin.readsOpenly_append rfl).mpr hopen⟩

theorem PassesOver.openlyTwiceIn_iff (h : PassesOver p before w s) (hw : w ≠ []) :
    p.OpenlyTwiceIn before a (w ++ s) ↔
      (p.ReadsOpenly before a [] (w ++ s) ∧ p.OpenlyIn (lastOf w before) a s) ∨
        p.OpenlyTwiceIn (lastOf w before) a s := by
  constructor
  · rintro ⟨u, m, v, hm, hsplit, hfirst, hsecond⟩
    have hum : u ++ m ≠ [] := fun h => hm (List.append_eq_nil_iff.mp h).2
    have hsplit' : w ++ s = u ++ m ++ v := hsplit.trans (List.append_assoc u m v).symm
    obtain ⟨r, hr, hs, hbehind⟩ := (h.readsOpenly_iff hsplit' hum).mp hsecond
    by_cases hu : u = []
    · subst hu
      rw [List.nil_append] at hsplit
      rw [← hsplit] at hfirst
      exact Or.inl ⟨hfirst, r, v, hs, hbehind⟩
    · obtain ⟨u', rfl, hs', hfirst⟩ := (h.readsOpenly_iff hsplit hu).mp hfirst
      rw [List.append_assoc] at hr
      obtain rfl := List.append_cancel_left hr
      exact Or.inr ⟨u', m, v, hm, hs', hfirst, hbehind⟩
  · rintro (⟨hfirst, u, v, rfl, hsecond⟩ | ⟨u, m, v, hm, rfl, hfirst, hsecond⟩)
    · refine ⟨[], w ++ u, v, fun h => hw (List.append_eq_nil_iff.mp h).1, ?_, ?_, ?_⟩
      · rw [List.nil_append, List.append_assoc]
      · rwa [List.append_assoc]
      · exact (h.endsWithin.readsOpenly_append rfl).mpr hsecond
    · refine ⟨w ++ u, m, v, hm, (List.append_assoc _ _ _).symm, ?_, ?_⟩
      · exact (h.endsWithin.readsOpenly_append rfl).mpr hfirst
      · rw [List.append_assoc]
        exact (h.endsWithin.readsOpenly_append (List.append_assoc u m v).symm).mpr hsecond

end Step

theorem Nested.passesOver_token (hp : p.Nested) {before : Option CodePoint} {w s : Text} {a : α}
    (h : p before (w ++ s) = some (a, w.length)) : PassesOver p before w s where
  endsWithin := hp.endsWithin_token h
  closed := by
    rintro b x y rfl hx hy ⟨-, hopen⟩
    refine hopen ⟨[], x, a, (x ++ y).length, rfl, hx, ?_, ?_⟩
    · rwa [← List.append_assoc]
    · have := List.length_pos_iff.mpr hy
      rw [List.length_append]
      omega

theorem passesOver_plain {before : Option CodePoint} {c : CodePoint} {s : Text}
    (h : ∀ a n, p before (c :: s) ≠ some (a, n + 1)) : PassesOver p before [c] s where
  endsWithin := endsWithin_plain h
  closed hsplit hx hy := by
    rcases List.singleton_eq_append_iff.mp hsplit with hsplit | hsplit
    · exact absurd hsplit.1 hx
    · exact absurd hsplit.2 hy

/-! ### The whole scan -/

/-- The first token of a text that begins with one, and the text behind it. -/
theorem Nested.exists_token (hp : p.Nested) {before : Option CodePoint} {c : CodePoint} {rest : Text}
    {a : α} {n : Nat} (h : p before (c :: rest) = some (a, n + 1)) :
    c :: rest = (c :: rest.take n) ++ rest.drop n ∧
      p before ((c :: rest.take n) ++ rest.drop n) = some (a, (c :: rest.take n).length) := by
  have hsplit : c :: rest = (c :: rest.take n) ++ rest.drop n := by
    rw [List.cons_append, List.take_append_drop]
  have hlength : (c :: rest.take n).length = n + 1 := by
    have hinside := hp.inside h
    rw [List.length_cons] at hinside ⊢
    rw [List.length_take, Nat.min_eq_left (Nat.le_of_succ_le_succ hinside)]
  refine ⟨hsplit, ?_⟩
  rw [hlength, ← hsplit]
  exact h

theorem readsOpenly_nil_iff {before : Option CodePoint} {t : Text} {a b : α} {n : Nat}
    (h : p before t = some (b, n)) : p.ReadsOpenly before a [] t ↔ b = a := by
  rw [ReadsOpenly, lastOf_nil, h]
  constructor
  · rintro ⟨⟨m, hread⟩, -⟩
    exact (Prod.mk.inj (Option.some.inj hread)).1
  · rintro rfl
    exact ⟨⟨n, rfl⟩, not_covers_nil _ _⟩

theorem Nested.not_readsOpenly_plain (hp : p.Nested) {before : Option CodePoint} {t : Text}
    (h : ∀ a n, p before t ≠ some (a, n + 1)) (a : α) : ¬ p.ReadsOpenly before a [] t := by
  rintro ⟨⟨n, hread⟩, -⟩
  obtain ⟨n, rfl⟩ := Nat.exists_eq_succ_of_ne_zero (Nat.ne_of_gt (hp.pos hread))
  exact h a n hread

theorem Nested.not_openlyIn_nil (hp : p.Nested) (before : Option CodePoint) (a : α) :
    ¬ p.OpenlyIn before a [] := by
  rintro ⟨u, v, hsplit, ⟨n, hread⟩, -⟩
  obtain ⟨rfl, rfl⟩ := List.nil_eq_append_iff.mp hsplit
  exact absurd (hp.inside hread) (Nat.not_le_of_lt (hp.pos hread))

/-- The values of the tokens are those that are read openly. -/
theorem Nested.mem_tokensFrom_iff (hp : p.Nested) (before : Option CodePoint) (t : Text) (a : α) :
    a ∈ tokensFrom p before t ↔ p.OpenlyIn before a t := by
  induction before, t using scan_induction p with
  | nil before => exact iff_of_false List.not_mem_nil (hp.not_openlyIn_nil before a)
  | token before c rest b n hread ih =>
      obtain ⟨hsplit, htoken⟩ := hp.exists_token hread
      rw [tokensFrom_token hread, List.mem_cons, ih, hsplit,
        (hp.passesOver_token htoken).openlyIn_iff, readsOpenly_nil_iff htoken, lastOf_cons,
        eq_comm]
  | plain before c rest hread ih =>
      have hstep := (passesOver_plain hread).openlyIn_iff (a := a)
      rw [List.singleton_append] at hstep
      rw [tokensFrom_plain hread, ih, hstep, lastOf_cons, lastOf_nil,
        or_iff_right (hp.not_readsOpenly_plain hread a)]

/-- A value is that of two tokens when it is read openly at two positions. -/
theorem Nested.two_le_count_tokensFrom_iff [BEq α] [LawfulBEq α] (hp : p.Nested)
    (before : Option CodePoint) (t : Text) (a : α) :
    2 ≤ (tokensFrom p before t).count a ↔ p.OpenlyTwiceIn before a t := by
  induction before, t using scan_induction p with
  | nil before =>
      refine iff_of_false (by simp) ?_
      rintro ⟨u, m, v, -, hsplit, hopen, -⟩
      exact hp.not_openlyIn_nil before a ⟨u, m ++ v, hsplit, hopen⟩
  | token before c rest b n hread ih =>
      obtain ⟨hsplit, htoken⟩ := hp.exists_token hread
      rw [tokensFrom_token hread, hsplit,
        (hp.passesOver_token htoken).openlyTwiceIn_iff (List.cons_ne_nil _ _),
        readsOpenly_nil_iff htoken, lastOf_cons, ← ih, ← hp.mem_tokensFrom_iff,
        ← List.count_pos_iff]
      by_cases hvalue : b = a
      · subst hvalue
        rw [List.count_cons_self, and_iff_right rfl]
        omega
      · rw [List.count_cons_of_ne hvalue, or_iff_right fun h => hvalue h.1]
  | plain before c rest hread ih =>
      have hstep := (passesOver_plain hread).openlyTwiceIn_iff (a := a) (List.cons_ne_nil _ _)
      rw [List.singleton_append] at hstep
      rw [tokensFrom_plain hread, ih, hstep, lastOf_cons, lastOf_nil,
        or_iff_right fun h => hp.not_readsOpenly_plain hread a h.1]

end BigO.Pattern
