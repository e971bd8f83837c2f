import BigO.Text.Reader

/-! What each reader reads, as an equivalence on its result. A composed reader is taken apart with
the rule for two readers one behind the other. -/

namespace BigO.Reader

variable {α β : Type}

theorem pure_eq_some {a b : α} {n : Nat} {s : Text} :
    (pure a : Reader α) s = some (b, n) ↔ b = a ∧ n = 0 := by
  show some (a, 0) = some (b, n) ↔ _
  rw [Option.some.injEq, Prod.mk.injEq, eq_comm, eq_comm (a := 0)]

theorem bind_eq_some {r : Reader α} {f : α → Reader β} {s : Text} {b : β} {k : Nat} :
    (r >>= f) s = some (b, k) ↔
      ∃ a n m, r s = some (a, n) ∧ f a (s.drop n) = some (b, m) ∧ k = n + m := by
  show Reader.bind r f s = some (b, k) ↔ _
  rw [Reader.bind]
  cases hr : r s with
  | none => simp
  | some hit =>
      obtain ⟨a, n⟩ := hit
      cases hf : f a (s.drop n) with
      | none => simp [hf]
      | some hit' =>
          obtain ⟨b', m⟩ := hit'
          simp only [hf, Option.some.injEq, Prod.mk.injEq]
          constructor
          · rintro ⟨rfl, rfl⟩
            exact ⟨a, n, m, ⟨rfl, rfl⟩, hf, rfl⟩
          · rintro ⟨a', n', m', ⟨rfl, rfl⟩, hf', rfl⟩
            rw [hf, Option.some.injEq, Prod.mk.injEq] at hf'
            exact ⟨hf'.1, by rw [hf'.2]⟩

/-- The value of two readers one behind the other. -/
theorem value_bind (r : Reader α) (f : α → Reader β) (s : Text) :
    ((r >>= f) s).map Prod.fst =
      (r s).bind fun hit => (f hit.1 (s.drop hit.2)).map Prod.fst := by
  show (Reader.bind r f s).map Prod.fst = _
  rw [Reader.bind]
  cases r s with
  | none => rfl
  | some hit =>
      obtain ⟨a, n⟩ := hit
      simp only [Option.bind_some]
      cases f a (s.drop n) <;> rfl

theorem bind_assoc {γ : Type} (r : Reader α) (f : α → Reader β) (g : β → Reader γ) :
    (r >>= f) >>= g = r >>= fun a => f a >>= g := by
  funext s
  refine Option.ext fun hit => ?_
  obtain ⟨c, k⟩ := hit
  simp only [bind_eq_some]
  constructor
  · rintro ⟨b, _, l, ⟨a, n, m, hr, hf, rfl⟩, hg, rfl⟩
    rw [← List.drop_drop] at hg
    exact ⟨a, n, m + l, hr, ⟨b, m, l, hf, hg, rfl⟩, Nat.add_assoc n m l⟩
  · rintro ⟨a, n, _, hr, ⟨b, m, l, hf, hg, rfl⟩, rfl⟩
    rw [List.drop_drop] at hg
    exact ⟨b, n + m, l, ⟨a, n, m, hr, hf, rfl⟩, hg, (Nat.add_assoc n m l).symm⟩

theorem exactly_eq_some {w v s : Text} {n : Nat} :
    exactly w s = some (v, n) ↔ w <+: s ∧ v = w ∧ n = w.length := by
  by_cases h : w <+: s
  · have hread : exactly w s = some (w, w.length) := if_pos (List.isPrefixOf_iff_prefix.mpr h)
    rw [hread, Option.some.injEq, Prod.mk.injEq]
    exact ⟨fun hv => ⟨h, hv.1.symm, hv.2.symm⟩, fun hv => ⟨hv.2.1.symm, hv.2.2.symm⟩⟩
  · have hread : exactly w s = none := if_neg (mt List.isPrefixOf_iff_prefix.mp h)
    simp [hread, h]

theorem one_eq_some {p : CodePoint → Bool} {s : Text} {c : CodePoint} {n : Nat} :
    one p s = some (c, n) ↔ s.head? = some c ∧ p c ∧ n = 1 := by
  cases s with
  | nil => simp [one]
  | cons d s =>
      by_cases h : p d
      · simp only [one, if_pos h, Option.some.injEq, Prod.mk.injEq, List.head?_cons]
        exact ⟨fun hc => ⟨hc.1, hc.1 ▸ h, hc.2.symm⟩, fun hc => ⟨hc.1, hc.2.2.symm⟩⟩
      · have hnone : one p (d :: s) = none := if_neg h
        simp only [hnone, List.head?_cons, Option.some.injEq, reduceCtorEq, false_iff]
        rintro ⟨rfl, hc, -⟩
        exact h hc

theorem char_eq_some {x : Char} {s : Text} {c : CodePoint} {n : Nat} :
    char x s = some (c, n) ↔ s.head? = some (CodePoint.ofChar x) ∧ c = x ∧ n = 1 := by
  rw [char, one_eq_some, decide_eq_true_eq]
  constructor
  · rintro ⟨hs, rfl, hn⟩
    exact ⟨hs, rfl, hn⟩
  · rintro ⟨hs, rfl, hn⟩
    exact ⟨hs, rfl, hn⟩

theorem run_eq_some {p : CodePoint → Bool} {s w : Text} {n : Nat} :
    run p s = some (w, n) ↔ w = s.takeWhile p ∧ n = (s.takeWhile p).length := by
  rw [run, Option.some.injEq, Prod.mk.injEq, eq_comm, eq_comm (b := n)]

/-- Code points of the class make a run where none of the class stands behind them. -/
theorem takeWhile_append_eq {p : CodePoint → Bool} {w rest : Text} (hw : ∀ c ∈ w, p c = true)
    (hrest : ∀ c ∈ rest.head?, p c = false) : (w ++ rest).takeWhile p = w := by
  rw [List.takeWhile_append_of_pos hw]
  cases rest with
  | nil => exact List.append_nil w
  | cons c rest =>
      rw [List.takeWhile_cons_of_neg (by rw [hrest c rfl]; exact Bool.false_ne_true)]
      exact List.append_nil w

theorem run1_eq_some {p : CodePoint → Bool} {s w : Text} {n : Nat} :
    run1 p s = some (w, n) ↔ w = s.takeWhile p ∧ w ≠ [] ∧ n = w.length := by
  rw [run1]
  by_cases h : s.takeWhile p = []
  · rw [h, List.isEmpty_nil, if_pos rfl]
    constructor
    · intro hread
      cases hread
    · rintro ⟨rfl, hw, -⟩
      exact absurd rfl hw
  · rw [if_neg (by rwa [List.isEmpty_iff]), Option.some.injEq, Prod.mk.injEq]
    constructor
    · rintro ⟨rfl, rfl⟩
      exact ⟨rfl, h, rfl⟩
    · rintro ⟨rfl, -, rfl⟩
      exact ⟨rfl, rfl⟩

/-- The word in front of a text is all of its first run of word characters. -/
theorem wordAmong_eq_some {words : List Text} {s w : Text} {n : Nat} :
    wordAmong words s = some (w, n) ↔
      w = s.takeWhile CodePoint.isWord ∧ w ≠ [] ∧ w ∈ words ∧ n = w.length := by
  simp only [wordAmong, bind_eq_some, run1_eq_some]
  constructor
  · rintro ⟨v, _, _, ⟨rfl, hv, rfl⟩, hread, rfl⟩
    split at hread
    · next hmem =>
        obtain ⟨rfl, rfl⟩ := pure_eq_some.mp hread
        exact ⟨rfl, hv, List.contains_iff_mem.mp hmem, rfl⟩
    · cases hread
  · rintro ⟨rfl, hw, hmem, rfl⟩
    refine ⟨_, _, 0, ⟨rfl, hw, rfl⟩, ?_, rfl⟩
    rw [if_pos (List.contains_iff_mem.mpr hmem)]
    rfl

theorem orElse_eq_some {r r' : Reader α} {s : Text} {hit : α × Nat} :
    orElse r r' s = some hit ↔ r s = some hit ∨ (r s = none ∧ r' s = some hit) := by
  rw [orElse]
  cases r s <;> simp

/-! ### What a reader gives -/

/-- Whatever value the reader reads is of this kind. -/
def Gives (P : α → Prop) (r : Reader α) : Prop := ∀ s a n, r s = some (a, n) → P a

section Gives

variable {P : α → Prop} {Q : β → Prop}

theorem Gives.bind {r : Reader α} {f : α → Reader β} (hr : r.Gives P)
    (hf : ∀ a, P a → (f a).Gives Q) : (r >>= f).Gives Q := by
  intro s b k hread
  obtain ⟨a, n, m, ha, hb, -⟩ := bind_eq_some.mp hread
  exact hf a (hr s a n ha) _ _ _ hb

/-- A reader whose value does not matter. -/
theorem Gives.andThen (r : Reader α) {f : α → Reader β} (hf : ∀ a, (f a).Gives Q) :
    (r >>= f).Gives Q := by
  intro s b k hread
  obtain ⟨a, n, m, -, hb, -⟩ := bind_eq_some.mp hread
  exact hf a _ _ _ hb

theorem gives_pure {a : α} (ha : P a) : (pure a : Reader α).Gives P := by
  intro s b n hread
  rwa [(pure_eq_some.mp hread).1]

theorem gives_one (p : CodePoint → Bool) : (one p).Gives (p · = true) :=
  fun _ _ _ hread => (one_eq_some.mp hread).2.1

theorem gives_run (p : CodePoint → Bool) : (run p).Gives fun w => ∀ c ∈ w, p c = true := by
  intro s w n hread
  rw [(run_eq_some.mp hread).1]
  exact List.all_eq_true.mp List.all_takeWhile

end Gives

/-! ### Where a reader can begin -/

/-- Whatever the reader reads is not empty and begins with a code point of the class. -/
def Begins (C : CodePoint → Prop) (r : Reader α) : Prop :=
  ∀ s a n, r s = some (a, n) → 0 < n ∧ ∃ c ∈ s.head?, C c

section Begins

variable {C : CodePoint → Prop}

theorem Begins.nil {r : Reader α} (h : r.Begins C) : r [] = none := by
  cases hread : r [] with
  | none => rfl
  | some hit =>
      obtain ⟨-, c, hc, -⟩ := h [] hit.1 hit.2 hread
      cases hc

/-- Before a code point of another class the reader fails. -/
theorem Begins.cons {r : Reader α} (h : r.Begins C) {c : CodePoint} (hc : ¬ C c) (s : Text) :
    r (c :: s) = none := by
  cases hread : r (c :: s) with
  | none => rfl
  | some hit =>
      obtain ⟨-, d, hd, hd'⟩ := h (c :: s) hit.1 hit.2 hread
      cases hd
      exact absurd hd' hc

theorem Begins.mono {D : CodePoint → Prop} {r : Reader α} (h : r.Begins C)
    (hCD : ∀ c, C c → D c) : r.Begins D := by
  intro s a n hread
  obtain ⟨hn, c, hc, hc'⟩ := h s a n hread
  exact ⟨hn, c, hc, hCD c hc'⟩

theorem Begins.bind {r : Reader α} (h : r.Begins C) (f : α → Reader β) :
    (r >>= f).Begins C := by
  intro s b k hread
  obtain ⟨a, n, m, hr, -, rfl⟩ := bind_eq_some.mp hread
  obtain ⟨hn, hhead⟩ := h s a n hr
  exact ⟨Nat.lt_of_lt_of_le hn (Nat.le_add_right n m), hhead⟩

theorem Begins.orElse {r r' : Reader α} (h : r.Begins C) (h' : r'.Begins C) :
    (r.orElse r').Begins C := by
  intro s a n hread
  rcases orElse_eq_some.mp hread with hr | ⟨-, hr⟩
  · exact h s a n hr
  · exact h' s a n hr

/-- Where the second of two readers cannot begin as the first one does, it is read behind the first
or in its place. -/
theorem optional_bind_eq {D : CodePoint → Prop} {r : Reader α} {r' : Reader β} (h : r.Begins C)
    (h' : r'.Begins D) (hCD : ∀ c, C c → ¬ D c) :
    (optional r >>= fun _ => r') = (r >>= fun _ => r').orElse r' := by
  funext s
  show Reader.bind (optional r) (fun _ => r') s = (Reader.bind r fun _ => r').orElse r' s
  rw [Reader.bind, optional, Reader.orElse, Reader.bind]
  cases hread : r s with
  | none =>
      simp only [List.drop_zero, Nat.zero_add]
      cases r' s <;> rfl
  | some hit =>
      obtain ⟨a, n⟩ := hit
      obtain ⟨-, c, hc, hc'⟩ := h s a n hread
      have hnone : r' s = none := by
        cases s with
        | nil => exact h'.nil
        | cons d s =>
            cases hc
            exact h'.cons (hCD c hc') s
      rw [hnone]
      simp only
      cases r' (s.drop n) <;> rfl

theorem begins_one (p : CodePoint → Bool) : (one p).Begins (p · = true) := by
  intro s c n hread
  obtain ⟨hs, hc, rfl⟩ := one_eq_some.mp hread
  exact ⟨Nat.one_pos, c, hs, hc⟩

theorem begins_char (x : Char) : (char x).Begins (· = CodePoint.ofChar x) := by
  intro s c n hread
  obtain ⟨hs, -, rfl⟩ := char_eq_some.mp hread
  exact ⟨Nat.one_pos, _, hs, rfl⟩

theorem begins_exactly (c : CodePoint) (w : Text) : (exactly (c :: w)).Begins (· = c) := by
  intro s v n hread
  obtain ⟨⟨rest, rfl⟩, -, rfl⟩ := exactly_eq_some.mp hread
  exact ⟨Nat.succ_pos _, c, rfl, rfl⟩

theorem begins_wordAmong (words : List Text) :
    (wordAmong words).Begins (CodePoint.isWord · = true) := by
  intro s w n hread
  obtain ⟨rfl, hw, -, rfl⟩ := wordAmong_eq_some.mp hread
  refine ⟨List.length_pos_iff.mpr hw, ?_⟩
  cases s with
  | nil => exact absurd rfl hw
  | cons c s =>
      refine ⟨c, rfl, ?_⟩
      exact Classical.byContradiction fun hc => hw (List.takeWhile_cons_of_neg hc)

end Begins

end BigO.Reader
