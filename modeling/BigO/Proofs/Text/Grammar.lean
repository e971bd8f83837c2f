import BigO.Proofs.Text.Reader

/-! Readers as grammars: which text a reader takes, and what may stand behind it. A text that two
readers one behind the other take is cut in two between them, so a composed reader is read off as a
grammar from its parts. -/

namespace BigO.Reader

variable {α β : Type}

/-- In front of `rest` the reader takes the text `w` and reads the value from it. -/
def Takes (r : Reader α) (w rest : Text) (a : α) : Prop := r (w ++ rest) = some (a, w.length)

section Takes

variable {w rest : Text}

theorem takes_bind_iff {r : Reader α} {f : α → Reader β} {b : β} :
    (r >>= f).Takes w rest b ↔
      ∃ a w₁ w₂, w = w₁ ++ w₂ ∧ r.Takes w₁ (w₂ ++ rest) a ∧ (f a).Takes w₂ rest b := by
  rw [Takes, bind_eq_some]
  constructor
  · rintro ⟨a, n, m, hr, hf, hlength⟩
    have hn : n ≤ w.length := by omega
    have hfront : (w.take n).length = n := List.length_take_of_le hn
    refine ⟨a, w.take n, w.drop n, (List.take_append_drop n w).symm, ?_, ?_⟩
    · rw [Takes, ← List.append_assoc, List.take_append_drop, hfront]
      exact hr
    · rw [List.drop_append_of_le_length hn] at hf
      rw [Takes, List.length_drop, hlength, Nat.add_sub_cancel_left]
      exact hf
  · rintro ⟨a, w₁, w₂, rfl, hr, hf⟩
    refine ⟨a, w₁.length, w₂.length, ?_, ?_, List.length_append⟩
    · rw [List.append_assoc]
      exact hr
    · rw [List.append_assoc, List.drop_left]
      exact hf

theorem takes_pure_iff {a b : α} : (pure a : Reader α).Takes w rest b ↔ b = a ∧ w = [] := by
  rw [Takes, pure_eq_some, List.length_eq_zero_iff]

theorem takes_one_iff {p : CodePoint → Bool} {c : CodePoint} :
    (one p).Takes w rest c ↔ w = [c] ∧ p c = true := by
  rw [Takes, one_eq_some]
  constructor
  · rintro ⟨hhead, hc, hlength⟩
    obtain ⟨d, rfl⟩ := List.length_eq_one_iff.mp hlength
    cases hhead
    exact ⟨rfl, hc⟩
  · rintro ⟨rfl, hc⟩
    exact ⟨rfl, hc, rfl⟩

theorem takes_char_iff {x : Char} {c : CodePoint} :
    (char x).Takes w rest c ↔ w = [CodePoint.ofChar x] ∧ c = x := by
  rw [char, takes_one_iff, decide_eq_true_eq]
  constructor
  · rintro ⟨rfl, rfl⟩
    exact ⟨rfl, rfl⟩
  · rintro ⟨rfl, rfl⟩
    exact ⟨rfl, rfl⟩

theorem takes_exactly_iff {v a : Text} : (exactly v).Takes w rest a ↔ w = v ∧ a = v := by
  rw [Takes, exactly_eq_some]
  constructor
  · rintro ⟨hfront, rfl, hlength⟩
    exact ⟨(List.append_inj hfront.choose_spec hlength.symm).1.symm, rfl⟩
  · rintro ⟨rfl, rfl⟩
    exact ⟨List.prefix_append _ _, rfl, rfl⟩

theorem takes_run_iff {p : CodePoint → Bool} {v : Text} :
    (run p).Takes w rest v ↔ v = w ∧ (∀ c ∈ w, p c = true) ∧ ∀ c ∈ rest.head?, p c = false := by
  rw [Takes, run_eq_some]
  constructor
  · rintro ⟨rfl, hlength⟩
    have hrun : (w ++ rest).takeWhile p = w :=
      (List.prefix_of_prefix_length_le (List.takeWhile_prefix p) (List.prefix_append w rest)
        (Nat.le_of_eq hlength.symm)).eq_of_length hlength.symm
    have hrest : (w ++ rest).dropWhile p = rest := by
      have hsplit := List.takeWhile_append_dropWhile (p := p) (l := w ++ rest)
      rw [hrun] at hsplit
      exact List.append_cancel_left hsplit
    refine ⟨hrun, fun c hc => ?_, fun c hc => ?_⟩
    · exact List.all_eq_true.mp List.all_takeWhile c (hrun ▸ hc)
    · have hhead := List.head?_dropWhile_not p (w ++ rest)
      rw [hrest, Option.mem_def.mp hc] at hhead
      simpa using hhead
  · rintro ⟨rfl, hw, hrest⟩
    rw [takeWhile_append_eq hw hrest]
    exact ⟨rfl, rfl⟩

/-- A bounded run takes code points of the class, no more than the bound. -/
theorem of_takes_runAtMost {p : CodePoint → Bool} {limit : Nat} {v : Text}
    (h : (runAtMost limit p).Takes w rest v) :
    v = w ∧ (∀ c ∈ w, p c = true) ∧ w.length ≤ limit := by
  rw [Takes, runAtMost, Option.some.injEq, Prod.mk.injEq] at h
  obtain ⟨rfl, hlength⟩ := h
  have hfront : ((w ++ rest).take limit).takeWhile p <+: w ++ rest :=
    (List.takeWhile_prefix p).trans (List.take_prefix limit _)
  have hrun : ((w ++ rest).take limit).takeWhile p = w :=
    (List.prefix_of_prefix_length_le hfront (List.prefix_append w rest)
      (Nat.le_of_eq hlength)).eq_of_length hlength
  refine ⟨hrun, fun c hc => ?_, ?_⟩
  · exact List.all_eq_true.mp List.all_takeWhile c (hrun ▸ hc)
  · rw [← hlength]
    exact Nat.le_trans (List.takeWhile_sublist p).length_le (List.length_take_le limit _)

theorem takes_runAtMost {p : CodePoint → Bool} {limit : Nat} (hw : ∀ c ∈ w, p c = true)
    (hlimit : w.length ≤ limit) (hrest : ∀ c ∈ rest.head?, p c = false) :
    (runAtMost limit p).Takes w rest w := by
  have hrun : ((w ++ rest).take limit).takeWhile p = w := by
    rw [List.take_append, List.take_of_length_le hlimit]
    refine takeWhile_append_eq hw fun c hc => ?_
    rw [List.head?_take] at hc
    split at hc
    · cases hc
    · exact hrest c hc
  rw [Takes, runAtMost, hrun]

theorem takes_optional_iff {r : Reader α} {u : Unit} :
    (optional r).Takes w rest u ↔ (∃ a, r.Takes w rest a) ∨ (w = [] ∧ r rest = none) := by
  rw [Takes, optional]
  constructor
  · intro h
    cases hread : r (w ++ rest) with
    | none =>
        rw [hread] at h
        cases List.length_eq_zero_iff.mp (Prod.mk.inj (Option.some.inj h)).2.symm
        exact Or.inr ⟨rfl, hread⟩
    | some hit =>
        obtain ⟨a, n⟩ := hit
        rw [hread] at h
        obtain rfl : n = w.length := (Prod.mk.inj (Option.some.inj h)).2
        exact Or.inl ⟨a, hread⟩
  · rintro (⟨a, hread⟩ | ⟨rfl, hread⟩)
    · rw [Takes] at hread
      rw [hread]
    · rw [List.nil_append, hread]
      rfl

theorem takes_notBefore_iff {p : CodePoint → Bool} {u : Unit} :
    (notBefore p).Takes w rest u ↔ w = [] ∧ ∀ c ∈ rest.head?, p c = false := by
  rw [Takes]
  cases w with
  | nil =>
      rw [List.nil_append, and_iff_right rfl]
      cases rest with
      | nil => exact iff_of_true rfl (by simp)
      | cons c rest => cases hc : p c <;> simp [notBefore, hc]
  | cons c w => cases hc : p c <;> simp [notBefore, hc]

/-- A text, blanks, and a code point that is none. -/
theorem takes_textThen_iff {v : Text} {x : Char} (hx : (CodePoint.ofChar x).isBlank = false)
    {u : Unit} :
    (do let _ ← exactly v; let _ ← blanks; let _ ← char x; return () : Reader Unit).Takes
        w rest u ↔
      ∃ ws, w = v ++ (ws ++ [CodePoint.ofChar x]) ∧ ∀ c ∈ ws, c.isBlank = true := by
  constructor
  · intro hread
    obtain ⟨_, _, w₁, rfl, hfront, hread⟩ := takes_bind_iff.mp hread
    obtain ⟨_, ws, w₂, rfl, hblanks, hread⟩ := takes_bind_iff.mp hread
    obtain ⟨_, _, w₃, rfl, hlast, hpure⟩ := takes_bind_iff.mp hread
    obtain ⟨rfl, -⟩ := takes_exactly_iff.mp hfront
    obtain ⟨rfl, -⟩ := takes_char_iff.mp hlast
    obtain ⟨-, rfl⟩ := takes_pure_iff.mp hpure
    exact ⟨ws, rfl, (takes_run_iff.mp hblanks).2.1⟩
  · rintro ⟨ws, rfl, hblank⟩
    refine takes_bind_iff.mpr ⟨v, v, _, rfl, takes_exactly_iff.mpr ⟨rfl, rfl⟩, ?_⟩
    refine takes_bind_iff.mpr ⟨ws, ws, _, rfl, takes_run_iff.mpr ⟨rfl, hblank, ?_⟩, ?_⟩
    · rintro c ⟨⟩
      exact hx
    · exact takes_bind_iff.mpr ⟨_, [CodePoint.ofChar x], [], rfl,
        takes_char_iff.mpr ⟨rfl, rfl⟩, takes_pure_iff.mpr ⟨rfl, rfl⟩⟩

end Takes

/-! ### Readers that stay in the text -/

/-- Nothing is taken that is not there. -/
def Inside (r : Reader α) : Prop := ∀ s a n, r s = some (a, n) → n ≤ s.length

theorem Inside.exists_takes {r : Reader α} (hr : r.Inside) {s : Text} {a : α} {n : Nat}
    (h : r s = some (a, n)) : ∃ w rest, s = w ++ rest ∧ n = w.length ∧ r.Takes w rest a := by
  have hlength : (s.take n).length = n := List.length_take_of_le (hr s a n h)
  refine ⟨s.take n, s.drop n, (List.take_append_drop n s).symm, hlength.symm, ?_⟩
  rw [Takes, List.take_append_drop, hlength]
  exact h

theorem Inside.bind {r : Reader α} {f : α → Reader β} (hr : r.Inside) (hf : ∀ a, (f a).Inside) :
    (r >>= f).Inside := by
  intro s b k h
  obtain ⟨a, n, m, hread, hread', rfl⟩ := bind_eq_some.mp h
  have hfirst := hr s a n hread
  have hsecond := hf a _ b m hread'
  rw [List.length_drop] at hsecond
  omega

theorem inside_pure (a : α) : (pure a : Reader α).Inside := by
  intro s b n h
  rw [(pure_eq_some.mp h).2]
  exact Nat.zero_le _

theorem inside_one (p : CodePoint → Bool) : (one p).Inside := by
  intro s c n h
  obtain ⟨hhead, -, rfl⟩ := one_eq_some.mp h
  cases s with
  | nil => cases hhead
  | cons d s => exact Nat.succ_le_succ (Nat.zero_le _)

theorem inside_exactly (w : Text) : (exactly w).Inside := by
  intro s v n h
  obtain ⟨hfront, -, rfl⟩ := exactly_eq_some.mp h
  exact hfront.length_le

theorem inside_run (p : CodePoint → Bool) : (run p).Inside := by
  intro s w n h
  rw [(run_eq_some.mp h).2]
  exact (List.takeWhile_sublist p).length_le

theorem inside_runAtMost (limit : Nat) (p : CodePoint → Bool) : (runAtMost limit p).Inside := by
  intro s w n h
  rw [runAtMost, Option.some.injEq, Prod.mk.injEq] at h
  rw [← h.2]
  exact ((List.takeWhile_sublist p).trans (List.take_sublist limit s)).length_le

theorem inside_notBefore (p : CodePoint → Bool) : (notBefore p).Inside := by
  intro s u n h
  cases s with
  | nil =>
      obtain ⟨-, rfl⟩ := Prod.mk.inj (Option.some.inj h)
      exact Nat.le_refl 0
  | cons c s =>
      rw [notBefore] at h
      split at h
      · cases h
      · obtain ⟨-, rfl⟩ := Prod.mk.inj (Option.some.inj h)
        exact Nat.zero_le _

theorem inside_textThen (w : Text) (x : Char) :
    (do let _ ← exactly w; let _ ← blanks; let _ ← char x; return () : Reader Unit).Inside :=
  (inside_exactly w).bind fun _ => (inside_run _).bind fun _ => (inside_one _).bind fun _ =>
    inside_pure ()

theorem Inside.optional {r : Reader α} (hr : r.Inside) : (optional r).Inside := by
  intro s u n h
  rw [Reader.optional] at h
  cases hread : r s with
  | none =>
      rw [hread] at h
      rw [← (Prod.mk.inj (Option.some.inj h)).2]
      exact Nat.zero_le _
  | some hit =>
      rw [hread] at h
      rw [← (Prod.mk.inj (Option.some.inj h)).2]
      exact hr s _ _ hread

end BigO.Reader
