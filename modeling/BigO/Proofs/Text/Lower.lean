import BigO.Proofs.Text.Part
import BigO.Proofs.Text.Word
import BigO.Text.Lower

/-! Lower case. What a code point becomes is never a capital letter of ASCII, and it is a blank only
where the code point is one. So a text without blanks at its ends has none there in lower case
either, and lower-casing it once more changes no letter of ASCII. -/

namespace BigO

namespace CodePoint

/-- The capital letters of ASCII. -/
def isCapital (c : CodePoint) : Bool := 0x41 ≤ c.val && c.val ≤ 0x5A

variable {c : CodePoint}

theorem isCapital_iff : c.isCapital = true ↔ 0x41 ≤ c.val ∧ c.val ≤ 0x5A := by
  rw [isCapital, Bool.and_eq_true, decide_eq_true_eq, decide_eq_true_eq]

theorem isCapital_of_ge (h : 0x5B ≤ c.val) : c.isCapital = false := by
  rw [Bool.eq_false_iff, ne_eq, isCapital_iff]
  omega

theorem ofNat_val {n : Nat} (h : n < 0x110000) : (ofNat n).val = n := by
  rw [ofNat, dif_pos h]

/-! ### One code point -/

theorem lower_of_ascii (h : c.val < 0x80) :
    c.lower = if c.isCapital then ofNat (c.val + 0x20) else c := by
  rw [lower, if_pos h]
  simp only [isCapital_iff]

/-- Outside ASCII no run of the mapping leads to ASCII but the one of the kelvin sign, and none of
them leads to a blank. -/
theorem lowerRuns_targets : ∀ run ∈ Text.lowerRuns, 0x80 < run.2.1 →
    (run.2.2.2 = 0x6B ∧ run.2.1 = run.1 + 1 ∨ 0x80 ≤ run.2.2.2) ∧
      run.2.2.2 + (run.2.1 - run.1) ≤ 0x110000 ∧
      ∀ n ∈ wideBlanks, n < run.2.2.2 ∨ run.2.2.2 + (run.2.1 - run.1) ≤ n := by
  decide +kernel

theorem lower_of_wide (h : 0x80 ≤ c.val) :
    (c.lower.val = 0x6B ∨ 0x80 ≤ c.lower.val) ∧ (c.lower = c ∨ c.lower.val ∉ wideBlanks) := by
  rw [lower, if_neg (Nat.not_lt.mpr h)]
  split
  case h_2 => exact ⟨Or.inr h, Or.inl rfl⟩
  case h_1 first stop step target hrun =>
    have hmem := List.mem_of_find?_eq_some hrun
    have hfits := List.find?_some hrun
    simp only [Bool.and_eq_true, decide_eq_true_eq] at hfits
    obtain ⟨⟨hfirst, hstop⟩, -⟩ := hfits
    -- A run that a code point outside of ASCII is in also ends outside of it.
    have hwide : 0x80 < stop := Nat.lt_of_le_of_lt h hstop
    obtain ⟨htarget, hrange, hblanks⟩ := lowerRuns_targets _ hmem hwide
    simp only at htarget hrange hblanks
    rw [ofNat_val (by omega)]
    refine ⟨by omega, Or.inr fun hblank => ?_⟩
    rcases hblanks _ hblank with hlow | hhigh <;> omega

theorem isCapital_lower (c : CodePoint) : c.lower.isCapital = false := by
  by_cases hascii : c.val < 0x80
  · rw [lower_of_ascii hascii]
    by_cases hcapital : c.isCapital = true
    · rw [if_pos hcapital]
      rw [isCapital_iff] at hcapital
      apply isCapital_of_ge
      rw [ofNat_val (by omega)]
      omega
    · rw [if_neg hcapital]
      exact Bool.eq_false_iff.mpr hcapital
  · apply isCapital_of_ge
    rcases (lower_of_wide (Nat.not_lt.mp hascii)).1 with hkelvin | hwide <;> omega

/-- No code point becomes a blank that is none. -/
theorem isBlank_lower (h : c.isBlank = false) : c.lower.isBlank = false := by
  by_cases hascii : c.val < 0x80
  · rw [lower_of_ascii hascii]
    by_cases hcapital : c.isCapital = true
    · have hletters : ∀ n < 0x80, 0x61 ≤ n → n ≤ 0x7A → (ofNat n).isBlank = false := by decide
      rw [if_pos hcapital]
      rw [isCapital_iff] at hcapital
      exact hletters _ (by omega) (by omega) (by omega)
    · rw [if_neg hcapital]
      exact h
  · obtain ⟨hrange, hsame | hblank⟩ := lower_of_wide (Nat.not_lt.mp hascii)
    · rw [hsame]
      exact h
    · rw [Bool.eq_false_iff]
      intro hlower
      rcases hrange with hkelvin | hwide
      · have hk : (ofNat 0x6B).isBlank = false := by decide
        rw [← hkelvin, ofNat, dif_pos c.lower.lt, hlower] at hk
        cases hk
      · exact hblank (val_mem_wideBlanks hlower (Nat.not_lt.mpr hwide))

end CodePoint

namespace Text

variable {before rest : Text} {c d : CodePoint}

/-- A code point becomes another one, or one of the two small sigmas, or two code points with a
combining mark. -/
theorem lowerOne_cases (before : Text) (c : CodePoint) (rest : Text) :
    lowerOne before c rest = [c.lower] ∨
      (∃ sigma : CodePoint, 0x3C2 ≤ sigma.val ∧ sigma.val ≤ 0x3C3 ∧
        lowerOne before c rest = [sigma]) ∨
      lowerOne before c rest = [CodePoint.ofNat 0x69, CodePoint.ofNat 0x307] := by
  rw [lowerOne]
  split
  case isTrue =>
    refine Or.inr (Or.inl ⟨_, ?_, ?_, rfl⟩) <;> split <;> decide
  case isFalse =>
    split
    case isTrue => exact Or.inr (Or.inr rfl)
    case isFalse => exact Or.inl rfl

theorem isCapital_of_mem_lowerOne (hd : d ∈ lowerOne before c rest) : d.isCapital = false := by
  rcases lowerOne_cases before c rest with h | ⟨sigma, hsigma, -, h⟩ | h
  · rw [h, List.mem_singleton] at hd
    rw [hd]
    exact c.isCapital_lower
  · rw [h, List.mem_singleton] at hd
    rw [hd]
    exact CodePoint.isCapital_of_ge (by omega)
  · have hboth : ∀ e ∈ [CodePoint.ofNat 0x69, CodePoint.ofNat 0x307], e.isCapital = false := by
      decide
    exact hboth d (h ▸ hd)

theorem isBlank_of_mem_lowerOne (hc : c.isBlank = false) (hd : d ∈ lowerOne before c rest) :
    d.isBlank = false := by
  rcases lowerOne_cases before c rest with h | ⟨sigma, hlow, hhigh, h⟩ | h
  · rw [h, List.mem_singleton] at hd
    rw [hd]
    exact CodePoint.isBlank_lower hc
  · rw [h, List.mem_singleton] at hd
    rw [hd, Bool.eq_false_iff]
    intro hblank
    have hmem := CodePoint.val_mem_wideBlanks hblank (by omega)
    have hall : ∀ n ∈ CodePoint.wideBlanks, n < 0x3C2 ∨ 0x3C3 < n := by decide
    rcases hall _ hmem with h | h <;> omega
  · have hboth : ∀ e ∈ [CodePoint.ofNat 0x69, CodePoint.ofNat 0x307], e.isBlank = false := by
      decide
    exact hboth d (h ▸ hd)

theorem lowerOne_ne_nil (before : Text) (c : CodePoint) (rest : Text) :
    lowerOne before c rest ≠ [] := by
  rcases lowerOne_cases before c rest with h | ⟨sigma, -, -, h⟩ | h <;> rw [h] <;>
    exact List.cons_ne_nil _ _

/-- A code point of ASCII that is no capital stays as it is where what it becomes is in ASCII. -/
theorem lowerOne_eq_self (hc : c.isCapital = false)
    (h : ∀ d ∈ lowerOne before c rest, d.val < 0x80 ∧ d.val ≠ 0x6B) :
    lowerOne before c rest = [c] := by
  rcases lowerOne_cases before c rest with hone | ⟨sigma, hsigma, -, hone⟩ | hone
  · rw [hone] at h ⊢
    obtain ⟨hlow, hkelvin⟩ := h _ (List.mem_singleton_self _)
    by_cases hascii : c.val < 0x80
    · rw [CodePoint.lower_of_ascii hascii, hc]
      rfl
    · rcases (CodePoint.lower_of_wide (Nat.not_lt.mp hascii)).1 with h | h
      · exact absurd h hkelvin
      · exact absurd hlow (Nat.not_lt.mpr h)
  · have hlow := (h sigma (hone ▸ List.mem_singleton_self _)).1
    omega
  · have hmark := (h (CodePoint.ofNat 0x307) (hone ▸ by decide)).1
    exact absurd hmark (by decide)

/-! ### Texts -/

theorem lowerFrom_eq (before done t : Text) :
    lowerFrom before done t = done.reverse ++ lowerFrom before [] t := by
  induction t generalizing before done with
  | nil => rw [lowerFrom, lowerFrom, List.reverse_nil, List.append_nil]
  | cons c t ih =>
    rw [lowerFrom, lowerFrom, ih, ih (c :: before) (_ ++ [])]
    simp only [List.reverse_append, List.reverse_reverse, List.append_nil, List.append_assoc]

/-- Lower-casing goes code point by code point. -/
theorem lowerFrom_cons (before : Text) (c : CodePoint) (t : Text) :
    lowerFrom before [] (c :: t) = lowerOne before c t ++ lowerFrom (c :: before) [] t := by
  rw [lowerFrom, lowerFrom_eq, List.append_nil, List.reverse_reverse]

theorem lowerFrom_concat (before t : Text) (c : CodePoint) :
    ∃ front, lowerFrom before [] (t ++ [c]) = front ++ lowerOne (t.reverse ++ before) c [] := by
  induction t generalizing before with
  | nil =>
    refine ⟨[], ?_⟩
    rw [List.nil_append, lowerFrom_cons, lowerFrom, List.reverse_nil, List.append_nil]
    rfl
  | cons d t ih =>
    obtain ⟨front, hfront⟩ := ih (d :: before)
    refine ⟨lowerOne before d (t ++ [c]) ++ front, ?_⟩
    rw [List.cons_append, lowerFrom_cons, hfront, List.append_assoc, List.reverse_cons,
      List.append_assoc]
    rfl

/-- What holds of the code points that each code point becomes holds of the whole text. -/
theorem forall_mem_lowerFrom {P : CodePoint → Prop} {t : Text}
    (h : ∀ before, ∀ c ∈ t, ∀ rest, ∀ d ∈ lowerOne before c rest, P d) (before : Text) :
    ∀ d ∈ lowerFrom before [] t, P d := by
  induction t generalizing before with
  | nil =>
    intro d hd
    cases hd
  | cons c t ih =>
    intro d hd
    rw [lowerFrom_cons, List.mem_append] at hd
    rcases hd with hd | hd
    · exact h before c List.mem_cons_self t d hd
    · exact ih (fun before e he => h before e (List.mem_cons_of_mem c he)) (c :: before) d hd

theorem isCapital_of_mem_lower {t : Text} (hd : d ∈ t.lower) : d.isCapital = false :=
  forall_mem_lowerFrom (fun _ _ _ _ _ => isCapital_of_mem_lowerOne) [] d hd

theorem lowerFrom_eq_self {t : Text} (hcapitals : ∀ c ∈ t, c.isCapital = false) (before : Text)
    (hascii : ∀ d ∈ lowerFrom before [] t, d.val < 0x80 ∧ d.val ≠ 0x6B) :
    lowerFrom before [] t = t := by
  induction t generalizing before with
  | nil => rfl
  | cons c t ih =>
    rw [lowerFrom_cons, List.forall_mem_append] at hascii
    obtain ⟨hone, hrest⟩ := hascii
    obtain ⟨hc, ht⟩ := List.forall_mem_cons.mp hcapitals
    rw [lowerFrom_cons, lowerOne_eq_self hc hone, ih ht _ hrest]
    rfl

/-- A text without capital letters stays as it is where what it becomes is in ASCII. -/
theorem lower_eq_self {t : Text} (hcapitals : ∀ c ∈ t, c.isCapital = false)
    (hascii : ∀ d ∈ t.lower, d.val < 0x80 ∧ d.val ≠ 0x6B) : t.lower = t :=
  lowerFrom_eq_self hcapitals [] hascii

/-- Nothing is lost in lower case. -/
theorem lower_eq_nil_iff {t : Text} : t.lower = [] ↔ t = [] := by
  cases t with
  | nil => exact iff_of_true rfl rfl
  | cons c t =>
    rw [lower, lowerFrom_cons, List.append_eq_nil_iff]
    exact iff_of_false (fun h => lowerOne_ne_nil [] c t h.1) (List.cons_ne_nil c t)

/-- The lower-case form of a stripped text is stripped. -/
theorem strip_lower_strip (t : Text) : t.strip.lower.strip = t.strip.lower := by
  apply strip_eq_self
  · intro d hd
    cases hfront : t.strip with
    | nil =>
      rw [hfront] at hd
      cases hd
    | cons c rest =>
      have hc : c.isBlank = false := isBlank_of_mem_head?_strip (by rw [hfront]; rfl)
      rw [hfront, lower, lowerFrom_cons,
        List.head?_append_of_ne_nil _ (lowerOne_ne_nil _ _ _)] at hd
      exact isBlank_of_mem_lowerOne hc (List.mem_of_mem_head? hd)
  · intro d hd
    rcases List.eq_nil_or_concat' t.strip with hnil | ⟨front, c, hback⟩
    · rw [hnil] at hd
      cases hd
    · have hc : c.isBlank = false := isBlank_of_mem_getLast?_strip (by rw [hback]; simp)
      obtain ⟨lowered, hlowered⟩ := lowerFrom_concat [] front c
      rw [hback, lower, hlowered,
        List.getLast?_append_of_ne_nil _ (lowerOne_ne_nil _ _ _)] at hd
      exact isBlank_of_mem_lowerOne hc (List.mem_of_mem_getLast? hd)

end Text

end BigO
