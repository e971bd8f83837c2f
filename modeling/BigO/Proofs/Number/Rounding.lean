import Mathlib.Algebra.Order.Floor.Ring
import Mathlib.Data.Rat.Floor
import Mathlib.Tactic.FieldSimp
import Mathlib.Tactic.Linarith
import Mathlib.Tactic.NormNum
import Mathlib.Tactic.Positivity
import Mathlib.Tactic.Ring
import BigO.Number.Binary64

/-! What binary64 arithmetic computes, over the rationals. A rounded result stands on the same side
of every number of 53 digits as the exact one. That is all a bound on a computation needs, and where
the exact result has 53 digits itself it says that nothing is lost. -/

namespace BigO.Binary64

/-! ### Values -/

/-- The number that a finite value stands for. -/
def Denotes (a : Binary64) (x : ℚ) : Prop :=
  ∃ (n : ℤ) (k : ℕ), a.toDyadic? = some (n, k) ∧ (n : ℚ) / 2 ^ k = x

/-- A magnitude with a sign. -/
def signed (negative : Bool) (x : ℚ) : ℚ := if negative then -x else x

theorem cast_twoPow (n : ℕ) : (twoPow n : ℚ) = 2 ^ n := by
  rw [twoPow, Nat.pow_eq, Nat.cast_pow, Nat.cast_ofNat]

theorem two_zpow_of_nonneg {e : ℤ} (he : 0 ≤ e) : (2 : ℚ) ^ e = twoPow e.toNat := by
  rw [cast_twoPow, ← zpow_natCast, Int.toNat_of_nonneg he]

theorem two_zpow_of_neg {e : ℤ} (he : e < 0) : (2 : ℚ) ^ e = ((twoPow (-e).toNat : ℕ) : ℚ)⁻¹ := by
  rw [cast_twoPow, ← zpow_natCast, Int.toNat_of_nonneg (by omega), zpow_neg, inv_inv]

theorem Denotes.isFinite {a : Binary64} {x : ℚ} (h : a.Denotes x) : a.isFinite = true := by
  obtain ⟨n, k, hdyadic, -⟩ := h
  cases a with
  | finite => rfl
  | infinite => cases hdyadic
  | nan => cases hdyadic

theorem denotes_finite (negative : Bool) (m : ℕ) (e : ℤ) :
    (finite negative m e).Denotes (signed negative (m * 2 ^ e)) := by
  refine ⟨_, _, rfl, ?_⟩
  have hscale : (((if 0 ≤ e then (m : ℤ) * twoPow e.toNat else m) : ℤ) : ℚ) / 2 ^ (-e).toNat =
      m * 2 ^ e := by
    rcases le_or_gt 0 e with he | he
    · have hzero : (-e).toNat = 0 := by omega
      rw [if_pos he, hzero, two_zpow_of_nonneg he, pow_zero, div_one, Int.cast_mul,
        Int.cast_natCast, Int.cast_natCast]
    · rw [if_neg (by omega), two_zpow_of_neg he, cast_twoPow, Int.cast_natCast, div_eq_mul_inv]
  cases negative with
  | false => exact hscale
  | true =>
      simp only [signed, if_true, Int.cast_neg, neg_div, hscale]

theorem Denotes.neg {a : Binary64} {x : ℚ} (h : a.Denotes x) : a.neg.Denotes (-x) := by
  obtain ⟨n, k, hdyadic, rfl⟩ := h
  cases a with
  | infinite => cases hdyadic
  | nan => cases hdyadic
  | finite negative m e =>
      simp only [toDyadic?, Option.some.injEq, Prod.mk.injEq] at hdyadic
      obtain ⟨rfl, rfl⟩ := hdyadic
      refine ⟨_, _, rfl, ?_⟩
      cases negative with
      | false =>
          simp only [Bool.not_false, if_true, Bool.false_eq_true, if_false, Int.cast_neg, neg_div]
      | true =>
          simp only [Bool.not_true, if_true, Bool.false_eq_true, if_false, Int.cast_neg, neg_div,
            neg_neg]

theorem Denotes.floor? {a : Binary64} {x : ℚ} (h : a.Denotes x) : a.floor? = some ⌊x⌋ := by
  obtain ⟨n, k, hdyadic, rfl⟩ := h
  have hfloor : ⌊(n : ℚ) / 2 ^ k⌋ = n / (twoPow k : ℤ) := by
    rw [← cast_twoPow, Rat.floor_intCast_div_natCast]
  rw [Binary64.floor?, hdyadic, hfloor]
  rfl

/-! ### Rounding keeps to one side -/

/-- The numbers of 53 digits whose last one is not too far behind the point. -/
def Representable (b : ℚ) : Prop := ∃ k f : ℤ, |k| ≤ 2 ^ 53 ∧ minExponent ≤ f ∧ b = k * 2 ^ f

/-- A number stands on the same side of every number of 53 digits as another. -/
structure KeepsSide (x y : ℚ) : Prop where
  above : ∀ {b}, Representable b → b ≤ x → b ≤ y
  below : ∀ {b}, Representable b → x ≤ b → y ≤ b

/-- The value of a number rounded. -/
def Rounds (a : Binary64) (x : ℚ) : Prop := ∃ y, a.Denotes y ∧ KeepsSide x y

theorem Representable.neg {b : ℚ} (h : Representable b) : Representable (-b) := by
  obtain ⟨k, f, hk, hf, rfl⟩ := h
  refine ⟨-k, f, by rwa [abs_neg], hf, ?_⟩
  rw [Int.cast_neg, neg_mul]

theorem representable_twoPow (n : ℕ) : Representable (2 ^ n) := by
  refine ⟨1, n, by norm_num, ?_, ?_⟩
  · have hmin : minExponent = -1074 := rfl
    omega
  · rw [Int.cast_one, one_mul, zpow_natCast]

/-- A size up to which nothing is rounded to infinity. -/
def sizeLimit : ℚ := 2 ^ 1023

theorem representable_sizeLimit : Representable sizeLimit := representable_twoPow 1023

theorem two_pow_le_sizeLimit {n : ℕ} (hn : n ≤ 1023) : 2 ^ n ≤ sizeLimit :=
  pow_le_pow_right₀ one_le_two hn

theorem representable_int {k : ℤ} (hk : |k| ≤ 2 ^ 53) : Representable k :=
  ⟨k, 0, hk, by decide, by rw [zpow_zero, mul_one]⟩

theorem representable_half {k : ℤ} (hk : |k| ≤ 2 ^ 53) : Representable (k / 2) := by
  refine ⟨k, -1, hk, by decide, ?_⟩
  rw [zpow_neg_one, div_eq_mul_inv]

theorem KeepsSide.refl (x : ℚ) : KeepsSide x x := ⟨fun _ h => h, fun _ h => h⟩

theorem KeepsSide.neg {x y : ℚ} (h : KeepsSide x y) : KeepsSide (-x) (-y) where
  above hb hle := le_neg_of_le_neg (h.below hb.neg (le_neg_of_le_neg hle))
  below hb hle := neg_le_of_neg_le (h.above hb.neg (neg_le_of_neg_le hle))

/-- A number of 53 digits has only itself on its side of them all. -/
theorem KeepsSide.eq {x y : ℚ} (h : KeepsSide x y) (hx : Representable x) : y = x :=
  le_antisymm (h.below hx le_rfl) (h.above hx le_rfl)

theorem KeepsSide.nonneg {x y : ℚ} (h : KeepsSide x y) (hx : 0 ≤ x) : 0 ≤ y := by
  have hzero := h.above (representable_int (k := 0) (by decide))
  rw [Int.cast_zero] at hzero
  exact hzero hx

theorem KeepsSide.nonpos {x y : ℚ} (h : KeepsSide x y) (hx : x ≤ 0) : y ≤ 0 := by
  have hneg := h.neg.nonneg (neg_nonneg.mpr hx)
  exact neg_nonneg.mp hneg

theorem KeepsSide.signed {x y : ℚ} (h : KeepsSide x y) (negative : Bool) :
    KeepsSide (signed negative x) (signed negative y) := by
  cases negative with
  | false => exact h
  | true => exact h.neg

theorem le_roundDiv {num den : ℕ} {k : ℤ} (hden : 0 < den) (h : k * den ≤ num) :
    k ≤ roundDiv num den := by
  have hquot : k ≤ ((num / den : ℕ) : ℤ) := by
    rw [Int.natCast_div]
    exact (Int.le_ediv_iff_mul_le (by omega)).mpr h
  rw [roundDiv]
  split <;> omega

theorem roundDiv_le {num den : ℕ} {k : ℤ} (hden : 0 < den) (h : (num : ℤ) ≤ k * den) :
    (roundDiv num den : ℤ) ≤ k := by
  have hdecomp : ((num / den : ℕ) : ℤ) * den + (num % den : ℕ) = num := by
    rw [← Nat.cast_mul, ← Nat.cast_add, mul_comm, Nat.div_add_mod]
  have hquot : ((num / den : ℕ) : ℤ) ≤ k := by
    refine le_of_mul_le_mul_right ?_ (by omega : (0 : ℤ) < den)
    omega
  rw [roundDiv]
  rcases lt_or_eq_of_le hquot with hlt | heq
  · split <;> omega
  · -- A quotient that reaches the bound leaves nothing to round.
    rw [heq] at hdecomp
    rw [if_neg (by omega)]
    exact hquot

/-- A scaled quotient is rounded as a quotient. -/
theorem scaledDiv_eq (num : ℕ) {den : ℕ} (hden : 0 < den) (e : ℤ) :
    ∃ n d : ℕ, 0 < d ∧ scaledDiv num den e = roundDiv n d ∧
      (n : ℚ) = (num : ℚ) / den / 2 ^ e * d := by
  have hden' : (den : ℚ) ≠ 0 := by exact_mod_cast hden.ne'
  rcases le_or_gt 0 e with he | he
  · refine ⟨num, den * twoPow e.toNat, Nat.mul_pos hden (Nat.two_pow_pos _), if_pos he, ?_⟩
    rw [Nat.cast_mul, two_zpow_of_nonneg he, cast_twoPow]
    field_simp
  · refine ⟨num * twoPow (-e).toNat, den, hden, if_neg (by omega), ?_⟩
    rw [Nat.cast_mul, two_zpow_of_neg he, cast_twoPow]
    field_simp

theorem le_scaledDiv {num den : ℕ} {k e : ℤ} (hden : 0 < den)
    (h : (k : ℚ) * 2 ^ e ≤ (num : ℚ) / den) : k ≤ scaledDiv num den e := by
  obtain ⟨n, d, hd, hround, hn⟩ := scaledDiv_eq num hden e
  rw [hround]
  refine le_roundDiv hd ?_
  have hquot : (k : ℚ) ≤ (num : ℚ) / den / 2 ^ e := (le_div_iff₀ (zpow_pos two_pos e)).mpr h
  have hmul : (k : ℚ) * d ≤ n := by
    rw [hn]
    exact mul_le_mul_of_nonneg_right hquot (Nat.cast_nonneg d)
  exact_mod_cast hmul

theorem scaledDiv_le {num den : ℕ} {k e : ℤ} (hden : 0 < den)
    (h : (num : ℚ) / den ≤ k * 2 ^ e) : (scaledDiv num den e : ℤ) ≤ k := by
  obtain ⟨n, d, hd, hround, hn⟩ := scaledDiv_eq num hden e
  rw [hround]
  refine roundDiv_le hd ?_
  have hquot : (num : ℚ) / den / 2 ^ e ≤ k := (div_le_iff₀ (zpow_pos two_pos e)).mpr h
  have hmul : (n : ℚ) ≤ k * d := by
    rw [hn]
    exact mul_le_mul_of_nonneg_right hquot (Nat.cast_nonneg d)
  exact_mod_cast hmul

/-! ### The exponent -/

theorem atLeastPower_iff {num den : ℕ} (hden : 0 < den) (p : ℤ) :
    atLeastPower num den p = true ↔ (2 : ℚ) ^ p ≤ (num : ℚ) / den := by
  have hden' : (0 : ℚ) < den := by exact_mod_cast hden
  rcases le_or_gt 0 p with hp | hp
  · rw [atLeastPower, if_pos hp, decide_eq_true_iff, le_div_iff₀ hden', two_zpow_of_nonneg hp,
      mul_comm]
    norm_cast
  · have hpow : (0 : ℚ) < twoPow (-p).toNat := by
      exact_mod_cast Nat.two_pow_pos _
    rw [atLeastPower, if_neg (by omega), decide_eq_true_iff, le_div_iff₀ hden', two_zpow_of_neg hp,
      inv_mul_le_iff₀ hpow, mul_comm]
    norm_cast

/-- The digits of a quotient's parts tell its size up to a factor of two. -/
theorem log2_bounds {num den : ℕ} (hnum : 0 < num) (hden : 0 < den) :
    (2 : ℚ) ^ ((num.log2 : ℤ) - den.log2 - 1) ≤ (num : ℚ) / den ∧
      (num : ℚ) / den < 2 ^ ((num.log2 : ℤ) - den.log2 + 1) := by
  have hden' : (0 : ℚ) < den := by exact_mod_cast hden
  have hnumLow : (2 : ℚ) ^ num.log2 ≤ num := by exact_mod_cast Nat.log2_self_le hnum.ne'
  have hnumHigh : (num : ℚ) < 2 ^ (num.log2 + 1) := by exact_mod_cast Nat.lt_log2_self
  have hdenLow : (2 : ℚ) ^ den.log2 ≤ den := by exact_mod_cast Nat.log2_self_le hden.ne'
  have hdenHigh : (den : ℚ) < 2 ^ (den.log2 + 1) := by exact_mod_cast Nat.lt_log2_self
  constructor
  · have hsplit : (num.log2 : ℤ) - den.log2 - 1 = (num.log2 : ℤ) - (den.log2 + 1 : ℕ) := by
      omega
    rw [hsplit, zpow_sub₀ two_ne_zero, zpow_natCast, zpow_natCast]
    exact div_le_div₀ (Nat.cast_nonneg num) hnumLow hden' hdenHigh.le
  · have hsplit : (num.log2 : ℤ) - den.log2 + 1 = (num.log2 + 1 : ℕ) - (den.log2 : ℤ) := by
      omega
    rw [hsplit, zpow_sub₀ two_ne_zero, zpow_natCast, zpow_natCast]
    exact div_lt_div₀ hnumHigh hdenLow (by positivity) (by positivity)

/-- The exponent gives the quotient 53 digits, unless it is the least one. -/
theorem exponentFor_spec {num den : ℕ} (hnum : 0 < num) (hden : 0 < den) :
    minExponent ≤ exponentFor num den ∧
      (exponentFor num den = minExponent ∨
        (2 : ℚ) ^ (exponentFor num den + 52) ≤ (num : ℚ) / den) ∧
      (num : ℚ) / den < 2 ^ (exponentFor num den + 53) := by
  obtain ⟨hlow, hhigh⟩ := log2_bounds hnum hden
  have hpower : ∃ p : ℤ, exponentFor num den = max (p - 52) minExponent ∧
      (2 : ℚ) ^ p ≤ (num : ℚ) / den ∧ (num : ℚ) / den < 2 ^ (p + 1) := by
    refine ⟨_, rfl, ?_⟩
    split
    · next h => exact ⟨(atLeastPower_iff hden _).mp h, hhigh⟩
    · next h =>
        rw [atLeastPower_iff hden, not_le] at h
        refine ⟨hlow, ?_⟩
        rwa [sub_add_cancel]
  obtain ⟨p, he, hp, hp'⟩ := hpower
  rw [he]
  refine ⟨le_max_right _ _, ?_, ?_⟩
  · rcases le_total (p - 52) minExponent with h | h
    · exact Or.inl (max_eq_right h)
    · rw [max_eq_left h, sub_add_cancel]
      exact Or.inr hp
  · refine hp'.trans_le (zpow_le_zpow_right₀ one_le_two ?_)
    have := le_max_left (p - 52) minExponent
    omega

/-! ### The operations -/

/-- A number of 53 digits is a multiple of a power of two, or small beside it. -/
theorem Representable.multiple_or_le {b : ℚ} (hb : Representable b) (e : ℤ) :
    (∃ n : ℤ, b = n * 2 ^ e) ∨ minExponent < e ∧ b ≤ (2 ^ 52 : ℤ) * 2 ^ e := by
  obtain ⟨k, f, hk, hf, rfl⟩ := hb
  rcases le_or_gt e f with hef | hfe
  · refine Or.inl ⟨k * 2 ^ (f - e).toNat, ?_⟩
    have hsplit : (2 : ℚ) ^ f = 2 ^ (f - e).toNat * 2 ^ e := by
      rw [← zpow_natCast, ← zpow_add₀ two_ne_zero]
      congr 1
      omega
    rw [hsplit]
    push_cast
    ring
  · refine Or.inr ⟨by omega, ?_⟩
    have hk' : (k : ℚ) ≤ 2 ^ 53 := by exact_mod_cast (le_abs_self k).trans hk
    calc (k : ℚ) * 2 ^ f
        ≤ 2 ^ 53 * 2 ^ (e - 1) :=
          mul_le_mul hk' (zpow_le_zpow_right₀ one_le_two (by omega))
            (zpow_pos two_pos f).le (by positivity)
      _ = (2 ^ 52 : ℤ) * 2 ^ e := by
          rw [zpow_sub_one₀ two_ne_zero]
          push_cast
          ring

theorem keepsSide_scaledDiv {num den : ℕ} (hnum : 0 < num) (hden : 0 < den) :
    KeepsSide ((num : ℚ) / den)
      (scaledDiv num den (exponentFor num den) * 2 ^ exponentFor num den) := by
  obtain ⟨-, hlow, -⟩ := exponentFor_spec hnum hden
  generalize exponentFor num den = e at hlow ⊢
  have hunit : (0 : ℚ) < 2 ^ e := zpow_pos two_pos e
  have habove : ∀ {n : ℤ}, (n : ℚ) * 2 ^ e ≤ (num : ℚ) / den →
      (n : ℚ) * 2 ^ e ≤ scaledDiv num den e * 2 ^ e := by
    intro n h
    have hle : (n : ℚ) ≤ scaledDiv num den e := by exact_mod_cast le_scaledDiv hden h
    exact mul_le_mul_of_nonneg_right hle hunit.le
  have hbelow : ∀ {n : ℤ}, (num : ℚ) / den ≤ n * 2 ^ e →
      (scaledDiv num den e : ℚ) * 2 ^ e ≤ n * 2 ^ e := by
    intro n h
    have hle : (scaledDiv num den e : ℚ) ≤ n := by exact_mod_cast scaledDiv_le hden h
    exact mul_le_mul_of_nonneg_right hle hunit.le
  have hquot : minExponent < e → ((2 ^ 52 : ℤ) : ℚ) * 2 ^ e ≤ (num : ℚ) / den := by
    intro he
    have hpow := hlow.resolve_left (by omega)
    rw [zpow_add₀ two_ne_zero, mul_comm] at hpow
    exact_mod_cast hpow
  constructor
  · intro b hb hle
    rcases hb.multiple_or_le e with ⟨n, rfl⟩ | ⟨he, hsmall⟩
    · exact habove hle
    · exact hsmall.trans (habove (hquot he))
  · intro b hb hle
    rcases hb.multiple_or_le e with ⟨n, rfl⟩ | ⟨he, hsmall⟩
    · exact hbelow hle
    · -- The quotient is the least with its exponent, and so a multiple of the unit.
      exact (hbelow (hle.trans hsmall)).trans ((hquot he).trans hle)

/-- Where nothing is too large, `normal` only chooses the form of a number. -/
theorem denotes_normal {m : ℕ} {e : ℤ} (negative : Bool) (he : e ≤ maxExponent)
    (hsize : (m : ℚ) * 2 ^ e ≤ sizeLimit) :
    (normal negative m e).Denotes (signed negative (m * 2 ^ e)) := by
  rw [normal]
  by_cases hm : m = twoPow 53
  · have hcarry : (m : ℚ) * 2 ^ e = twoPow 52 * 2 ^ (e + 1) := by
      rw [hm, cast_twoPow, cast_twoPow, zpow_add_one₀ two_ne_zero]
      ring
    have hexp : e + 1 ≤ maxExponent := by
      rw [hcarry, cast_twoPow, sizeLimit, ← zpow_natCast, ← zpow_natCast,
        ← zpow_add₀ two_ne_zero] at hsize
      have hle := (zpow_le_zpow_iff_right₀ one_lt_two).mp hsize
      have hmax : maxExponent = 971 := rfl
      omega
    simp only [if_pos hm, if_neg (not_lt.mpr hexp)]
    rw [hcarry]
    exact denotes_finite negative _ _
  · simp only [if_neg hm, if_neg (not_lt.mpr he)]
    exact denotes_finite negative _ _

/-- **Rounding a quotient**: it has a value, and that keeps to the side of the quotient. -/
theorem rounds_ofRatio {num den : ℕ} (negative : Bool) (hden : 0 < den)
    (hsize : (num : ℚ) / den ≤ sizeLimit) :
    (ofRatio negative num den).Rounds (signed negative ((num : ℚ) / den)) := by
  rw [ofRatio]
  by_cases hzero : num = 0
  · rw [if_pos hzero]
    refine ⟨_, denotes_finite negative 0 minExponent, ?_⟩
    rw [hzero, Nat.cast_zero, zero_div, zero_mul]
    exact KeepsSide.refl _
  · rw [if_neg hzero]
    have hnum : 0 < num := Nat.pos_of_ne_zero hzero
    obtain ⟨-, hlow, -⟩ := exponentFor_spec hnum hden
    have hside := keepsSide_scaledDiv hnum hden
    refine ⟨_, denotes_normal negative ?_ (hside.below representable_sizeLimit hsize),
      hside.signed negative⟩
    rcases hlow with hleast | hpow
    · rw [hleast]
      decide
    · have hle := hpow.trans hsize
      rw [sizeLimit, ← zpow_natCast, zpow_le_zpow_iff_right₀ one_lt_two] at hle
      have hmax : maxExponent = 971 := rfl
      omega

theorem signed_natAbs_div (n : ℤ) (d : ℚ) : signed (decide (n < 0)) (n.natAbs / d) = n / d := by
  rcases lt_or_ge n 0 with hn | hn
  · rw [signed, if_pos (decide_eq_true hn), Nat.cast_natAbs, abs_of_neg hn, Int.cast_neg, neg_div,
      neg_neg]
  · rw [signed, if_neg (by simpa using hn), Nat.cast_natAbs, abs_of_nonneg hn]

theorem rounds_ofDyadic {n : ℤ} {k : ℕ} (hsize : |(n : ℚ) / 2 ^ k| ≤ sizeLimit) :
    (ofDyadic n k).Rounds ((n : ℚ) / 2 ^ k) := by
  rw [← cast_twoPow] at hsize ⊢
  rw [← signed_natAbs_div]
  refine rounds_ofRatio _ (Nat.two_pow_pos k) ?_
  rwa [Nat.cast_natAbs, Int.cast_abs, ← Nat.abs_cast (twoPow k), ← abs_div]

theorem rounds_ofInt {n : ℤ} (hsize : |(n : ℚ)| ≤ sizeLimit) : (ofInt n).Rounds n := by
  have hround := rounds_ofDyadic (n := n) (k := 0) (by rwa [pow_zero, div_one])
  rwa [pow_zero, div_one] at hround

theorem addDyadic_value (x y : ℤ × ℕ) :
    ((addDyadic x y).1 : ℚ) / 2 ^ (addDyadic x y).2 = x.1 / 2 ^ x.2 + y.1 / 2 ^ y.2 := by
  have hsplit : ∀ {k m : ℕ}, k ≤ m → (2 : ℚ) ^ m = 2 ^ (m - k) * 2 ^ k := by
    intro k m hle
    rw [← pow_add, Nat.sub_add_cancel hle]
  have hscale : ∀ (n : ℤ) {k m : ℕ}, k ≤ m → (n : ℚ) * 2 ^ (m - k) / 2 ^ m = n / 2 ^ k := by
    intro n k m hle
    rw [hsplit hle]
    field_simp
  rw [addDyadic, Int.cast_add, Int.cast_mul, Int.cast_mul, Int.cast_natCast, Int.cast_natCast,
    cast_twoPow, cast_twoPow, add_div, hscale _ (le_max_left _ _), hscale _ (le_max_right _ _)]

/-- **Adding** is adding and then rounding. -/
theorem Denotes.rounds_add {a b : Binary64} {x y : ℚ} (ha : a.Denotes x) (hb : b.Denotes y)
    (hsize : |x + y| ≤ sizeLimit) : (a.add b).Rounds (x + y) := by
  obtain ⟨n, k, hdyadic, rfl⟩ := ha
  obtain ⟨n', k', hdyadic', rfl⟩ := hb
  have hvalue := addDyadic_value (n, k) (n', k')
  unfold add
  rw [hdyadic, hdyadic']
  rw [← hvalue] at hsize ⊢
  exact rounds_ofDyadic hsize

theorem Denotes.rounds_sub {a b : Binary64} {x y : ℚ} (ha : a.Denotes x) (hb : b.Denotes y)
    (hsize : |x - y| ≤ sizeLimit) : (a.sub b).Rounds (x - y) := by
  rw [sub_eq_add_neg] at hsize ⊢
  exact ha.rounds_add hb.neg hsize

end BigO.Binary64
