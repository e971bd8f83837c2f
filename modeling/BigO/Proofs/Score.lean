import BigO.Proofs.Number.Rounding
import BigO.Score

/-! The score is exact although it is computed in binary64. Scores that are not cut off at zero come
from numbers with few digits, and those lose nothing; where an intermediate value has more digits
than fit, rounding leaves it far below zero. -/

namespace BigO.Score

open Binary64

variable {penalty lines : ℤ} {halved rest difference total : ℚ}

/-- The rounded values in the computation of a score: half the lines, what the penalty leaves, their
difference, and that with one half added. -/
structure Steps (penalty lines : ℤ) (halved rest difference total : ℚ) : Prop where
  halvedSide : KeepsSide (lines / 2) halved
  restSide : KeepsSide ((100 - penalty : ℤ) : ℚ) rest
  differenceSide : KeepsSide (rest - halved) difference
  totalSide : KeepsSide (difference + 1 / 2) total

/-- With few digits nothing is rounded. -/
theorem Steps.floor_eq (hsteps : Steps penalty lines halved rest difference total)
    (hpenalty : 0 ≤ penalty) (hpenalty' : penalty ≤ 2 ^ 51) (hlines : 0 ≤ lines)
    (hlines' : lines ≤ 2 ^ 51) : ⌊total⌋ = (201 - 2 * penalty - lines) / 2 := by
  obtain ⟨hhalved, hrest, hdifference, htotal⟩ := hsteps
  have hhalved' : halved = lines / 2 := hhalved.eq (representable_half (by rw [abs_le]; omega))
  have hrest' : rest = (100 - penalty : ℤ) := hrest.eq (representable_int (by rw [abs_le]; omega))
  have hdifference' : difference = (200 - 2 * penalty - lines : ℤ) / 2 := by
    have hexact : rest - halved = (200 - 2 * penalty - lines : ℤ) / 2 := by
      rw [hrest', hhalved']
      push_cast
      ring
    rw [hexact] at hdifference
    exact hdifference.eq (representable_half (by rw [abs_le]; omega))
  have htotal' : total = (201 - 2 * penalty - lines : ℤ) / 2 := by
    have hexact : difference + 1 / 2 = (201 - 2 * penalty - lines : ℤ) / 2 := by
      rw [hdifference']
      push_cast
      ring
    rw [hexact] at htotal
    exact htotal.eq (representable_half (by rw [abs_le]; omega))
  rw [htotal']
  exact Rat.floor_intCast_div_natCast _ 2

theorem halved_nonneg (hhalved : KeepsSide (lines / 2) halved) (hlines : 0 ≤ lines) :
    0 ≤ halved := by
  have hcast : (0 : ℚ) ≤ lines := by exact_mod_cast hlines
  exact hhalved.nonneg (by linarith)

theorem representable_hundred : Representable 100 := by
  have hint := representable_int (k := 100) (by decide)
  rwa [Int.cast_ofNat] at hint

theorem rest_le (hrest : KeepsSide ((100 - penalty : ℤ) : ℚ) rest) (hpenalty : 0 ≤ penalty) :
    rest ≤ 100 := by
  refine hrest.below representable_hundred ?_
  exact_mod_cast (by omega : 100 - penalty ≤ 100)

/-- With many digits the total is not above zero. -/
theorem Steps.total_nonpos (hsteps : Steps penalty lines halved rest difference total)
    (hpenalty : 0 ≤ penalty) (hlines : 0 ≤ lines) (hmany : 2 ^ 51 < penalty ∨ 2 ^ 51 < lines) :
    total ≤ 0 := by
  have hhalved := halved_nonneg hsteps.halvedSide hlines
  have hrest := rest_le hsteps.restSide hpenalty
  have hfar : rest - halved ≤ (-1 : ℤ) := by
    rcases hmany with hpenalty' | hlines'
    · have hlow : rest ≤ (-100 : ℤ) := by
        refine hsteps.restSide.below (representable_int (by decide)) ?_
        exact_mod_cast (by omega : 100 - penalty ≤ -100)
      push_cast at hlow ⊢
      linarith
    · have hhigh : ((200 : ℤ) : ℚ) ≤ halved := by
        refine hsteps.halvedSide.above (representable_int (by decide)) ?_
        have hcast : (400 : ℚ) ≤ lines := by exact_mod_cast (by omega : 400 ≤ lines)
        push_cast
        linarith
      push_cast at hhigh ⊢
      linarith
  have hdifference := hsteps.differenceSide.below (representable_int (by decide)) hfar
  push_cast at hdifference
  exact hsteps.totalSide.nonpos (by linarith)

/-- Kept between its limits, the rounded total is the exact one. -/
theorem Steps.clamped_eq (hsteps : Steps penalty lines halved rest difference total)
    (hpenalty : 0 ≤ penalty) (hlines : 0 ≤ lines) :
    min 100 (max 0 ⌊total⌋) = max 0 (min 100 ((201 - 2 * penalty - lines) / 2)) := by
  by_cases hfew : penalty ≤ 2 ^ 51 ∧ lines ≤ 2 ^ 51
  · rw [hsteps.floor_eq hpenalty hfew.1 hlines hfew.2]
    omega
  · have hmany : 2 ^ 51 < penalty ∨ 2 ^ 51 < lines := by omega
    have hfloor : ⌊total⌋ ≤ 0 := by
      have hle := Int.floor_le_floor (hsteps.total_nonpos hpenalty hlines hmany)
      rwa [Int.floor_zero] at hle
    omega

/-! ### Sizes -/

theorem half_denotes : half.Denotes (1 / 2) := by
  refine ⟨2 ^ 52, 53, rfl, ?_⟩
  norm_num

theorem cast_lt_two_pow {k : ℤ} {n : ℕ} (h : k < 2 ^ n) : (k : ℚ) < 2 ^ n := by
  exact_mod_cast h

theorem halved_le {n : ℕ} (hhalved : KeepsSide (lines / 2) halved) (hlines : 0 ≤ lines)
    (hlines' : lines < 2 ^ n) : halved ≤ 2 ^ n := by
  refine hhalved.below (representable_twoPow n) ?_
  have hcast : (0 : ℚ) ≤ lines := by exact_mod_cast hlines
  have hlt := cast_lt_two_pow hlines'
  linarith

theorem le_rest {n : ℕ} (hrest : KeepsSide ((100 - penalty : ℤ) : ℚ) rest)
    (hpenalty : penalty < 2 ^ n) : -2 ^ n ≤ rest := by
  refine hrest.above (representable_twoPow n).neg ?_
  have hlt := cast_lt_two_pow hpenalty
  push_cast
  linarith

theorem two_mul_pow_le_sizeLimit {n : ℕ} (hn : n < 1023) : 2 * 2 ^ n ≤ sizeLimit := by
  rw [← pow_succ']
  exact two_pow_le_sizeLimit hn

theorem hundred_le_sizeLimit : 100 + 1 / 2 ≤ sizeLimit := by
  calc (100 : ℚ) + 1 / 2 ≤ 2 ^ 7 := by norm_num
    _ ≤ sizeLimit := two_pow_le_sizeLimit (by decide)

variable {n : ℕ}

theorem rounds_halfLines (hn : n < 1023) (hlines : 0 ≤ lines) (hlines' : lines < 2 ^ n) :
    (halfLines lines).Rounds (lines / 2) := by
  have hcast : (0 : ℚ) ≤ lines := by exact_mod_cast hlines
  have hlt := cast_lt_two_pow hlines'
  have hlimit := two_mul_pow_le_sizeLimit hn
  rw [← signed_natAbs_div]
  refine rounds_ofRatio _ (by decide) ?_
  rw [Nat.cast_natAbs, abs_of_nonneg hlines, Nat.cast_ofNat]
  linarith

theorem rounds_rest (hn : n < 1023) (hpenalty : 0 ≤ penalty) (hpenalty' : penalty < 2 ^ n) :
    (ofInt (100 - penalty)).Rounds ((100 - penalty : ℤ) : ℚ) := by
  have hcast : (0 : ℚ) ≤ penalty := by exact_mod_cast hpenalty
  have hlt := cast_lt_two_pow hpenalty'
  have hlimit := two_mul_pow_le_sizeLimit hn
  have hhundred := hundred_le_sizeLimit
  refine rounds_ofInt (abs_le.mpr ?_)
  push_cast
  constructor <;> linarith

/-- The difference is no larger than its two parts together. -/
theorem difference_sizes (hn : n < 1023) (hhalved : KeepsSide (lines / 2) halved)
    (hrest : KeepsSide ((100 - penalty : ℤ) : ℚ) rest) (hpenalty : 0 ≤ penalty)
    (hpenalty' : penalty < 2 ^ n) (hlines : 0 ≤ lines) (hlines' : lines < 2 ^ n) :
    -sizeLimit ≤ rest - halved ∧ rest - halved ≤ 100 := by
  have hlow := le_rest hrest hpenalty'
  have hhigh := rest_le hrest hpenalty
  have hlow' := halved_nonneg hhalved hlines
  have hhigh' := halved_le hhalved hlines hlines'
  have hlimit := two_mul_pow_le_sizeLimit hn
  constructor <;> linarith

/-- **The score is exact**, as long as the penalty and the lines stay far within the range. -/
theorem maintainability_eq {cyclomatic totalLines weight : ℤ} (hpenalty : 0 ≤ cyclomatic * weight)
    (hpenalty' : cyclomatic * weight < 2 ^ 1022) (hlines : 0 ≤ totalLines)
    (hlines' : totalLines < 2 ^ 1022) :
    maintainability cyclomatic totalLines weight =
      .ok (max 0 (min 100 ((201 - 2 * (cyclomatic * weight) - totalLines) / 2))) := by
  obtain ⟨halved, hhalvedDenotes, hhalved⟩ := rounds_halfLines (by decide) hlines hlines'
  obtain ⟨rest, hrestDenotes, hrest⟩ := rounds_rest (by decide) hpenalty hpenalty'
  obtain ⟨hlow, hhigh⟩ :=
    difference_sizes (by decide) hhalved hrest hpenalty hpenalty' hlines hlines'
  have hhundred := hundred_le_sizeLimit
  obtain ⟨difference, hdifferenceDenotes, hdifference⟩ :=
    hrestDenotes.rounds_sub hhalvedDenotes (abs_le.mpr ⟨hlow, by linarith only [hhigh, hhundred]⟩)
  have hlow' := hdifference.above representable_sizeLimit.neg hlow
  have hhigh' := hdifference.below representable_hundred hhigh
  obtain ⟨total, htotalDenotes, htotal⟩ := hdifferenceDenotes.rounds_add half_denotes
    (abs_le.mpr ⟨by linarith only [hlow'], by linarith only [hhigh', hhundred]⟩)
  have hclamped := Steps.clamped_eq ⟨hhalved, hrest, hdifference, htotal⟩ hpenalty hlines
  simp only [maintainability, within, if_pos hhalvedDenotes.isFinite,
    if_pos hrestDenotes.isFinite, bind, Except.bind, htotalDenotes.floor?, hclamped]

theorem natCast_lt_two_pow {k n : ℕ} (h : k < 2 ^ n) : (k : ℤ) < 2 ^ n := by
  exact_mod_cast h

/-- The score of counts. -/
theorem maintainability_natCast {cyclomatic totalLines weight : ℕ}
    (hpenalty : cyclomatic * weight < 2 ^ 1022) (hlines : totalLines < 2 ^ 1022) :
    maintainability cyclomatic totalLines weight =
      .ok (max 0 (min 100 ((201 - 2 * (cyclomatic * weight : ℕ) - totalLines) / 2))) := by
  rw [Int.natCast_mul]
  refine maintainability_eq ?_ ?_ (Int.natCast_nonneg _) (natCast_lt_two_pow hlines)
  · rw [← Int.natCast_mul]
    exact Int.natCast_nonneg _
  · rw [← Int.natCast_mul]
    exact natCast_lt_two_pow hpenalty

/-! ### The score of all counts within range -/

/-- Decisions, lines and a weight whose penalty and halves stay within the range of binary64. -/
structure InRange (cyclomatic totalLines weight : ℤ) : Prop where
  cyclomatic_nonneg : 0 ≤ cyclomatic
  totalLines_nonneg : 0 ≤ totalLines
  weight_nonneg : 0 ≤ weight
  penalty_lt : cyclomatic * weight < 2 ^ 1022
  totalLines_lt : totalLines < 2 ^ 1022

/-- The score without any rounding but the last, a half up. -/
def exactScore (cyclomatic totalLines weight : ℤ) : ℤ :=
  max 0 (min 100 ⌊((201 - 2 * cyclomatic * weight - totalLines : ℤ) : ℚ) / 2⌋)

theorem exactScore_anti {cyclomatic totalLines weight cyclomatic' totalLines' weight' : ℤ}
    (hcyclomatic : 0 ≤ cyclomatic) (hweight : 0 ≤ weight) (hmore : cyclomatic ≤ cyclomatic')
    (hlonger : totalLines ≤ totalLines') (hheavier : weight ≤ weight') :
    exactScore cyclomatic' totalLines' weight' ≤ exactScore cyclomatic totalLines weight := by
  have hpenalty : cyclomatic * weight ≤ cyclomatic' * weight' :=
    mul_le_mul hmore hheavier hweight (hcyclomatic.trans hmore)
  have hnumerator : 201 - 2 * cyclomatic' * weight' - totalLines' ≤
      201 - 2 * cyclomatic * weight - totalLines := by
    rw [mul_assoc, mul_assoc]
    omega
  have hhalf : ((201 - 2 * cyclomatic' * weight' - totalLines' : ℤ) : ℚ) / 2 ≤
      ((201 - 2 * cyclomatic * weight - totalLines : ℤ) : ℚ) / 2 := by
    gcongr
  exact max_le_max_left 0 (min_le_min_left 100 (Int.floor_le_floor hhalf))

theorem maintainability_of_inRange {cyclomatic totalLines weight : ℤ}
    (h : InRange cyclomatic totalLines weight) :
    maintainability cyclomatic totalLines weight =
      .ok (exactScore cyclomatic totalLines weight) := by
  have hfloor : ⌊((201 - 2 * cyclomatic * weight - totalLines : ℤ) : ℚ) / 2⌋ =
      (201 - 2 * (cyclomatic * weight) - totalLines) / 2 := by
    rw [mul_assoc]
    exact Rat.floor_intCast_div_natCast _ 2
  rw [exactScore, hfloor]
  exact maintainability_eq (mul_nonneg h.cyclomatic_nonneg h.weight_nonneg) h.penalty_lt
    h.totalLines_nonneg h.totalLines_lt

/-- **The score is that of exact arithmetic**, and so it does not rise with more decisions, more
lines or a greater weight. -/
theorem score_exact_and_antitone {cyclomatic totalLines weight : ℤ}
    (h : InRange cyclomatic totalLines weight) :
    maintainability cyclomatic totalLines weight =
        .ok (max 0 (min 100 ⌊((201 - 2 * cyclomatic * weight - totalLines : ℤ) : ℚ) / 2⌋)) ∧
      ∀ {cyclomatic' totalLines' weight' : ℤ}, InRange cyclomatic' totalLines' weight' →
        cyclomatic ≤ cyclomatic' → totalLines ≤ totalLines' → weight ≤ weight' →
          ∃ score score', maintainability cyclomatic totalLines weight = .ok score ∧
            maintainability cyclomatic' totalLines' weight' = .ok score' ∧ score' ≤ score :=
  ⟨maintainability_of_inRange h, fun h' hmore hlonger hheavier =>
    ⟨_, _, maintainability_of_inRange h, maintainability_of_inRange h',
      exactScore_anti h.cyclomatic_nonneg h.weight_nonneg hmore hlonger hheavier⟩⟩

/-- A score whose half is rounded up, and a text so long that the half of its lines is rounded, as it
has more digits than a double holds. -/
theorem score_exact_and_antitone_at_half :
    InRange 20 41 2 ∧ InRange 20 (2 ^ 1021 + 1) 2 ∧ maintainability 20 41 2 = .ok 40 ∧
      ∃ score score', maintainability 20 41 2 = .ok score ∧
        maintainability 20 (2 ^ 1021 + 1) 2 = .ok score' ∧ score' ≤ score := by
  have hshort : InRange 20 41 2 := by constructor <;> decide +kernel
  have hlong : InRange 20 (2 ^ 1021 + 1) 2 := by constructor <;> decide +kernel
  obtain ⟨hscore, hanti⟩ := score_exact_and_antitone hshort
  have hforty : ⌊((201 - 2 * 20 * 2 - 41 : ℤ) : ℚ) / 2⌋ = 40 := by norm_num
  rw [hforty] at hscore
  exact ⟨hshort, hlong, hscore, hanti hlong le_rfl (by decide +kernel) le_rfl⟩

end BigO.Score
