import BigO.Braced.Signals
import BigO.Proofs.Analysis.Total

/-! The decision list for braced code as a function of the signals. The labels are not in order
along the list, yet with all else equal a greater depth of loops never leads to a lesser growth:
what comes before the loops in the list does not look at the depth or answers as the loops would. -/

namespace BigO

/-- The place of an order of growth among all, the slowest first. -/
def Growth.rank (g : Growth) : Nat := Growth.all.idxOf g

instance : LE Growth := ⟨fun g g' => g.rank ≤ g'.rank⟩

instance (g g' : Growth) : Decidable (g ≤ g') := inferInstanceAs (Decidable (g.rank ≤ g'.rank))

namespace Braced

/-- The signals of a binary search: a middle and a `while`, without recursion. -/
def Signals.binarySearch (s : Signals) : Bool := !s.isRecursive && s.hasMidpoint && s.hasWhile

/-- What the depth of loops says, recursion apart from loops being linear. -/
def loopGrowth (recursive : Bool) (depth : Int) : Growth :=
  if 3 ≤ depth then .cubic
  else if depth = 2 then .quadratic
  else if depth = 1 then .linear
  else if recursive then .linear
  else .constant

/-- The order of growth that the decision list answers. -/
def Signals.growth (s : Signals) : Growth :=
  if s.binarySearch then .logarithmic
  else if s.divideAndConquer && decide (2 ≤ s.branchingFactor) then .linearithmic
  else if s.isRecursive && decide (3 ≤ s.branchingFactor) then .exponential
  else loopGrowth s.isRecursive s.maxLoopNesting

/-- The space that goes before the estimated one. -/
def Signals.spaceLabel (s : Signals) : Option Text :=
  if s.binarySearch then some Growth.constant.label else none

/-- The rules behind those for recursion go by the depth of loops. -/
theorem classify_loops (s : Signals) :
    ∃ rule, classify (rules.drop 4) s =
        .ok ⟨rule, (loopGrowth s.isRecursive s.maxLoopNesting).label, none⟩ ∧
      rule ≠ text "binary_search" := by
  simp only [classify, rules, List.drop_succ_cons, List.drop_zero, List.find?_cons, loopGrowth]
  by_cases hthree : 3 ≤ s.maxLoopNesting
  · rw [decide_eq_true hthree, if_pos hthree]
    exact ⟨_, rfl, by decide⟩
  · rw [decide_eq_false hthree, if_neg hthree]
    by_cases htwo : s.maxLoopNesting = 2
    · rw [beq_iff_eq.mpr htwo, if_pos htwo]
      exact ⟨_, rfl, by decide⟩
    · rw [beq_eq_false_iff_ne.mpr htwo, if_neg htwo]
      by_cases hone : s.maxLoopNesting = 1
      · rw [beq_iff_eq.mpr hone, if_pos hone]
        exact ⟨_, rfl, by decide⟩
      · rw [beq_eq_false_iff_ne.mpr hone, if_neg hone]
        cases s.isRecursive with
        | true => exact ⟨_, rfl, by decide⟩
        | false => exact ⟨_, rfl, by decide⟩

theorem classify_rules (s : Signals) :
    ∃ rule, classify rules s = .ok ⟨rule, s.growth.label, s.spaceLabel⟩ ∧
      (rule = text "binary_search" ↔ s.binarySearch = true) := by
  simp only [classify, rules, List.find?_cons, Signals.growth, Signals.spaceLabel]
  cases hsearch : s.binarySearch with
  | true =>
      have hholds : (!s.isRecursive && s.hasMidpoint && s.hasWhile) = true := hsearch
      rw [hholds]
      exact ⟨_, rfl, iff_of_true rfl rfl⟩
  | false =>
      have hholds : (!s.isRecursive && s.hasMidpoint && s.hasWhile) = false := hsearch
      simp only [hholds, Bool.false_eq_true, if_false, iff_false]
      cases hdivide : s.divideAndConquer && decide (2 ≤ s.branchingFactor) with
      | true => exact ⟨_, rfl, by decide⟩
      | false =>
          cases hlinear : s.isRecursive && decide (s.branchingFactor ≤ 2) &&
              s.maxLoopNesting == 0 with
          | true =>
              -- Without loops the recursion is linear, as it would be further down.
              simp only [Bool.and_eq_true, decide_eq_true_eq, beq_iff_eq] at hlinear
              obtain ⟨⟨hrecursive, hbranching⟩, hdepth⟩ := hlinear
              have hfew : ¬ 3 ≤ s.branchingFactor := by omega
              rw [hrecursive, hdepth, decide_eq_false hfew]
              exact ⟨_, rfl, by decide⟩
          | false =>
              cases hexponential : s.isRecursive && decide (3 ≤ s.branchingFactor) with
              | true => exact ⟨_, rfl, by decide⟩
              | false => exact classify_loops s

theorem Signals.spaceLabel_getD (s : Signals) (g : Growth) :
    s.spaceLabel.getD g.label = (if s.binarySearch then Growth.constant else g).label := by
  rw [spaceLabel]
  split <;> rfl

/-- The rule that decides for a masked text. -/
def decidingRule (masked : Text) : Except NoCatchAll Text :=
  (classify rules (detect masked)).map Verdict.rule

theorem decidingRule_eq_iff (masked : Text) :
    decidingRule masked = .ok (text "binary_search") ↔ (detect masked).binarySearch = true := by
  obtain ⟨rule, hclassify, hrule⟩ := classify_rules (detect masked)
  rw [decidingRule, hclassify, ← hrule]
  exact ⟨Except.ok.inj, congrArg _⟩

/-! ### Depth and growth -/

theorem loopGrowth_mono (recursive : Bool) {depth depth' : Int} (h : depth ≤ depth') :
    loopGrowth recursive depth ≤ loopGrowth recursive depth' := by
  rw [loopGrowth, loopGrowth]
  split_ifs <;> first | decide | omega

theorem linear_le_loopGrowth (recursive : Bool) {depth : Int} (h : 1 ≤ depth) :
    .linear ≤ loopGrowth recursive depth := by
  rw [loopGrowth]
  split_ifs <;> first | decide | omega

/-- **A greater depth never leads to a lesser growth.** -/
theorem Signals.growth_mono (s : Signals) {depth : Int} (h : s.maxLoopNesting ≤ depth) :
    s.growth ≤ { s with maxLoopNesting := depth }.growth := by
  show s.growth ≤
    if s.binarySearch then .logarithmic
    else if s.divideAndConquer && decide (2 ≤ s.branchingFactor) then .linearithmic
    else if s.isRecursive && decide (3 ≤ s.branchingFactor) then .exponential
    else loopGrowth s.isRecursive depth
  rw [growth]
  split
  · decide
  · split
    · decide
    · split
      · decide
      · exact loopGrowth_mono s.isRecursive h

/-- With a loop the growth is linear at least, unless a binary search is seen. -/
theorem Signals.linear_le_growth {s : Signals} (hsearch : s.binarySearch = false)
    (h : 1 ≤ s.maxLoopNesting) : .linear ≤ s.growth := by
  rw [growth, hsearch, if_neg Bool.false_ne_true]
  split
  · decide
  · split
    · decide
    · exact linear_le_loopGrowth s.isRecursive h

end Braced

end BigO
