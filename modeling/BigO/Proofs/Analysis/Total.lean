import BigO.Proofs.Score
import BigO.Proofs.Source.Literal
import BigO.Proofs.Source.LineComment
import BigO.Analysis

/-! No analysis fails, so the baseline is never an answer to a source text. Each decision list ends
in a rule that always holds, its labels are normal forms already, and a source of fewer than
`2^1000` code points has too few decisions and lines for the score to leave the range of binary64.
-/

namespace BigO

open Source

/-! ### Labels and rules -/

theorem Growth.find?_label (g : Growth) :
    Growth.all.find? (fun g' => g'.label = g.label) = some g := by
  cases g <;> decide +kernel

theorem Growth.label_injective : Function.Injective Growth.label := by
  intro g g' h
  have hfind := g.find?_label
  rw [h, g'.find?_label] at hfind
  exact (Option.some.inj hfind).symm

theorem Growth.label_mem_vocabulary (g : Growth) : g.label ∈ Growth.vocabulary := by
  refine List.mem_map_of_mem ?_
  cases g <;> decide

/-- Labels are answered as they stand in the vocabulary. -/
theorem Growth.normalize_label (g : Growth) : Label.normalize g.label = g.label := by
  cases g <;> decide +kernel

/-- The rule answers with orders of growth: any but the factorial for time, constant or linear for
space. -/
def Rule.Labelled {σ : Type} (rule : Rule σ) : Prop :=
  (∃ g ∈ Growth.all, g ≠ .factorial ∧ rule.time = g.label) ∧
    ∀ space ∈ rule.space, space = Growth.constant.label ∨ space = Growth.linear.label

instance {σ : Type} (rule : Rule σ) : Decidable rule.Labelled :=
  inferInstanceAs (Decidable (_ ∧ _))

/-- All rules of the list answer with orders of growth, and one of them holds whatever the signals.
-/
structure IsComplete {σ : Type} (rules : List (Rule σ)) : Prop where
  labelled : ∀ rule ∈ rules, rule.Labelled
  catchAll : ∃ rule ∈ rules, ∀ s, rule.holds s = true

theorem Braced.rules_isComplete : IsComplete Braced.rules :=
  ⟨by decide +kernel, _, List.mem_of_getLast? rfl, fun _ => rfl⟩

theorem Indented.rules_isComplete : IsComplete Indented.rules :=
  ⟨by decide +kernel, _, List.mem_of_getLast? rfl, fun _ => rfl⟩

/-- A complete list has a verdict for all signals. -/
theorem IsComplete.classify_eq {σ : Type} {rules : List (Rule σ)} (hrules : IsComplete rules)
    (s : σ) :
    ∃ rule ∈ rules, classify rules s =
      .ok { rule := rule.name, time := rule.time, space := rule.space } := by
  obtain ⟨last, hmem, hlast⟩ := hrules.catchAll
  rw [classify]
  cases hfind : rules.find? (·.holds s) with
  | none =>
      rw [List.find?_eq_none] at hfind
      exact absurd (hlast s) (hfind last hmem)
  | some rule => exact ⟨rule, List.mem_of_find?_eq_some hfind, rfl⟩

/-! ### Conclusions -/

/-- What every analysis that does not fail keeps to, where a decision costs `weight`. -/
structure Estimate.Regular (e : Estimate) (weight : Nat) : Prop where
  inRange : e.InRange
  time_mem : e.time ∈ Growth.vocabulary
  time_ne : e.time ≠ Growth.factorial.label
  space_eq : e.space = Growth.constant.label ∨ e.space = Growth.linear.label
  maintainability_le : e.maintainability ≤ 100 - weight

/-- The space label of a rule goes before the estimated one; either is constant or linear. -/
theorem Rule.Labelled.space_eq {σ : Type} {rule : Rule σ} (hrule : rule.Labelled) {space : Growth}
    (hspace : space = .constant ∨ space = .linear) :
    ∃ g : Growth, (g = .constant ∨ g = .linear) ∧ rule.space.getD space.label = g.label := by
  cases hsome : rule.space with
  | none => exact ⟨space, hspace, rfl⟩
  | some label =>
      rcases hrule.2 label hsome with h | h
      · exact ⟨.constant, Or.inl rfl, h⟩
      · exact ⟨.linear, Or.inr rfl, h⟩

/-- Counts of at least one decision and one line leave a score within its limits. -/
theorem score_bounds {penalty weight totalLines : Nat} (hpenalty : weight ≤ penalty)
    (hlines : 1 ≤ totalLines) (hweight : weight ≤ 100) :
    0 ≤ max 0 (min 100 ((201 - 2 * (penalty : Int) - totalLines) / 2)) ∧
      max 0 (min 100 ((201 - 2 * (penalty : Int) - totalLines) / 2)) ≤ 100 - weight := by
  omega

/-- The estimate that follows from labels in the vocabulary and counts that are not too large. -/
theorem conclude_eq {verdict : Verdict} {time space label : Growth}
    {cyclomatic totalLines weight : Nat} (htime : verdict.time = time.label)
    (hspace : verdict.space.getD label.label = space.label) (hcyclomatic : 1 ≤ cyclomatic)
    (hlines : 1 ≤ totalLines) (hweight : weight ≤ 100) (hpenalty : cyclomatic * weight < 2 ^ 1022)
    (hlines' : totalLines < 2 ^ 1022) :
    conclude (.ok verdict) label cyclomatic totalLines weight =
      .ok { time := time.label, space := space.label
            maintainability :=
              max 0 (min 100 ((201 - 2 * ((cyclomatic * weight : Nat) : Int) - totalLines) / 2))
            cyclomatic } := by
  have hscore := Score.maintainability_natCast hpenalty hlines'
  have hbounds := score_bounds (Nat.le_mul_of_pos_left weight hcyclomatic) hlines hweight
  generalize max 0 (min 100 ((201 - 2 * ((cyclomatic * weight : Nat) : Int) - totalLines) / 2)) =
    score at hscore hbounds ⊢
  have hrange : 0 ≤ score ∧ score ≤ 100 ∧ 1 ≤ (cyclomatic : Int) := by omega
  simp only [conclude, hscore, Except.mapError, bind, Except.bind, htime, hspace,
    Growth.normalize_label]
  exact if_pos hrange

/-- The verdict of a complete list and counts that are not too large lead to a regular estimate. -/
theorem conclude_regular {σ : Type} {rules : List (Rule σ)} {space : Growth}
    {cyclomatic totalLines weight : Nat} (hrules : IsComplete rules) (s : σ)
    (hspace : space = .constant ∨ space = .linear) (hcyclomatic : 1 ≤ cyclomatic)
    (hlines : 1 ≤ totalLines) (hweight : weight ≤ 100) (hpenalty : cyclomatic * weight < 2 ^ 1022)
    (hlines' : totalLines < 2 ^ 1022) :
    ∃ e, conclude (classify rules s) space cyclomatic totalLines weight = .ok e ∧
      e.Regular weight := by
  obtain ⟨rule, hrule, hclassify⟩ := hrules.classify_eq s
  obtain ⟨g, -, hg, htime⟩ := (hrules.labelled rule hrule).1
  obtain ⟨g', hg', hspaceLabel⟩ := (hrules.labelled rule hrule).space_eq hspace
  have hbounds := score_bounds (Nat.le_mul_of_pos_left weight hcyclomatic) hlines hweight
  rw [hclassify]
  refine ⟨_, conclude_eq htime hspaceLabel hcyclomatic hlines hweight hpenalty hlines', ?_⟩
  refine ⟨⟨hbounds.1, by simp only; omega, by simp only; omega⟩, g.label_mem_vocabulary,
    fun h => hg (Growth.label_injective h), ?_, hbounds.2⟩
  rcases hg' with rfl | rfl
  · exact Or.inl rfl
  · exact Or.inr rfl

/-! ### Counts -/

theorem Text.countLines_le (t : Text) : t.countLines ≤ t.length + 1 :=
  Nat.succ_le_succ List.count_le_length

/-- Texts of fewer than `2^1000` code points have counts that the score can take. -/
theorem counts_lt {length decisions lines : Nat} (weight : Nat) (hweight : weight ≤ 100)
    (hlength : length < 2 ^ 1000) (hdecisions : decisions ≤ length) (hlines : lines ≤ length + 1) :
    (1 + decisions) * weight < 2 ^ 1022 ∧ lines < 2 ^ 1022 := by
  have hexponent : 1022 = 1000 + 22 := rfl
  rw [hexponent, pow_add]
  generalize 2 ^ 1000 = size at hlength ⊢
  have hproduct : (1 + decisions) * weight ≤ size * 100 :=
    Nat.mul_le_mul (by omega) hweight
  constructor <;> omega

theorem Braced.analyze_regular {code : Text} (hlength : code.length < 2 ^ 1000) :
    ∃ e, Braced.analyze code = .ok e ∧ e.Regular Braced.decisionWeight := by
  have hdecisions : (Braced.decisionPoint.tokens (maskLiterals code)).length ≤ code.length :=
    (Pattern.length_tokens_le _ _).trans (length_maskLiterals_le code)
  obtain ⟨hpenalty, hlines⟩ := counts_lt Braced.decisionWeight (by decide) hlength hdecisions
    (Text.countLines_le code)
  refine conclude_regular Braced.rules_isComplete _ ?_ (Nat.le_add_right 1 _) (Nat.le_add_left 1 _)
    (by decide) hpenalty hlines
  rw [Braced.estimateSpace]
  split
  · exact Or.inr rfl
  · exact Or.inl rfl

theorem Indented.analyze_regular {code : Text} (hlength : code.length < 2 ^ 1000) :
    ∃ e, Indented.analyze code = .ok e ∧ e.Regular Indented.decisionWeight := by
  obtain ⟨hpenalty, hlines⟩ := counts_lt Indented.decisionWeight (by decide) hlength
    (Pattern.length_tokens_le Indented.decisionPoint code) (Text.countLines_le code)
  refine conclude_regular Indented.rules_isComplete _ ?_ (Nat.le_add_right 1 _)
    (Nat.le_add_left 1 _) (by decide) hpenalty hlines
  rw [Indented.estimateSpace]
  split
  · exact Or.inr rfl
  · exact Or.inl rfl

/-- What a decision costs in a layout. -/
def Layout.decisionWeight : Layout → Nat
  | .braced => Braced.decisionWeight
  | .indented => Indented.decisionWeight

end BigO
