import BigO.Proofs.Nesting
import BigO.Proofs.Analysis.Verdict

/-! Loops are decisions. The depth of loops and the number of decisions are found by scans of their
own, yet the depth is less than the number of decisions plus one in every text, and so an order of
growth that is answered for loops comes with at least as many decisions. -/

namespace BigO

/-- The least number of decisions in code with an order of growth. -/
def Growth.leastDecisions : Growth → Nat
  | .logarithmic => 1
  | .quadratic => 2
  | .cubic => 3
  | _ => 0

/-- The rule answers with an order of growth for which there are decisions enough. -/
def Rule.HasDecisions {σ : Type} (rule : Rule σ) (cyclomatic : Nat) : Prop :=
  ∃ g : Growth, rule.time = g.label ∧ g.leastDecisions < cyclomatic

/-- The rules that answer for loops ask for a depth of loops, and the one that answers for a binary
search asks for a loop keyword. -/
theorem Braced.hasDecisions (masked : Text) :
    ∀ rule ∈ rules, rule.holds (detect masked) = true →
      rule.HasDecisions (cyclomatic masked) := by
  have hnesting := maxLoopNesting_lt_cyclomatic masked
  have hpos : 0 < cyclomatic masked := Nat.lt_of_le_of_lt (Nat.zero_le _) hnesting
  simp only [rules, List.forall_mem_cons, List.not_mem_nil, false_implies, implies_true, and_true,
    Bool.and_eq_true, decide_eq_true_eq, beq_iff_eq]
  refine ⟨fun h => ⟨.logarithmic, rfl, one_lt_cyclomatic_of_hasWhile h.2⟩,
    fun _ => ⟨.linearithmic, rfl, hpos⟩, fun _ => ⟨.linear, rfl, hpos⟩,
    fun _ => ⟨.exponential, rfl, hpos⟩, fun h => ⟨.cubic, rfl, ?_⟩, fun h => ⟨.quadratic, rfl, ?_⟩,
    fun _ => ⟨.linear, rfl, hpos⟩, fun _ => ⟨.linear, rfl, hpos⟩, fun _ => ⟨.constant, rfl, hpos⟩⟩
  · change (3 : Int) ≤ maxLoopNesting masked at h
    change 3 < cyclomatic masked
    omega
  · change (maxLoopNesting masked : Int) = 2 at h
    change 2 < cyclomatic masked
    omega

theorem Indented.hasDecisions (code : Text) :
    ∀ rule ∈ rules, rule.holds (detect code) = true → rule.HasDecisions (cyclomatic code) := by
  have hnesting := maxLoopNesting_lt_cyclomatic code
  have hpos : 0 < cyclomatic code := Nat.lt_of_le_of_lt (Nat.zero_le _) hnesting
  simp only [rules, List.forall_mem_cons, List.not_mem_nil, false_implies, implies_true, and_true,
    decide_eq_true_eq, beq_iff_eq]
  refine ⟨fun h => ⟨.logarithmic, rfl, ?_⟩, fun h => ⟨.cubic, rfl, ?_⟩,
    fun h => ⟨.quadratic, rfl, ?_⟩, fun _ => ⟨.linear, rfl, hpos⟩, fun _ => ⟨.linear, rfl, hpos⟩,
    fun _ => ⟨.constant, rfl, hpos⟩⟩
  · exact one_lt_cyclomatic_of_while (Bool.and_eq_true_iff.mp h).2
  · change (3 : Int) ≤ maxLoopNesting code at h
    change 3 < cyclomatic code
    omega
  · change (maxLoopNesting code : Int) = 2 at h
    change 2 < cyclomatic code
    omega

/-- Labels tell orders of growth apart, so the rule that decided is known by its order. -/
theorem leastDecisions_lt_of_conclude {σ : Type} {rules : List (Rule σ)} {s : σ} {space : Growth}
    {cyclomatic totalLines weight : Nat} {e : Estimate} {g : Growth}
    (hrules : ∀ rule ∈ rules, rule.holds s = true → rule.HasDecisions cyclomatic)
    (h : conclude (classify rules s) space cyclomatic totalLines weight = .ok e)
    (htime : e.time = g.label) : (g.leastDecisions : Int) < e.cyclomatic := by
  obtain ⟨v, hclassify, hv, -, hcyclomatic⟩ := conclude_eq_ok h
  obtain ⟨rule, hmem, hholds, rfl⟩ := exists_rule_of_classify hclassify
  obtain ⟨g', hg', hdecisions⟩ := hrules rule hmem hholds
  simp only [hg', Growth.normalize_label] at hv
  obtain rfl := Growth.label_injective (htime.symm.trans hv)
  rw [hcyclomatic]
  exact_mod_cast hdecisions

theorem leastDecisions_lt_of_analyze {code : Text} {layout : Layout} {e : Estimate} {g : Growth}
    (h : analyze? code layout = .ok e) (htime : e.time = g.label) :
    (g.leastDecisions : Int) < e.cyclomatic := by
  cases layout with
  | braced => exact leastDecisions_lt_of_conclude (Braced.hasDecisions _) h htime
  | indented => exact leastDecisions_lt_of_conclude (Indented.hasDecisions _) h htime

/-- The baseline is of constant growth, which asks for no decision. -/
theorem leastDecisions_lt (code : Text) (language : Json) {g : Growth}
    (htime : (analyzeValue (.str code) language).time = g.label) :
    (g.leastDecisions : Int) < (analyzeValue (.str code) language).cyclomatic := by
  rcases analyzeValue_eq code language with ⟨e, hanalyze, he⟩ | hbaseline
  · rw [he] at htime ⊢
    exact leastDecisions_lt_of_analyze hanalyze htime
  · rw [hbaseline] at htime ⊢
    obtain rfl : Growth.constant = g := Growth.label_injective htime
    decide

/-- **Loops are decisions**: in both readings the depth of loops is at most the number of decisions,
and an estimate that is answered for loops has as many decisions as its order of growth asks for. -/
theorem loops_are_decisions :
    (∀ masked, (Braced.maxLoopNesting masked : Int) ≤ Braced.cyclomatic masked - 1) ∧
    (∀ code, (Indented.maxLoopNesting code : Int) ≤ Indented.cyclomatic code - 1) ∧
    ∀ (code : Text) (language : Json),
      let e := analyzeValue (.str code) language
      (e.time = Growth.quadratic.label → 3 ≤ e.cyclomatic) ∧
      (e.time = Growth.cubic.label → 4 ≤ e.cyclomatic) ∧
      (e.time = Growth.logarithmic.label → 2 ≤ e.cyclomatic) := by
  refine ⟨fun masked => ?_, fun code => ?_, fun code language => ⟨?_, ?_, ?_⟩⟩
  · have hnesting := Braced.maxLoopNesting_lt_cyclomatic masked
    omega
  · have hnesting := Indented.maxLoopNesting_lt_cyclomatic code
    omega
  · exact leastDecisions_lt code language (g := .quadratic)
  · exact leastDecisions_lt code language (g := .cubic)
  · exact leastDecisions_lt code language (g := .logarithmic)

/-- Two loops in one another and no other decision have no more decisions than they need. -/
theorem loops_are_decisions_nested :
    let e := analyzeValue (.str (text "for (;;) \x7b\n  while (1) \x7b")) .null
    e.time = Growth.quadratic.label ∧ e.cyclomatic = 3 ∧ 3 ≤ e.cyclomatic := by
  refine ⟨by decide +kernel, by decide +kernel, ?_⟩
  exact (loops_are_decisions.2.2 _ .null).1 (by decide +kernel)

end BigO
