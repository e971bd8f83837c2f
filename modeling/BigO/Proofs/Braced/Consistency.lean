import BigO.Proofs.Analysis.Verdict
import BigO.Proofs.Braced.Rules
import BigO.Proofs.Text.Word

/-! Estimates for braced code agree with what the detectors found. Which rule decides depends on all
rules before it and on the signals that a text can have at all: the depth of loops is no negative
number. With such signals the rule for recursion that no earlier rule has taken never decides. -/

namespace BigO

theorem classify_cons {σ : Type} (rule : Rule σ) (rules : List (Rule σ)) (s : σ) :
    classify (rule :: rules) s =
      if rule.holds s then .ok ⟨rule.name, rule.time, rule.space⟩ else classify rules s := by
  rw [classify, List.find?_cons]
  cases rule.holds s with
  | true => rfl
  | false => rfl

/-- Rules of a name that does not decide may be left out. -/
theorem classify_filter_name_ne {σ : Type} {rules : List (Rule σ)} {s : σ} {v : Verdict}
    {name : Text} (h : classify rules s = .ok v) (hname : v.rule ≠ name) :
    classify (rules.filter fun rule => rule.name ≠ name) s = .ok v := by
  induction rules with
  | nil => cases h
  | cons rule rules ih =>
      rw [classify_cons] at h
      by_cases hholds : rule.holds s = true
      · rw [if_pos hholds] at h
        cases h
        rw [List.filter_cons_of_pos (by simpa using hname), classify_cons, if_pos hholds]
      · rw [if_neg hholds] at h
        by_cases hkept : rule.name ≠ name
        · rw [List.filter_cons_of_pos (by simpa using hkept), classify_cons, if_neg hholds]
          exact ih h
        · rw [List.filter_cons_of_neg (by simpa using hkept)]
          exact ih h

namespace Braced

open Source

/-- Recursive code is taken by a rule for recursion or one for loops before the last rule that looks
for it. -/
theorem rule_ne_recursion {s : Signals} (hnesting : 0 ≤ s.maxLoopNesting) {v : Verdict}
    (h : classify rules s = .ok v) : v.rule ≠ text "recursion" := by
  simp only [rules, classify_cons] at h
  split_ifs at h with hsearch hdivide hlinear hexponential hthree htwo hone hrecursive
  -- The eighth rule is the one for recursion. Recursive code that comes to it has at most two calls on
  -- a line, and no depth of loops is left but a negative one.
  pick_goal 8
  · simp only [hrecursive, Bool.true_and, Bool.and_eq_true, decide_eq_true_eq, beq_iff_eq]
      at hlinear hexponential hthree htwo hone
    omega
  all_goals
    cases h
    decide

/-! ### Growth and signals -/

variable {s : Signals}

theorem Signals.binarySearch_of_growth_eq (h : s.growth = .logarithmic) :
    s.binarySearch = true := by
  rw [growth, loopGrowth] at h
  split_ifs at h with hsearch
  exact hsearch

theorem Signals.isRecursive_of_growth_eq (h : s.growth = .linearithmic ∨ s.growth = .exponential) :
    s.isRecursive = true := by
  rw [growth, loopGrowth] at h
  split_ifs at h with hsearch hdivide hexponential
  all_goals simp_all [divideAndConquer]

theorem Signals.isRecursive_eq_false_of_growth_eq (h : s.growth = .constant) :
    s.isRecursive = false := by
  rw [growth, loopGrowth] at h
  split_ifs at h with _ _ _ _ _ _ hrecursive
  exact Bool.eq_false_iff.mpr hrecursive

/-- A binary search is seen only without recursion and with a `while`. -/
theorem Signals.binarySearch_iff :
    s.binarySearch = true ↔
      s.isRecursive = false ∧ s.hasMidpoint = true ∧ s.hasWhile = true := by
  rw [binarySearch, Bool.and_eq_true, Bool.and_eq_true, Bool.not_eq_true', and_assoc]

/-- The labels of an estimate in terms of the signals. -/
theorem labels_of_analyze {code : Text} {e : Estimate} (h : analyze code = .ok e) :
    let s := detect (maskLiterals code)
    e.time = s.growth.label ∧
      e.space = (if s.binarySearch then Growth.constant
        else estimateSpace (maskLiterals code) s.isRecursive).label := by
  intro s
  obtain ⟨v, hclassify, htime, hspace, -⟩ := conclude_eq_ok h
  obtain ⟨rule, hrule, -⟩ := classify_rules s
  obtain rfl := Except.ok.inj (hrule.symm.trans hclassify)
  rw [Signals.spaceLabel_getD, Growth.normalize_label] at hspace
  rw [Growth.normalize_label] at htime
  exact ⟨htime, hspace⟩

/-- **Estimates are consistent** with the signals of the text and in themselves, and the rule for
recursion could be missing from the list. -/
theorem estimates_consistent (code : Text) :
    let masked := maskLiterals code
    (code.length < 2 ^ 1000 → ∃ e, analyze code = .ok e) ∧
    (∀ e, analyze code = .ok e →
      (e.time = Growth.logarithmic.label →
        e.space = Growth.constant.label ∧ isRecursive masked = false ∧
          masked.HasWord (text "while")) ∧
      (e.time = Growth.linearithmic.label ∨ e.time = Growth.exponential.label →
        isRecursive masked = true ∧ e.space = Growth.linear.label) ∧
      (e.time = Growth.constant.label → isRecursive masked = false) ∧
      (isRecursive masked = true → e.space = Growth.linear.label)) ∧
    (∃ v, classify rules (detect masked) = .ok v ∧ v.rule ≠ text "recursion") ∧
    conclude (classify (rules.filter fun rule => rule.name ≠ text "recursion") (detect masked))
      (estimateSpace masked (detect masked).isRecursive) (cyclomatic masked) code.countLines
      decisionWeight = analyze code := by
  intro masked
  obtain ⟨rule, hclassify, -⟩ := classify_rules (detect masked)
  have hdead := rule_ne_recursion (Int.natCast_nonneg (maxLoopNesting masked)) hclassify
  have hlinear : ∀ e, analyze code = .ok e → isRecursive masked = true →
      e.space = Growth.linear.label := by
    intro e he hrecursive
    obtain ⟨-, hspace⟩ := labels_of_analyze he
    have hsearch : (detect masked).binarySearch = false := by
      rw [Bool.eq_false_iff, ne_eq, Signals.binarySearch_iff, detect, hrecursive]
      rintro ⟨hnot, -⟩
      cases hnot
    have hdetect : (detect masked).isRecursive = true := hrecursive
    rwa [hsearch, hdetect] at hspace
  refine ⟨fun hlength => ?_, fun e he => ?_, ⟨_, hclassify, hdead⟩, ?_⟩
  · obtain ⟨e, he, -⟩ := analyze_regular hlength
    exact ⟨e, he⟩
  · obtain ⟨htime, hspace⟩ := labels_of_analyze he
    refine ⟨fun h => ?_, fun h => ?_, fun h => ?_, hlinear e he⟩
    · have hsearch := Signals.binarySearch_of_growth_eq
        (Growth.label_injective (htime.symm.trans h))
      rw [if_pos hsearch] at hspace
      obtain ⟨hrecursive, -, hwhile⟩ := Signals.binarySearch_iff.mp hsearch
      exact ⟨hspace, hrecursive, Pattern.hasWord_of_occursIn hwhile⟩
    · have hrecursive : isRecursive masked = true := Signals.isRecursive_of_growth_eq <|
        h.imp (fun h => Growth.label_injective (htime.symm.trans h))
          fun h => Growth.label_injective (htime.symm.trans h)
      exact ⟨hrecursive, hlinear e he hrecursive⟩
    · exact Signals.isRecursive_eq_false_of_growth_eq
        (Growth.label_injective (htime.symm.trans h))
  · rw [classify_filter_name_ne hclassify hdead, ← hclassify]
    rfl

/-- A merge sort that declares its halves: recursive, with a middle and two calls on a line. -/
theorem estimates_consistent_at_halves :
    let code := text "function f(a) \x7b\n  let mid = a >> 1;\n  return f(mid) + f(a - mid);\n\x7d"
    code.length < 2 ^ 1000 ∧
      ∃ e, analyze code = .ok e ∧ e.time = Growth.linearithmic.label ∧
        isRecursive (maskLiterals code) = true ∧ e.space = Growth.linear.label := by
  intro code
  have hlength : code.length < 2 ^ 1000 := by decide +kernel
  obtain ⟨hsome, hall, -⟩ := estimates_consistent code
  obtain ⟨e, he⟩ := hsome hlength
  have htime : e.time = Growth.linearithmic.label := by
    rw [(labels_of_analyze he).1]
    decide +kernel
  obtain ⟨hrecursive, hspace⟩ := (hall e he).2.1 (Or.inl htime)
  exact ⟨hlength, e, he, htime, hrecursive, hspace⟩

end Braced

end BigO
