import BigO.Proofs.Analysis.Total

/-! How an estimate comes about: from the rule that decides, the estimated space and the counts. -/

namespace BigO

/-- The verdict of a decision list is that of a rule in it that holds. -/
theorem exists_rule_of_classify {σ : Type} {rules : List (Rule σ)} {s : σ} {v : Verdict}
    (h : classify rules s = .ok v) :
    ∃ rule ∈ rules, rule.holds s = true ∧ v = ⟨rule.name, rule.time, rule.space⟩ := by
  rw [classify] at h
  cases hfind : rules.find? (·.holds s) with
  | none =>
      rw [hfind] at h
      cases h
  | some rule =>
      have hholds := List.find?_some hfind
      rw [hfind] at h
      cases h
      exact ⟨rule, List.mem_of_find?_eq_some hfind, hholds, rfl⟩

/-- An estimate carries the labels of its verdict and the number of decisions. -/
theorem conclude_eq_ok {verdict : Except NoCatchAll Verdict} {space : Growth}
    {cyclomatic totalLines weight : Nat} {e : Estimate}
    (h : conclude verdict space cyclomatic totalLines weight = .ok e) :
    ∃ v, verdict = .ok v ∧ e.time = Label.normalize v.time ∧
      e.space = Label.normalize (v.space.getD space.label) ∧ e.cyclomatic = cyclomatic := by
  cases verdict with
  | error cause => cases h
  | ok v =>
      simp only [conclude, Except.mapError, bind, Except.bind] at h
      cases hscore : Score.maintainability cyclomatic totalLines weight with
      | error cause =>
          rw [hscore] at h
          cases h
      | ok score =>
          rw [hscore] at h
          simp only at h
          split at h
          · cases h
            exact ⟨v, rfl, rfl, rfl, rfl⟩
          · cases h

/-- Where the analysis gives no estimate, the baseline is answered. -/
theorem analyzeValue_eq (code : Text) (language : Json) :
    (∃ e, analyze? code (.ofTag (tagOf language)) = .ok e ∧
        analyzeValue (.str code) language = e) ∨
      analyzeValue (.str code) language = .baseline := by
  simp only [analyzeValue, analyze]
  cases analyze? code (.ofTag (tagOf language)) with
  | ok e => exact Or.inl ⟨e, rfl, rfl⟩
  | error cause => exact Or.inr rfl

end BigO
