import BigO.Proofs.Text.Part
import BigO.Settings

/-! What the settings describe. A list of entries is empty exactly when its text has nothing but
commas and blanks. -/

namespace BigO.Settings

theorem entries_eq_nil_iff {list : Text} :
    entries list = [] ↔ ∀ c ∈ list, c = CodePoint.ofChar ',' ∨ c.isBlank = true := by
  rw [entries, List.filter_eq_nil_iff, List.forall_mem_map, ← Text.forall_mem_splitOn]
  simp [Text.strip_eq_nil_iff]

/-- A rail without models is one of commas and blanks. -/
theorem rail_eq_nil_iff {s : Settings} :
    s.rail = [] ↔ ∀ c ∈ s.models, c = CodePoint.ofChar ',' ∨ c.isBlank = true :=
  entries_eq_nil_iff

theorem aiEnabled_iff {s : Settings} :
    s.aiEnabled = true ↔ ∃ key, s.apiKey = some key ∧ key ≠ [] := by
  rw [aiEnabled]
  cases s.apiKey <;> simp

end BigO.Settings
