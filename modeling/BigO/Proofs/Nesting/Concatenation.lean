import BigO.Proofs.Braced.Loop

/-! The depth of loops in two texts one below the other. What the first text leaves of its depth
leaks into the second, so the second is scanned once from the start and once from where the first
ended. The two scans keep their distance: through every line the one that began deeper stays at
least as deep, by no more than at the start, whatever is clamped at zero or reset on the way. -/

namespace BigO

namespace DepthScan

variable {σ : Type} (scan : DepthScan σ)

/-- The second state is nowhere less deep than the first, and by at most `k` deeper. -/
structure Leads (k : Nat) (s s' : σ) : Prop where
  depth_le : scan.depth s ≤ scan.depth s'
  depth_le_add : scan.depth s' ≤ scan.depth s + k
  deepest_le : scan.deepest s ≤ scan.deepest s'
  deepest_le_add : scan.deepest s' ≤ scan.deepest s + k

/-- No line brings two scans closer together or further apart than they may be, and the greatest
depth met is kept. -/
structure KeepsDistance : Prop where
  leads_step {k : Nat} {s s' : σ} (l : Text) :
    scan.Leads k s s' → scan.Leads k (scan.step s l) (scan.step s' l)
  deepest_le_step (s : σ) (l : Text) : scan.deepest s ≤ scan.deepest (scan.step s l)
  depth_le_deepest_step {s : σ} (l : Text) :
    scan.depth s ≤ scan.deepest s → scan.depth (scan.step s l) ≤ scan.deepest (scan.step s l)

namespace KeepsDistance

variable {scan} (h : scan.KeepsDistance)
include h

theorem leads_foldl {k : Nat} {s s' : σ} (hs : scan.Leads k s s') (ls : List Text) :
    scan.Leads k (ls.foldl scan.step s) (ls.foldl scan.step s') := by
  induction ls generalizing s s' with
  | nil => exact hs
  | cons l ls ih => exact ih (h.leads_step l hs)

theorem deepest_le_foldl (s : σ) (ls : List Text) :
    scan.deepest s ≤ scan.deepest (ls.foldl scan.step s) := by
  induction ls generalizing s with
  | nil => exact Nat.le_refl _
  | cons l ls ih => exact (h.deepest_le_step s l).trans (ih _)

theorem depth_le_deepest_foldl {s : σ} (hs : scan.depth s ≤ scan.deepest s) (ls : List Text) :
    scan.depth (ls.foldl scan.step s) ≤ scan.deepest (ls.foldl scan.step s) := by
  induction ls generalizing s with
  | nil => exact hs
  | cons l ls ih => exact ih (h.depth_le_deepest_step l hs)

/-- A run over some lines leads the start by no more than those lines are deep. -/
theorem leads_of_run (start : σ) (hdepth : scan.depth start = 0)
    (hdeepest : scan.deepest start = 0) (ls : List Text) :
    scan.Leads (scan.deepest (ls.foldl scan.step start)) start (ls.foldl scan.step start) where
  depth_le := by
    rw [hdepth]
    exact Nat.zero_le _
  depth_le_add := by
    rw [hdepth, Nat.zero_add]
    exact h.depth_le_deepest_foldl (hdepth.le.trans (Nat.zero_le _)) ls
  deepest_le := by
    rw [hdeepest]
    exact Nat.zero_le _
  deepest_le_add := by rw [hdeepest, Nat.zero_add]

theorem deepest_foldl_append (start : σ) (hdepth : scan.depth start = 0)
    (hdeepest : scan.deepest start = 0) (ls ls' : List Text) :
    max (scan.deepest (ls.foldl scan.step start)) (scan.deepest (ls'.foldl scan.step start)) ≤
        scan.deepest ((ls ++ ls').foldl scan.step start) ∧
      scan.deepest ((ls ++ ls').foldl scan.step start) ≤
        scan.deepest (ls.foldl scan.step start) + scan.deepest (ls'.foldl scan.step start) := by
  have hrun := h.leads_foldl (h.leads_of_run start hdepth hdeepest ls) ls'
  have hfirst := h.deepest_le_foldl (ls.foldl scan.step start) ls'
  rw [List.foldl_append]
  refine ⟨Nat.max_le.mpr ⟨hfirst, hrun.deepest_le⟩, ?_⟩
  rw [Nat.add_comm]
  exact hrun.deepest_le_add

end KeepsDistance

end DepthScan

namespace Braced

/-- Closing braces take both depths down alike, until the lesser one is at zero. -/
theorem keepsDistance_depthScan : depthScan.KeepsDistance where
  leads_step {k n m} l h := by
    obtain ⟨hdepth, hdepth', hdeepest, hdeepest'⟩ := h
    simp only [depthScan] at hdepth hdepth' hdeepest hdeepest'
    cases hopens : opensLoop l with
    | true =>
        constructor <;>
          simp only [depthScan, n.line_of_opens hopens, m.line_of_opens hopens] <;> omega
    | false =>
        constructor <;>
          simp only [depthScan, n.line_of_not_opens hopens, m.line_of_not_opens hopens] <;> omega
  deepest_le_step := Nesting.deepest_le_line
  depth_le_deepest_step {n} l h := by
    simp only [depthScan] at h ⊢
    cases hopens : opensLoop l with
    | true =>
        rw [n.line_of_opens hopens]
        exact (Nat.sub_le _ _).trans (Nat.le_max_right _ _)
    | false =>
        rw [n.line_of_not_opens hopens]
        exact (Nat.sub_le _ _).trans h

end Braced

namespace Indented

/-- The depth at which a line stands: none if it closes all loops. -/
def Nesting.startOf (n : Nesting) (line : Text) : Nat := if closesLoops line then 0 else n.depth

theorem Nesting.line_of_blank (n : Nesting) {line : Text} (h : line.strip.isEmpty = true) :
    n.line line = n := if_pos h

theorem Nesting.line_of_not_blank (n : Nesting) {line : Text} (h : ¬ line.strip.isEmpty = true) :
    n.line line =
      if opensLoop line then
        { depth := n.startOf line + 1, deepest := max n.deepest (n.startOf line + 1) }
      else { n with depth := n.startOf line } := if_neg h

theorem Nesting.startOf_le (n : Nesting) (line : Text) : n.startOf line ≤ n.depth := by
  rw [startOf]
  split
  · exact Nat.zero_le _
  · exact Nat.le_refl _

theorem Nesting.startOf_leads {n m : Nesting} {k : Nat} (h : n.depth ≤ m.depth)
    (h' : m.depth ≤ n.depth + k) (line : Text) :
    n.startOf line ≤ m.startOf line ∧ m.startOf line ≤ n.startOf line + k := by
  rw [startOf, startOf]
  split
  · exact ⟨Nat.le_refl 0, Nat.zero_le _⟩
  · exact ⟨h, h'⟩

/-- A return to column zero puts both scans at the same depth. -/
theorem keepsDistance_depthScan : depthScan.KeepsDistance where
  leads_step {k n m} l h := by
    by_cases hblank : l.strip.isEmpty = true
    · simpa only [depthScan, n.line_of_blank hblank, m.line_of_blank hblank] using h
    · obtain ⟨hdepth, hdepth', hdeepest, hdeepest'⟩ := h
      simp only [depthScan] at hdepth hdepth' hdeepest hdeepest'
      obtain ⟨hstart, hstart'⟩ := Nesting.startOf_leads hdepth hdepth' l
      constructor <;>
        simp only [depthScan, n.line_of_not_blank hblank, m.line_of_not_blank hblank] <;>
        split <;> simp only <;> omega
  deepest_le_step n l := by
    by_cases hblank : l.strip.isEmpty = true
    · simp only [depthScan, n.line_of_blank hblank, Nat.le_refl]
    · simp only [depthScan, n.line_of_not_blank hblank]
      split
      · exact Nat.le_max_left _ _
      · exact Nat.le_refl _
  depth_le_deepest_step {n} l h := by
    simp only [depthScan] at h ⊢
    by_cases hblank : l.strip.isEmpty = true
    · rwa [n.line_of_blank hblank]
    · rw [n.line_of_not_blank hblank]
      split
      · exact Nat.le_max_right _ _
      · exact (n.startOf_le l).trans h

end Indented

/-- **Loops of two texts one below the other**: they are at least as deep as those of either text
and at most as deep as both together. -/
theorem maxLoopNesting_of_concatenation (a b : Text) :
    (max (Braced.maxLoopNesting a) (Braced.maxLoopNesting b) ≤
        Braced.maxLoopNesting (a ++ CodePoint.ofChar '\n' :: b) ∧
      Braced.maxLoopNesting (a ++ CodePoint.ofChar '\n' :: b) ≤
        Braced.maxLoopNesting a + Braced.maxLoopNesting b) ∧
    (max (Indented.maxLoopNesting a) (Indented.maxLoopNesting b) ≤
        Indented.maxLoopNesting (a ++ CodePoint.ofChar '\n' :: b) ∧
      Indented.maxLoopNesting (a ++ CodePoint.ofChar '\n' :: b) ≤
        Indented.maxLoopNesting a + Indented.maxLoopNesting b) := by
  have hbraced := Braced.keepsDistance_depthScan.deepest_foldl_append {} rfl rfl
    a.lines b.lines
  have hindented := Indented.keepsDistance_depthScan.deepest_foldl_append {} rfl rfl
    a.lines b.lines
  rw [← Text.lines_append_lineFeed] at hbraced hindented
  exact ⟨hbraced, hindented⟩

end BigO
