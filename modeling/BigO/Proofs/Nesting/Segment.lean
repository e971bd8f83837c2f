import Mathlib.Data.List.SplitBy
import BigO.Proofs.Nesting.Concatenation

/-! Loops in indented code, segment by segment. The lines with something on them are cut before each
return to column zero that begins no function. The scan begins every segment without open loops and
closes none inside of it, so it counts the headers of each segment on its own, and the depth that it
tells is the count of the fullest one. -/

namespace BigO.Indented

/-- The lines with something other than blanks on them. -/
def writtenLines (code : Text) : List Text := code.lines.filter fun l => !l.strip.isEmpty

/-- The lines, cut before each of them that closes the loops. -/
def segments (ls : List Text) : List (List Text) := ls.splitBy fun _ l => !closesLoops l

/-- The most headers of loops in one of the segments, none if there is no segment. -/
def fullest (segs : List (List Text)) : Nat := (segs.map (List.countP opensLoop)).max?.getD 0

theorem fullest_cons (s : List Text) (segs : List (List Text)) :
    fullest (s :: segs) = max (s.countP opensLoop) (fullest segs) := by
  rw [fullest, List.map_cons, List.max?_cons, fullest]
  cases (segs.map (List.countP opensLoop)).max? with
  | none => exact (Nat.max_zero _).symm
  | some k => rfl

/-! ### Lines -/

/-- A written line puts its header, if it is one, on top of the depth at which it stands. -/
theorem Nesting.line_eq_of_written {n : Nesting} (hn : n.depth ≤ n.deepest) {l : Text}
    (hl : l.strip ≠ []) :
    n.line l = { depth := n.startOf l + (opensLoop l).toNat
                 deepest := max n.deepest (n.startOf l + (opensLoop l).toNat) } := by
  have hstart : n.startOf l ≤ n.deepest := (n.startOf_le l).trans hn
  rw [n.line_of_not_blank (by rwa [List.isEmpty_iff])]
  cases opensLoop l with
  | true => rfl
  | false =>
      rw [if_neg Bool.false_ne_true, Bool.toNat_false, Nat.add_zero, Nat.max_eq_left hstart]

/-- Blank lines are passed over. -/
theorem foldl_line_writtenLines (code : Text) (n : Nesting) :
    code.lines.foldl Nesting.line n = (writtenLines code).foldl Nesting.line n := by
  rw [writtenLines, List.foldl_filter]
  congr 1
  funext m l
  by_cases hblank : l.strip.isEmpty = true
  · simp [hblank, m.line_of_blank hblank]
  · simp [hblank]

/-! ### Segments -/

theorem countP_opensLoop_cons (l : Text) (ls : List Text) :
    (l :: ls).countP opensLoop = (opensLoop l).toNat + ls.countP opensLoop := by
  rw [List.countP_cons, Nat.add_comm]
  cases opensLoop l <;> rfl

/-- Lines none of which closes the loops add their headers to those above. -/
theorem foldl_line_of_not_closes {ls : List Text} (hwritten : ∀ l ∈ ls, l.strip ≠ [])
    (hopen : ∀ l ∈ ls, closesLoops l = false) {n : Nesting} (hn : n.depth ≤ n.deepest) :
    ls.foldl Nesting.line n =
      { depth := n.depth + ls.countP opensLoop
        deepest := max n.deepest (n.depth + ls.countP opensLoop) } := by
  induction ls generalizing n with
  | nil =>
    rw [List.countP_nil, Nat.add_zero, Nat.max_eq_left hn]
    rfl
  | cons l ls ih =>
    obtain ⟨hl, hls⟩ := List.forall_mem_cons.mp hwritten
    obtain ⟨hstays, hstay⟩ := List.forall_mem_cons.mp hopen
    have hstart : n.startOf l = n.depth := if_neg (by simp [hstays])
    rw [List.foldl_cons, Nesting.line_eq_of_written hn hl, hstart,
      ih hls hstay (Nat.le_max_right _ _), countP_opensLoop_cons]
    simp only [Nesting.mk.injEq]
    omega

/-- A segment is counted on its own, since its first line finds no loop open. -/
theorem foldl_line_segment {l : Text} {ls : List Text} (hwritten : ∀ k ∈ l :: ls, k.strip ≠ [])
    (hopen : ∀ k ∈ ls, closesLoops k = false) {n : Nesting} (hn : n.depth ≤ n.deepest)
    (hstart : n.startOf l = 0) :
    (l :: ls).foldl Nesting.line n =
      { depth := (l :: ls).countP opensLoop
        deepest := max n.deepest ((l :: ls).countP opensLoop) } := by
  obtain ⟨hl, hls⟩ := List.forall_mem_cons.mp hwritten
  rw [List.foldl_cons, Nesting.line_eq_of_written hn hl, hstart,
    foldl_line_of_not_closes hls hopen (Nat.le_max_right _ _), countP_opensLoop_cons]
  simp only [Nesting.mk.injEq]
  omega

theorem not_closes_of_isChain {l : Text} {ls : List Text}
    (h : (l :: ls).IsChain fun _ k => (!closesLoops k) = true) :
    ∀ k ∈ ls, closesLoops k = false := by
  induction ls generalizing l with
  | nil => exact List.forall_mem_nil _
  | cons k ls ih =>
    obtain ⟨hk, hls⟩ := List.isChain_cons_cons.mp h
    exact List.forall_mem_cons.mpr ⟨by simpa using hk, ih hls⟩

/-- The run over the segments: each of them counts from zero, the first one because nothing is open
yet and every other one because its first line closes all loops. -/
theorem deepest_foldl_segments {segs : List (List Text)} (hne : [] ∉ segs)
    (hwritten : ∀ s ∈ segs, ∀ l ∈ s, l.strip ≠ [])
    (hopen : ∀ s ∈ segs, s.IsChain fun _ k => (!closesLoops k) = true)
    (hcut : segs.IsChain fun _ s => ∃ l ∈ s.head?, closesLoops l = true)
    {n : Nesting} (hn : n.depth ≤ n.deepest)
    (hstart : ∀ s ∈ segs.head?, ∀ l ∈ s.head?, n.startOf l = 0) :
    (segs.flatten.foldl Nesting.line n).deepest = max n.deepest (fullest segs) := by
  induction segs generalizing n with
  | nil => exact (Nat.max_zero _).symm
  | cons s segs ih =>
    obtain ⟨hs, hrest⟩ := not_or.mp (List.mem_cons.not.mp hne)
    obtain ⟨l, ls, rfl⟩ := List.exists_cons_of_ne_nil (Ne.symm hs)
    obtain ⟨hlines, hwritten⟩ := List.forall_mem_cons.mp hwritten
    obtain ⟨hstay, hopen⟩ := List.forall_mem_cons.mp hopen
    obtain ⟨hclose, hcut⟩ := List.isChain_cons.mp hcut
    have hsegment := foldl_line_segment hlines (not_closes_of_isChain hstay) hn
      (hstart _ rfl l rfl)
    rw [List.flatten_cons, List.foldl_append, hsegment,
      ih hrest hwritten hopen hcut (Nat.le_max_right _ _) ?_, fullest_cons, Nat.max_assoc]
    intro s' hs' k hk
    obtain ⟨k', hk', hcloses⟩ := hclose s' hs'
    obtain rfl := Option.mem_unique hk hk'
    exact if_pos hcloses

/-- **Depth by segments**: the depth that the indentation tells is the number of headers of loops in
the fullest segment. -/
theorem maxLoopNesting_eq_fullest (code : Text) :
    maxLoopNesting code = fullest (segments (writtenLines code)) := by
  have hwritten : ∀ s ∈ segments (writtenLines code), ∀ l ∈ s, l.strip ≠ [] := by
    intro s hs l hl
    have hmem : l ∈ writtenLines code := by
      rw [← List.flatten_splitBy _ (writtenLines code)]
      exact List.mem_flatten_of_mem hs hl
    simpa using (List.mem_filter.mp hmem).2
  have hcut : (segments (writtenLines code)).IsChain
      fun _ s => ∃ l ∈ s.head?, closesLoops l = true := by
    apply (List.isChain_getLast_head_splitBy _ _).imp
    rintro _ s ⟨-, hs, hcloses⟩
    exact ⟨s.head hs, List.head_mem_head? hs, by simpa using hcloses⟩
  have hrun := deepest_foldl_segments (List.nil_notMem_splitBy _ _) hwritten
    (fun _ => List.isChain_of_mem_splitBy) hcut (Nat.le_refl 0) fun _ _ l _ =>
      Nat.le_zero.mp (Nesting.startOf_le {} l)
  have hflatten : (segments (writtenLines code)).flatten = writtenLines code :=
    List.flatten_splitBy _ _
  calc maxLoopNesting code
      = ((segments (writtenLines code)).flatten.foldl Nesting.line {}).deepest := by
        rw [hflatten, ← foldl_line_writtenLines, maxLoopNesting]
    _ = max 0 (fullest (segments (writtenLines code))) := hrun
    _ = fullest (segments (writtenLines code)) := Nat.zero_max _

example :
    let code := text "for a in b:\n  while c:\n    d\n\nwhile e:\n  f\ndef g():\n  for h in i: j"
    (segments (writtenLines code)).map (List.countP opensLoop) = [2, 2] ∧
      maxLoopNesting code = 2 := by decide

end BigO.Indented
