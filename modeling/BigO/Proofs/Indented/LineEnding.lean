import BigO.Proofs.Indented.Call
import BigO.Proofs.Indented.Pattern
import BigO.Proofs.Source.LineEnding

/-! Line endings in indented code. A carriage return at the end of a line is a blank there: the line
without its outer blanks is the same, and so is its indentation unless it is blank. What stands
between parentheses or brackets is followed through the scan, one state for each of the two texts.
-/

namespace BigO

open Pattern Source

/-! ### Blanks at the end of a line -/

namespace Text

theorem stripRight_append_blank {c : CodePoint} (hc : c.isBlank = true) (t : Text) :
    stripRight (t ++ [c]) = stripRight t := by
  rw [stripRight, List.reverse_append, List.reverse_singleton, List.singleton_append,
    List.dropWhile_cons, if_pos hc, stripRight]

theorem strip_append_blank {c : CodePoint} (hc : c.isBlank = true) (t : Text) :
    strip (t ++ [c]) = strip t := by
  rw [strip, strip, stripLeft, stripLeft, List.dropWhile_append]
  by_cases hblank : (t.dropWhile CodePoint.isBlank).isEmpty = true
  · rw [if_pos hblank, List.isEmpty_iff.mp hblank, List.dropWhile_cons, if_pos hc]
    rfl
  · rw [if_neg hblank, stripRight_append_blank hc]

/-- Behind something that is no blank, blanks are no indentation. -/
theorem leadingBlanks_append {t : Text} (ht : t.strip ≠ []) (s : Text) :
    leadingBlanks (t ++ s) = leadingBlanks t := by
  rw [leadingBlanks, leadingBlanks, List.takeWhile_append]
  split
  · next hlength =>
      refine absurd ?_ ht
      have hsplit := List.takeWhile_append_dropWhile (p := CodePoint.isBlank) (l := t)
      have hnil : t.dropWhile CodePoint.isBlank = [] := by
        have hsum := congrArg List.length hsplit
        rw [List.length_append] at hsum
        exact List.length_eq_zero_iff.mp (by omega)
      rw [strip, stripLeft, hnil]
      rfl
  · rfl

end Text

namespace LineAlike

variable {l l' : Text}

theorem strip_eq (h : LineAlike l l') : l.strip = l'.strip := by
  rcases h with rfl | rfl
  · rfl
  · exact (Text.strip_append_blank (by decide) l).symm

theorem leadingBlanks_eq (h : LineAlike l l') (hl : l.strip ≠ []) :
    l.leadingBlanks = l'.leadingBlanks := by
  rcases h with rfl | rfl
  · rfl
  · exact (Text.leadingBlanks_append hl _).symm

theorem header?_eq (h : LineAlike l l') : Indented.header? l = Indented.header? l' := by
  rcases h with rfl | rfl
  · rfl
  · exact (Indented.header?_append_return l).symm

end LineAlike

namespace Indented

/-! ### Functions -/

section Functions

variable {ls ls' : List Text}

theorem strip_ne_nil_of_isStatement {l : Text} (h : isStatement l = true) : l.strip ≠ [] := by
  intro hnil
  rw [isStatement, hnil] at h
  cases h

/-- Statements are told by what is left of a line without its outer blanks, so they are indented
alike. -/
theorem statements_alike (h : List.Forall₂ LineAlike ls ls') :
    List.Forall₂ (fun l l' => LineAlike l l' ∧ l.leadingBlanks = l'.leadingBlanks)
      (ls.filter isStatement) (ls'.filter isStatement) := by
  induction h with
  | nil => exact .nil
  | @cons l l' _ _ hl _ ih =>
      have hsame : isStatement l = isStatement l' := by rw [isStatement, isStatement, hl.strip_eq]
      rw [List.filter_cons, List.filter_cons, ← hsame]
      split
      · next hstatement =>
          exact .cons ⟨hl, hl.leadingBlanks_eq (strip_ne_nil_of_isStatement hstatement)⟩ ih
      · exact ih

theorem bodyBelow_alike (indentation : Nat) (h : List.Forall₂ LineAlike ls ls') :
    List.Forall₂ LineAlike (bodyBelow indentation ls) (bodyBelow indentation ls') := by
  have hstatements := statements_alike h
  rw [bodyBelow, bodyBelow]
  generalize ls.filter isStatement = statements at hstatements ⊢
  generalize ls'.filter isStatement = statements' at hstatements ⊢
  clear h
  induction hstatements with
  | nil => exact .nil
  | cons hl _ ih =>
      rw [List.takeWhile_cons, List.takeWhile_cons, ← hl.2]
      split
      · rw [List.filter_cons, List.filter_cons, ← hl.2]
        split
        · exact .cons hl.1 ih
        · exact ih
      · exact .nil

/-- The same function is defined first, with lines of its body that differ at their ends only. -/
theorem firstDefinition_alike (h : List.Forall₂ LineAlike ls ls') :
    Option.Rel (fun f f' => f.name = f'.name ∧ f.name.IsSolid ∧
        List.Forall₂ LineAlike f.body f'.body)
      (firstDefinition ls) (firstDefinition ls') := by
  induction h with
  | nil => exact .none
  | @cons l l' ls ls' hl hls ih =>
      rw [firstDefinition, firstDefinition, ← hl.header?_eq]
      cases hheader : header? l with
      | none => exact ih
      | some hit => exact .some ⟨rfl, isSolid_of_header? hheader, bodyBelow_alike hit.1 hls⟩

theorem isRecursive_eq {t t' : Text} (h : Padded 0 t t') : isRecursive t = isRecursive t' := by
  have hfirst := firstDefinition_alike h.lines
  rw [isRecursive, isRecursive, firstFunction, firstFunction]
  generalize firstDefinition t.lines = f at hfirst ⊢
  generalize firstDefinition t'.lines = f' at hfirst ⊢
  cases hfirst with
  | none => rfl
  | @some f f' hf =>
      obtain ⟨hname, hsolid, hbody⟩ := hf
      simp only [← hname]
      exact any_eq_of_forall₂ (fun _ _ hl => (steady_callOf hsolid).occursIn_eq hl.padded) hbody

end Functions

/-! ### Loops -/

theorem line_eq (n : Nesting) {l l' : Text} (h : LineAlike l l') : n.line l = n.line l' := by
  have hbegins : ∀ openings, beginsWith openings l = beginsWith openings l' := fun openings => by
    rw [beginsWith, beginsWith, h.strip_eq]
  rw [Nesting.line, Nesting.line, ← h.strip_eq]
  by_cases hblank : l.strip.isEmpty = true
  · rw [if_pos hblank, if_pos hblank]
  · have hleading := h.leadingBlanks_eq fun hnil => hblank (List.isEmpty_iff.mpr hnil)
    rw [if_neg hblank, if_neg hblank, closesLoops, closesLoops, opensLoop, opensLoop, hleading,
      hbegins, hbegins]

theorem maxLoopNesting_eq {t t' : Text} (h : Padded 0 t t') :
    maxLoopNesting t = maxLoopNesting t' := by
  have hrun : t.lines.foldl Nesting.line {} = t'.lines.foldl Nesting.line {} := by
    refine foldl_eq_of_forall₂ (fun n l l' hl => ?_) h.lines
    exact line_eq n hl
  rw [maxLoopNesting, maxLoopNesting, hrun]

/-! ### Arguments that end in two -/

/-- One code point in the search for a two at the end of a text: what stood before, and whether the
text ends in two so far. -/
def twoStep (s : Option CodePoint × Bool) (c : CodePoint) : Option CodePoint × Bool :=
  (some c, if c.isBlank then s.2 else decide (c = '2') && wordStart s.1)

theorem endsInTwo_concat (t : Text) (c : CodePoint) :
    endsInTwo (t ++ [c]) =
      if c.isBlank then endsInTwo t else decide (c = '2') && wordStart t.getLast? := by
  rw [endsInTwo, List.reverse_append, List.reverse_singleton, List.singleton_append,
    List.dropWhile_cons]
  by_cases hc : c.isBlank = true
  · rw [if_pos hc, if_pos hc]
    rfl
  · rw [if_neg hc, if_neg hc, ← List.head?_reverse]

theorem foldl_twoStep (t : Text) : t.foldl twoStep (none, false) = (t.getLast?, endsInTwo t) := by
  induction t using List.reverseRecOn with
  | nil => rfl
  | append_singleton t c ih =>
      rw [List.foldl_append, ih, List.foldl_cons, List.foldl_nil, twoStep, List.getLast?_concat,
        endsInTwo_concat]

/-- What matters of the arguments collected so far: which of the closed ones end in two, and how far
the search in the open one has come. -/
def Enclosed.twos (e : Enclosed) : List Bool × Option (Option CodePoint × Bool) :=
  (e.closed.map endsInTwo, e.opened.map fun inside => inside.reverse.foldl twoStep (none, false))

theorem Enclosed.twos_plain (e : Enclosed) (c : CodePoint) :
    (e.argumentPiece (.plain c)).twos =
      match e.twos.2 with
      | none => e.twos
      | some s => if c = ')' then (s.2 :: e.twos.1, none) else (e.twos.1, some (twoStep s c)) := by
  obtain ⟨closed, opened⟩ := e
  cases opened with
  | none => rfl
  | some inside =>
      simp only [argumentPiece, twos, Option.map_some]
      split
      · rw [foldl_twoStep]
        rfl
      · rw [Option.map_some, List.reverse_cons, List.foldl_append]
        rfl

/-- In front of a line feed a carriage return is not noticed. -/
theorem Enclosed.twos_return (e : Enclosed) :
    ((e.argumentPiece (.plain (CodePoint.ofChar '\r'))).argumentPiece
      (.plain (CodePoint.ofChar '\n'))).twos =
        (e.argumentPiece (.plain (CodePoint.ofChar '\n'))).twos := by
  rw [twos_plain, twos_plain, twos_plain]
  cases hopened : e.twos.2 with
  | none => rw [hopened]
  | some s => rfl

/-- A call inside an argument leaves a parenthesis at its end. -/
theorem Enclosed.twos_token (e : Enclosed) {w : Text}
    (hw : w.getLast? = some (CodePoint.ofChar '(')) :
    (e.argumentPiece (.token () w)).twos =
      (e.twos.1, some (e.twos.2.elim none fun _ => some (CodePoint.ofChar '('), false)) := by
  obtain ⟨closed, opened⟩ := e
  cases opened with
  | none => rfl
  | some inside =>
      obtain ⟨v, rfl⟩ := List.getLast?_eq_some_iff.mp hw
      have hends : endsInTwo (inside.reverse ++ (v ++ [CodePoint.ofChar '('])) = false := by
        rw [← List.append_assoc, endsInTwo_concat]
        rfl
      simp only [argumentPiece, twos, Option.map_some, List.reverse_append, List.reverse_reverse,
        foldl_twoStep, hends, List.getLast?_append, hw, Option.some_or]
      rfl

theorem getLast?_divmodCall {before : Option CodePoint} {t : Text} {n : Nat}
    (h : divmodCall before t = some ((), n)) :
    (t.take n).getLast? = some (CodePoint.ofChar '(') := by
  obtain ⟨w, s, rfl, rfl, htakes⟩ := (apart_divmodCall.inside before).exists_takes h
  rw [List.take_left]
  exact (of_takes_callOf isWord_of_mem_divmod htakes).2

/-- The scans of both texts leave collections that agree on what ends in two. -/
theorem twos_foldl_eq {x y : Place} (hxy : Beside 0 x y) {e e' : Enclosed} (he : e.twos = e'.twos) :
    ((scan divmodCall x.before x.rest).foldl Enclosed.argumentPiece e).twos =
      ((scan divmodCall y.before y.rest).foldl Enclosed.argumentPiece e').twos := by
  induction hxy using steady_divmodCall.induction generalizing e e' with
  | behind before before' s hs hlen =>
      rw [List.length_eq_zero_iff.mp (Nat.le_zero.mp hlen)]
      exact he
  | plain before before' c t t' h _ hx hy ih =>
      simp only
      rw [scan_none hx, scan_none hy]
      exact ih (by rw [Enclosed.twos_plain, Enclosed.twos_plain, he])
  | returned before before' t t' h ih =>
      simp only
      rw [scan_none (steady_divmodCall.none_of_filler CodePoint.isFiller_lineFeed _ _),
        scan_none (steady_divmodCall.none_of_filler CodePoint.isFiller_return _ _),
        scan_none (steady_divmodCall.none_of_filler CodePoint.isFiller_lineFeed _ _)]
      exact ih (by rw [Enclosed.twos_return, Enclosed.twos_plain, Enclosed.twos_plain, he])
  | token before c t t' a n m h hx hy hskip ih =>
      have hlast := getLast?_divmodCall hx
      have hlast' := getLast?_divmodCall hy
      rw [List.take_succ_cons] at hlast hlast'
      simp only
      rw [scan_token hx, scan_token hy]
      exact ih (by rw [Enclosed.twos_token e hlast, Enclosed.twos_token e' hlast', he])

theorem halvesWithDivmod_eq {t t' : Text} (h : Padded 0 t t') :
    halvesWithDivmod t = halvesWithDivmod t' := by
  have htwos := congrArg Prod.fst
    (twos_foldl_eq (.of_padded h none) (rfl : Enclosed.twos {} = Enclosed.twos {}))
  have hany := congrArg (List.any · id) htwos
  simp only [Enclosed.twos, List.any_map] at hany
  exact hany

theorem hasMidpoint_eq {t t' : Text} (h : Padded 0 t t') : hasMidpoint t = hasMidpoint t' := by
  rw [hasMidpoint, hasMidpoint, steady_floorHalf.occursIn_eq h, steady_shiftByOne.occursIn_eq h,
    halvesWithDivmod_eq h]

/-! ### Comprehensions -/

theorem isComprehension_eq {t t' : Text} (h : Padded 0 t t') :
    isComprehension t = isComprehension t' := by
  have hfor := (steady_word "for").find?_alike (.of_padded h none)
  simp only at hfor
  rw [isComprehension, isComprehension]
  generalize (word "for").find? none t = hit at hfor ⊢
  generalize (word "for").find? none t' = hit' at hfor ⊢
  cases hfor with
  | none => rfl
  | some hit => exact (steady_word "in").isSome_find?_eq hit.2

/-- The texts in the second collection are those in the first, padded. -/
structure Enclosed.Alike (e e' : Enclosed) : Prop where
  closed : List.Forall₂ (Padded 0) e.closed e'.closed
  opened : Option.Rel (fun inside inside' => Padded 0 inside.reverse inside'.reverse)
    e.opened e'.opened

namespace Enclosed.Alike

variable {e e' : Enclosed}

theorem bracket (h : e.Alike e') (c : CodePoint) : (e.bracket c).Alike (e'.bracket c) := by
  obtain ⟨closed, opened⟩ := e
  obtain ⟨closed', opened'⟩ := e'
  obtain ⟨hclosed, hopened⟩ := h
  rw [Enclosed.bracket, Enclosed.bracket]
  split
  · exact ⟨hclosed, .some padded_nil⟩
  · cases hopened with
    | none => exact ⟨hclosed, .none⟩
    | some hinside =>
        simp only
        split
        · exact ⟨.cons hinside hclosed, .none⟩
        · refine ⟨hclosed, .some ?_⟩
          rw [List.reverse_cons, List.reverse_cons]
          exact hinside.append (.cons c padded_nil)

theorem bracket_return (h : e.Alike e') :
    (e.bracket (CodePoint.ofChar '\n')).Alike
      ((e'.bracket (CodePoint.ofChar '\r')).bracket (CodePoint.ofChar '\n')) := by
  obtain ⟨closed, opened⟩ := e
  obtain ⟨closed', opened'⟩ := e'
  obtain ⟨hclosed, hopened⟩ := h
  cases hopened with
  | none => exact ⟨hclosed, .none⟩
  | some hinside =>
      refine ⟨hclosed, .some ?_⟩
      simp only [List.reverse_cons, List.append_assoc]
      exact hinside.append (.returned padded_nil)

theorem foldl_bracket {t t' : Text} (ht : Padded 0 t t') (h : e.Alike e') :
    (t.foldl Enclosed.bracket e).Alike (t'.foldl Enclosed.bracket e') := by
  induction ht generalizing e e' with
  | behind hs hlen =>
      rw [List.length_eq_zero_iff.mp (Nat.le_zero.mp hlen)]
      exact h
  | cons c ht ih => exact ih (h.bracket c)
  | returned ht ih => exact ih h.bracket_return

end Enclosed.Alike

theorem hasComprehension_eq {t t' : Text} (h : Padded 0 t t') :
    hasComprehension t = hasComprehension t' := by
  have hgroups := (Enclosed.Alike.foldl_bracket h (⟨.nil, .none⟩ : Enclosed.Alike {} {})).closed
  exact any_eq_of_forall₂ (fun _ _ => isComprehension_eq) hgroups

/-! ### Estimates -/

variable {t t' : Text}

theorem detect_eq (h : Padded 0 t t') : detect t = detect t' := by
  rw [detect, detect, isRecursive_eq h, hasMidpoint_eq h, (steady_word _).occursIn_eq h,
    maxLoopNesting_eq h]

theorem estimateSpace_eq (h : Padded 0 t t') (recursive : Bool) :
    estimateSpace t recursive = estimateSpace t' recursive := by
  rw [estimateSpace, estimateSpace, steady_listCall.occursIn_eq h,
    steady_listAssignment.occursIn_eq h, hasComprehension_eq h]

theorem cyclomatic_eq (h : Padded 0 t t') : cyclomatic t = cyclomatic t' := by
  rw [cyclomatic, cyclomatic, steady_decisionPoint.tokens_eq h]

/-- **Carriage returns at the ends of lines** do not show in an estimate for indented code. -/
theorem analyze_eq (h : Padded 0 t t') : analyze t = analyze t' := by
  simp only [analyze, detect_eq h, estimateSpace_eq h, cyclomatic_eq h, Text.countLines,
    h.count_lineFeed]

end Indented

end BigO
