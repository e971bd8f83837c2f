import BigO.Indented.Signals
import BigO.Proofs.Indented.Pattern
import BigO.Proofs.Text.Line

/-! The first function of indented code. Of the lines around it none matters: those above are no
headers, and those behind are cut off by the first statement at column zero. In between, blank lines
and comments are passed over, and a statement belongs to the body when it has more blanks in front
than the header has spaces and tabs. Whether the code is recursive is asked of this function alone. -/

namespace BigO.Indented

open Pattern Reader

/-- A comment stands on the line, blanks before it apart. -/
abbrev IsComment (line : Text) : Prop := text "#" <+: line.strip

theorem isStatement_iff {line : Text} :
    isStatement line = true ↔ line.strip ≠ [] ∧ ¬ IsComment line := by
  unfold isStatement IsComment
  cases line.strip with
  | nil => simp
  | cons c rest =>
      have hmarked : text "#" <+: c :: rest ↔ CodePoint.ofChar '#' = c := by
        show [CodePoint.ofChar '#'] <+: c :: rest ↔ _
        rw [List.cons_prefix_cons, and_iff_left (List.nil_prefix)]
      rw [hmarked, decide_eq_true_eq, and_iff_right (List.cons_ne_nil c rest), ne_eq, eq_comm]

/-! ### Around the function -/

/-- Lines above the first header are passed over. -/
theorem firstDefinition_append {above : List Text} (habove : ∀ l ∈ above, header? l = none)
    (ls : List Text) : firstDefinition (above ++ ls) = firstDefinition ls := by
  induction above with
  | nil => rfl
  | cons l above ih =>
      obtain ⟨hl, hrest⟩ := List.forall_mem_cons.mp habove
      rw [List.cons_append, firstDefinition, hl]
      exact ih hrest

theorem firstDefinition_header {line : Text} {indentation : Nat} {name : Text}
    (h : header? line = some (indentation, name)) (below : List Text) :
    firstDefinition (line :: below) = some { name, body := bodyBelow indentation below } := by
  rw [firstDefinition, h]

section Body

variable {below behind : List Text}
  (hbelow : ∀ l ∈ below, isStatement l = true → l.leadingBlanks ≠ 0)
  (hbehind : ∀ l ∈ behind.head?, isStatement l = true ∧ l.leadingBlanks = 0)
include hbelow hbehind

/-- The statements before the first one at column zero. -/
theorem takeWhile_statements_append :
    (((below ++ behind).filter isStatement).takeWhile fun l => l.leadingBlanks ≠ 0) =
      below.filter isStatement := by
  have hdeep : ∀ l ∈ below.filter isStatement, decide (l.leadingBlanks ≠ 0) = true := by
    intro l hl
    obtain ⟨hmem, hstatement⟩ := List.mem_filter.mp hl
    exact decide_eq_true (hbelow l hmem hstatement)
  rw [List.filter_append, List.takeWhile_append_of_pos hdeep]
  cases behind with
  | nil => exact List.append_nil _
  | cons l behind =>
      obtain ⟨hstatement, hzero⟩ := hbehind l rfl
      rw [List.filter_cons_of_pos hstatement, List.takeWhile_cons_of_neg (by simp [hzero]),
        List.append_nil]

/-- The body is made up of the deeper statements, and a statement at column zero ends it. -/
theorem bodyBelow_append (indentation : Nat) :
    bodyBelow indentation (below ++ behind) =
      below.filter fun l => l.strip ≠ [] ∧ ¬ IsComment l ∧ indentation < l.leadingBlanks := by
  unfold bodyBelow
  rw [takeWhile_statements_append hbelow hbehind, List.filter_filter]
  apply List.filter_congr
  intro l _
  rw [Bool.eq_iff_iff, Bool.and_eq_true, decide_eq_true_eq, isStatement_iff, decide_eq_true_eq]
  tauto

end Body

/-- The indentation of a header is that of its line. -/
theorem eq_length_marginOf {line : Text} {indentation : Nat} {name : Text}
    (h : header? line = some (indentation, name)) : indentation = (marginOf line).length := by
  have hgives : (optional async >>= fun _ => defined (marginOf line)).Gives
      fun hit => hit.1 = (marginOf line).length := by
    refine Gives.andThen _ fun _ => Gives.andThen _ fun _ => Gives.andThen _ fun _ => ?_
    refine Gives.andThen _ fun _ => Gives.andThen _ fun _ => Gives.andThen _ fun _ => ?_
    exact Gives.andThen _ fun _ => gives_pure rfl
  rw [header?_eq, Option.map_eq_some_iff] at h
  obtain ⟨⟨hit, n⟩, hread, rfl⟩ := h
  exact hgives _ _ n hread

theorem firstFunction_join {ls : List Text} (hlines : ∀ l ∈ ls, CodePoint.ofChar '\n' ∉ l)
    (hne : ls ≠ []) : firstFunction (Text.join (text "\n") ls) = firstDefinition ls := by
  rw [firstFunction, Text.lines_join hlines hne]

/-- **The first function by itself**: lines that are no headers above it and anything behind a
statement at column zero change neither what the first function is nor whether the code is
recursive. Its body has the deeper ones of the statements below the header, and no other lines. -/
theorem firstFunction_surrounded {above below behind : List Text} {line name : Text}
    {indentation : Nat}
    (hlines : ∀ l ∈ above ++ line :: (below ++ behind), CodePoint.ofChar '\n' ∉ l)
    (habove : ∀ l ∈ above, header? l = none) (hline : header? line = some (indentation, name))
    (hbelow : ∀ l ∈ below, l.strip = [] ∨ IsComment l ∨ l.leadingBlanks ≠ 0)
    (hbehind : ∀ l ∈ behind.head?, l.strip ≠ [] ∧ ¬ IsComment l ∧ l.leadingBlanks = 0) :
    let surrounded := Text.join (text "\n") (above ++ line :: (below ++ behind))
    let alone := Text.join (text "\n") (line :: below)
    firstFunction surrounded = firstFunction alone ∧
      firstFunction alone = some
        { name
          body := below.filter fun l =>
            l.strip ≠ [] ∧ ¬ IsComment l ∧ (marginOf line).length < l.leadingBlanks } ∧
      isRecursive surrounded = isRecursive alone := by
  intro surrounded alone
  have hstatements : ∀ l ∈ below, isStatement l = true → l.leadingBlanks ≠ 0 := by
    intro l hl hstatement
    obtain ⟨hwritten, hcode⟩ := isStatement_iff.mp hstatement
    exact ((hbelow l hl).resolve_left hwritten).resolve_left hcode
  have hend : ∀ l ∈ behind.head?, isStatement l = true ∧ l.leadingBlanks = 0 := by
    intro l hl
    obtain ⟨hwritten, hcode, hzero⟩ := hbehind l hl
    exact ⟨isStatement_iff.mpr ⟨hwritten, hcode⟩, hzero⟩
  have hnothing : ∀ l ∈ ([] : List Text).head?, isStatement l = true ∧ l.leadingBlanks = 0 := by
    simp
  have hbody := bodyBelow_append hstatements hnothing indentation
  have hbody' := bodyBelow_append hstatements hend indentation
  rw [List.append_nil] at hbody
  have halone : firstFunction alone = some { name, body := bodyBelow indentation below } := by
    have hinner : ∀ l ∈ line :: below, CodePoint.ofChar '\n' ∉ l := by
      intro l hl
      apply hlines l
      rw [← List.cons_append]
      exact List.mem_append_right _ (List.mem_append_left _ hl)
    rw [firstFunction_join hinner (List.cons_ne_nil _ _), firstDefinition_header hline]
  have hsame : firstFunction surrounded = firstFunction alone := by
    rw [firstFunction_join hlines (by simp), firstDefinition_append habove,
      firstDefinition_header hline, hbody', halone, hbody]
  refine ⟨hsame, ?_, ?_⟩
  · rw [halone, hbody, eq_length_marginOf hline]
  · rw [isRecursive, isRecursive, hsame]

/-- A header that is indented, with blank, commented, shallow and deep lines below it and a call of
its own at column zero behind. -/
theorem firstFunction_surrounded_by_calls :
    let above := [text "f(0)", text "class C:"]
    let line := text "  def f(n):"
    let below := [text "", text "# f(1)", text "\tf(2)", text "    return f(n - 1)", text "   # f(3)"]
    let behind := [text "def g(): f(4)", text "    f(5)"]
    let alone := Text.join (text "\n") (line :: below)
    (∀ l ∈ above ++ line :: (below ++ behind), CodePoint.ofChar '\n' ∉ l) ∧
      (∀ l ∈ above, header? l = none) ∧ header? line = some (2, text "f") ∧
      (∀ l ∈ below, l.strip = [] ∨ IsComment l ∨ l.leadingBlanks ≠ 0) ∧
      (∀ l ∈ behind.head?, l.strip ≠ [] ∧ ¬ IsComment l ∧ l.leadingBlanks = 0) ∧
      firstFunction (Text.join (text "\n") (above ++ line :: (below ++ behind))) =
        firstFunction alone ∧
      firstFunction alone = some { name := text "f", body := [text "    return f(n - 1)"] } ∧
      isRecursive (Text.join (text "\n") (above ++ line :: (below ++ behind))) = true := by
  intro above line below behind alone
  have hlines : ∀ l ∈ above ++ line :: (below ++ behind), CodePoint.ofChar '\n' ∉ l := by decide
  have habove : ∀ l ∈ above, header? l = none := by decide
  have hline : header? line = some (2, text "f") := by decide
  have hbelow : ∀ l ∈ below, l.strip = [] ∨ IsComment l ∨ l.leadingBlanks ≠ 0 := by decide
  have hbehind : ∀ l ∈ behind.head?, l.strip ≠ [] ∧ ¬ IsComment l ∧ l.leadingBlanks = 0 := by
    decide
  obtain ⟨hsame, hbody, hrecursive⟩ :=
    firstFunction_surrounded hlines habove hline hbelow hbehind
  refine ⟨hlines, habove, hline, hbelow, hbehind, hsame, hbody.trans ?_, hrecursive.trans ?_⟩
  · decide
  · decide

end BigO.Indented
