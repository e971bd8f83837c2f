import BigO.Indented.Signals
import BigO.Proofs.Text.Search

/-! Calls in indented code: a name that is a word of its own, blanks and an opening parenthesis. -/

namespace BigO.Indented

open Pattern Reader

variable {name w s : Text} {before : Option CodePoint} {u : Unit}

theorem takes_callOf_iff :
    (callOf name before).Takes w s u ↔ wordStart before = true ∧
      ∃ ws, w = name ++ (ws ++ [CodePoint.ofChar '(']) ∧ ∀ c ∈ ws, c.isBlank = true :=
  after_eq_some.trans (and_congr_right fun _ => takes_textThen_iff rfl)

/-- Calls stand apart: inside of a name no word begins, and behind it stand blanks and a
parenthesis. -/
theorem apart_callOf (hne : name ≠ []) (hall : ∀ c ∈ name, c.isWord = true) :
    (callOf name).Apart where
  pos {before w s u} h := by
    obtain ⟨-, ws, rfl, -⟩ := takes_callOf_iff.mp h
    simp [hne]
  inside before s u n h := inside_textThen name '(' s u n (after_eq_some.mp h).2
  none_inside {before x y s u} h hx hy := by
    obtain ⟨-, ws, hsplit, hblank⟩ := takes_callOf_iff.mp h
    rcases List.append_eq_append_iff.mp hsplit with ⟨z, rfl, -⟩ | ⟨z, rfl, hbehind⟩
    · have hstart := wordStart_lastOf_of_isWord hx (List.forall_mem_append.mp hall).1 before
      rw [callOf, after, hstart, if_neg Bool.false_ne_true]
      rfl
    · obtain ⟨c, rest, rfl⟩ := List.exists_cons_of_ne_nil hy
      obtain ⟨d, name, rfl⟩ := List.exists_cons_of_ne_nil hne
      have hc : c ∈ ws ++ [CodePoint.ofChar '('] := by
        rw [hbehind]
        exact List.mem_append_right z List.mem_cons_self
      have hgap : c.isWord = false := by
        rcases List.mem_append.mp hc with hc | hc
        · exact CodePoint.isWord_of_isBlank (hblank c hc)
        · rw [List.mem_singleton.mp hc]
          decide
      have hcd : ¬ c = d := by
        rintro rfl
        rw [hall c List.mem_cons_self] at hgap
        cases hgap
      have hbegins := Begins.after ((begins_exactly d name).bind fun _ => blanks >>= fun _ =>
        char '(' >>= fun _ => pure ()) wordStart (lastOf ((d :: name) ++ z) before)
      exact hbegins.cons hcd _

/-- A call holds no closing parenthesis and ends with an opening one. -/
theorem of_takes_callOf (hall : ∀ c ∈ name, c.isWord = true)
    (h : (callOf name before).Takes w s u) :
    (∀ c ∈ w, c ≠ CodePoint.ofChar ')') ∧ w.getLast? = some (CodePoint.ofChar '(') := by
  obtain ⟨-, ws, rfl, hblank⟩ := takes_callOf_iff.mp h
  constructor
  · refine List.forall_mem_append.mpr ⟨?_, List.forall_mem_append.mpr ⟨?_, by decide⟩⟩
    · rintro c hc rfl
      exact absurd (hall _ hc) (by decide)
    · rintro c hc rfl
      exact absurd (hblank _ hc) (by decide)
  · rw [← List.append_assoc, List.getLast?_concat]

theorem isWord_of_mem_divmod : ∀ c ∈ text "divmod", c.isWord = true := by decide

theorem apart_divmodCall : divmodCall.Apart :=
  apart_callOf (show text "divmod" ≠ [] by decide) isWord_of_mem_divmod

end BigO.Indented
