import Mathlib.Data.List.Basic
import BigO.Indented.Signals

/-! Texts between an opening and its closing, in the course of a collection. What the collection comes
to hold is told from where it stands: it holds some texts already, the text that is open goes on to
the first closing mark, and others are opened further on. -/

namespace BigO

/-! ### The closing mark -/

namespace Text

variable {mark c : CodePoint} {P : CodePoint → Prop} {F : Text → Prop} {read w t : Text}

/-- The text goes on to the mark over code points that are allowed before it, and what then stands
before the mark, with `read` in front, is of the kind `F`. -/
def Completes (mark : CodePoint) (P : CodePoint → Prop) (F : Text → Prop) (read t : Text) : Prop :=
  ∃ x v, t = x ++ mark :: v ∧ (∀ c ∈ x, P c) ∧ F (read ++ x)

theorem not_completes_nil : ¬ Completes mark P F read [] := by
  rintro ⟨x, v, hsplit, -⟩
  exact absurd hsplit (by simp)

theorem completes_mark (hmark : ¬ P mark) : Completes mark P F read (mark :: t) ↔ F read := by
  constructor
  · rintro ⟨x, v, hsplit, hx, hf⟩
    cases x with
    | nil => rwa [List.append_nil] at hf
    | cons d x =>
        obtain ⟨rfl, -⟩ := List.cons.inj hsplit
        exact absurd (hx _ List.mem_cons_self) hmark
  · intro hf
    exact ⟨[], t, rfl, List.forall_mem_nil _, by rwa [List.append_nil]⟩

theorem completes_cons (hmark : ¬ P mark) (hc : P c) :
    Completes mark P F read (c :: t) ↔ Completes mark P F (read ++ [c]) t := by
  constructor
  · rintro ⟨x, v, hsplit, hx, hf⟩
    cases x with
    | nil =>
        obtain ⟨rfl, -⟩ := List.cons.inj hsplit
        exact absurd hc hmark
    | cons d x =>
        obtain ⟨rfl, rfl⟩ := List.cons.inj hsplit
        refine ⟨x, v, rfl, (List.forall_mem_cons.mp hx).2, ?_⟩
        rwa [List.append_assoc]
  · rintro ⟨x, v, rfl, hx, hf⟩
    refine ⟨c :: x, v, rfl, List.forall_mem_cons.mpr ⟨hc, hx⟩, ?_⟩
    rwa [List.append_assoc] at hf

theorem completes_append (hmark : ¬ P mark) (hw : ∀ c ∈ w, P c) :
    Completes mark P F read (w ++ t) ↔ Completes mark P F (read ++ w) t := by
  induction w generalizing read with
  | nil => rw [List.nil_append, List.append_nil]
  | cons c w ih =>
      obtain ⟨hc, hw⟩ := List.forall_mem_cons.mp hw
      rw [List.cons_append, completes_cons hmark hc, ih hw, List.append_assoc,
        List.singleton_append]

/-- What is neither the mark nor allowed before it leaves the text open for good. -/
theorem not_completes_cons (hc : ¬ P c) (hne : c ≠ mark) : ¬ Completes mark P F read (c :: t) := by
  rintro ⟨x, v, hsplit, hx, -⟩
  cases x with
  | nil => exact hne (List.cons.inj hsplit).1
  | cons d x =>
      obtain ⟨rfl, -⟩ := List.cons.inj hsplit
      exact hc (hx _ List.mem_cons_self)

end Text

/-! ### The collection -/

namespace Indented.Enclosed

variable {F GoesOn : Text → Prop} {Later : Prop} {closed : List Text} {inside : Text}

/-- The collection comes to hold a text of the kind `F`: it holds one already, the open text goes on
to be one, or there is one later. -/
def Comes (e : Enclosed) (F GoesOn : Text → Prop) (Later : Prop) : Prop :=
  (∃ a ∈ e.closed, F a) ∨ (∃ inside ∈ e.opened, GoesOn inside.reverse) ∨ Later

theorem comes_none :
    Comes { closed, opened := none } F GoesOn Later ↔ (∃ a ∈ closed, F a) ∨ Later := by
  simp [Comes]

theorem comes_some :
    Comes { closed, opened := some inside } F GoesOn Later ↔
      (∃ a ∈ closed, F a) ∨ GoesOn inside.reverse ∨ Later := by
  simp [Comes]

/-- The open text was closed. -/
theorem comes_closed :
    Comes { closed := inside.reverse :: closed, opened := none } F GoesOn Later ↔
      (∃ a ∈ closed, F a) ∨ F inside.reverse ∨ Later := by
  rw [comes_none, List.exists_mem_cons_iff, or_left_comm, or_assoc]

end Indented.Enclosed

end BigO
