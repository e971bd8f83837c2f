import Mathlib.Data.List.Forall2
import BigO.Validation

/-! When a check gives a value. A value that is built from several checks is there exactly when each
of them gives its part, so what the parts say of the fields of an object is all that the whole says.
-/

namespace BigO

namespace Checked

variable {α β : Type}

/-- The value that a check gives, if it gives one. -/
def value? : Checked α → Option α
  | .valid a => some a
  | .flawed _ => none

theorem value?_eq_some {x : Checked α} {a : α} : x.value? = some a ↔ x = .valid a := by
  cases x <;> simp [value?]

theorem seq_eq_valid {f : Checked (α → β)} {x : Checked α} {b : β} :
    f <*> x = .valid b ↔ ∃ g a, f = .valid g ∧ x = .valid a ∧ g a = b := by
  show Checked.seq f (fun _ => x) = .valid b ↔ _
  cases f <;> cases x <;> simp [Checked.seq]

theorem map_eq_valid {f : α → β} {x : Checked α} {b : β} :
    f <$> x = .valid b ↔ ∃ a, x = .valid a ∧ f a = b := by
  show (.valid f : Checked (α → β)) <*> x = .valid b ↔ _
  simp [seq_eq_valid]

theorem under_eq_valid {step : PathStep} {x : Checked α} {a : α} :
    x.under step = .valid a ↔ x = .valid a := by
  cases x <;> simp [under]

theorem flaw_ne_valid {defect : Defect} {a : α} : (flaw defect : Checked α) ≠ .valid a := nofun

/-- A list of items is read item by item. -/
theorem itemsFrom_eq_valid {check : Json → Checked α} {index : Nat} {items : List Json}
    {as : List α} :
    itemsFrom check index items = .valid as ↔
      List.Forall₂ (fun item a => check item = .valid a) items as := by
  induction items generalizing index as with
  | nil => simp [itemsFrom, eq_comm]
  | cons item items ih =>
    rw [itemsFrom, seq_eq_valid]
    simp only [map_eq_valid, under_eq_valid, ih]
    constructor
    · rintro ⟨-, rest, ⟨a, hitem, rfl⟩, hitems, rfl⟩
      exact .cons hitem hitems
    · rintro (_ | ⟨hitem, hitems⟩)
      exact ⟨_, _, ⟨_, hitem, rfl⟩, hitems, rfl⟩

end Checked

namespace Check

variable {α : Type} {members : List (Text × Json)} {name : String} {check : Json → Checked α}

theorem asText_eq_valid {value : Json} {t : Text} : asText value = .valid t ↔ value = .str t := by
  cases value <;> simp [asText, Checked.flaw_ne_valid]

theorem asOptionalText_eq_valid {value : Json} {t : Option Text} :
    asOptionalText value = .valid t ↔ value = (t.map Json.str).getD .null := by
  cases value with
  | null => cases t <;> simp [asOptionalText]
  | _ =>
    rw [asOptionalText, Checked.map_eq_valid]
    · simp only [asText_eq_valid]
      cases t <;> simp
    · exact nofun

theorem asTexts_eq_valid {value : Json} {ts : List Text} :
    asTexts value = .valid ts ↔ value = .arr (ts.map .str) := by
  cases value with
  | arr items =>
    rw [asTexts, Checked.itemsFrom_eq_valid, Json.arr.injEq]
    simp only [asText_eq_valid]
    constructor
    · intro h
      induction h with
      | nil => rfl
      | cons hitem _ ih => rw [hitem, ih, List.map_cons]
    · rintro rfl
      induction ts with
      | nil => exact .nil
      | cons t ts ih => exact .cons rfl ih
  | _ => simp [asTexts, Checked.flaw_ne_valid]

theorem required_eq_valid {a : α} :
    required members name check = .valid a ↔
      ∃ value, Json.member? members (text name) = some value ∧ check value = .valid a := by
  rw [required, Checked.under_eq_valid]
  cases Json.member? members (text name) <;> simp [Checked.flaw_ne_valid]

theorem optional_eq_valid {fallback a : α} :
    optional members name fallback check = .valid a ↔
      (∃ value, Json.member? members (text name) = some value ∧ check value = .valid a) ∨
        (Json.member? members (text name) = none ∧ a = fallback) := by
  rw [optional]
  cases Json.member? members (text name) with
  | none => simp [eq_comm]
  | some value => simp [Checked.under_eq_valid]

end Check

end BigO
