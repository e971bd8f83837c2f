import BigO.Text.Basic

/-! Decision lists: rules in order, of which the first that matches the signals gives the verdict.
-/

namespace BigO

/-- A row of a decision list over signals of type `σ`. -/
structure Rule (σ : Type) where
  name : Text
  holds : σ → Bool
  time : Text
  /-- The space label that goes before the estimated one when this rule decides. -/
  space : Option Text := none

/-- What a decision list answers. -/
structure Verdict where
  rule : Text
  time : Text
  space : Option Text
deriving DecidableEq

/-- A decision list left some signals without a rule. -/
structure NoCatchAll where
deriving DecidableEq

/-- The wording of the error. -/
def NoCatchAll.message (_ : NoCatchAll) : Text := text "decision list has no catch-all rule"

/-- The verdict of the first rule that holds. -/
def classify {σ : Type} (rules : List (Rule σ)) (signals : σ) : Except NoCatchAll Verdict :=
  match rules.find? (·.holds signals) with
  | some rule => .ok { rule := rule.name, time := rule.time, space := rule.space }
  | none => .error {}

end BigO
