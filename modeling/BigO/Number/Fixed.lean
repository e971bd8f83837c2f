import BigO.Number.Shortest

/-! Quotients with a fixed number of decimal places. -/

namespace BigO

/-- A quotient with this many decimal places, at least one; a tie goes to the even digit. -/
def fixedPlaces (places num den : Nat) : Text :=
  let scaled := Binary64.roundDiv (num * tenPow places) den
  let fraction := Text.ofNat (scaled % tenPow places)
  Text.ofNat (scaled / tenPow places) ++ text "." ++
    Binary64.zeros (places - fraction.length) ++ fraction

/-- The same of an integer that may be below zero, with a minus sign where it is. -/
def fixedPlacesInt (places : Nat) (num : Int) (den : Nat) : Text :=
  (if num < 0 then text "-" else []) ++ fixedPlaces places num.natAbs den

end BigO
