import BigO.Text.Basic

/-! Hexadecimal digits. -/

namespace BigO.Text

/-- The hexadecimal digit of a number below sixteen. -/
def hexDigit (n : Nat) : CodePoint := CodePoint.ofNat (if n < 10 then 0x30 + n else 0x57 + n)

/-- A number as this many hexadecimal digits, the low ones. -/
def hexDigits : (count n : Nat) → Text
  | 0, _ => []
  | count + 1, n => hexDigits count (n / 16) ++ [hexDigit (n % 16)]

/-- The value of a hexadecimal digit. -/
def hexDigit? (c : CodePoint) : Option Nat :=
  if c.isDigit then some (c.val - 0x30)
  else if 0x41 ≤ c.val ∧ c.val ≤ 0x46 then some (c.val - 0x37)
  else if 0x61 ≤ c.val ∧ c.val ≤ 0x66 then some (c.val - 0x57)
  else none

/-- The number of four hexadecimal digits. -/
def hexFour? (a b c d : CodePoint) : Option Nat := do
  return (((← hexDigit? a) * 16 + (← hexDigit? b)) * 16 + (← hexDigit? c)) * 16 + (← hexDigit? d)

/-- A byte as two hexadecimal digits. -/
def hexByte (b : UInt8) : Text := hexDigits 2 b.toNat

end BigO.Text
