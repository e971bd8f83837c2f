import BigO.Number.Binary64
import BigO.Text.Basic

/-! The decimal form of a binary64 value: the fewest digits that read back as the value, of those
the nearest to it. Values from `10⁻⁴` up to below `10¹⁶` are written positionally, all others with
an exponent. -/

namespace BigO.Binary64

/-- The quotient is at least `10 ^ power`. -/
def atLeastTenPower (num den : Nat) (power : Int) : Bool :=
  if 0 ≤ power then den * tenPow power.toNat ≤ num
  else den ≤ num * tenPow (-power).toNat

/-- The power of ten that a positive quotient reaches, searched upwards from `power`. -/
def tenPowerFrom (num den : Nat) : (steps : Nat) → (power : Int) → Int
  | 0, power => power
  | steps + 1, power =>
    if atLeastTenPower num den (power + 1) then tenPowerFrom num den steps (power + 1) else power

/-- The greatest power of ten at or below a positive quotient; the search begins a little below. -/
def tenPower (num den : Nat) : Int :=
  let twoPower : Int := (num.log2 : Int) - (den.log2 : Int)
  tenPowerFrom num den 12 (twoPower * 30103 / 100000 - 2)

/-- The two multiples of `10 ^ exponent` next to a quotient, the one below and whether the one above
is nearer, with a tie to the even one. -/
def neighbours (num den : Nat) (exponent : Int) : Nat × Bool :=
  let (n, d) :=
    if 0 ≤ exponent then (num, den * tenPow exponent.toNat)
    else (num * tenPow (-exponent).toNat, den)
  (n / d, decide (roundDiv n d = n / d + 1))

/-- A number of digits is tried: the digits and their exponent, if one of the two neighbours on that
grid reads back as the value. -/
def tryDigits (value : Binary64) (num den : Nat) (power : Int) (count : Nat) :
    Option (Nat × Int) :=
  let exponent := power + 1 - count
  let (below, aboveNearer) := neighbours num den exponent
  let readsBack := fun digits => decide (ofDecimal false digits exponent = value)
  let nearer := if aboveNearer then below + 1 else below
  let farther := if aboveNearer then below else below + 1
  if readsBack nearer then some (nearer, exponent)
  else if readsBack farther then some (farther, exponent)
  else none

/-- The fewest digits that read back as a positive value, as an integer and an exponent. Seventeen
always do. -/
def shortest (mantissa : Nat) (exponent : Int) : Nat × Int :=
  let num := if 0 ≤ exponent then mantissa * twoPow exponent.toNat else mantissa
  let den := if 0 ≤ exponent then 1 else twoPow (-exponent).toNat
  let power := tenPower num den
  ((List.range 17).findSome? fun i =>
    tryDigits (.finite false mantissa exponent) num den power (i + 1)).getD (mantissa, 0)

/-- The digits of a positive value without zeros at their end, and the power of ten at which the
point stands: the value is `0.digits · 10 ^ point`. -/
def digitsAndPoint (digits : Nat) (exponent : Int) : Text × Int :=
  let all := Text.ofNat digits
  let kept := (all.reverse.dropWhile fun (c : CodePoint) => c = '0').reverse
  (kept, exponent + all.length)

/-- That many zeros. -/
def zeros (n : Nat) : Text := List.replicate n (CodePoint.ofChar '0')

/-- An exponent: its sign and at least two digits. -/
def exponentText (n : Int) : Text :=
  let digits := Text.ofNat n.natAbs
  (if n < 0 then text "e-" else text "e+") ++ zeros (2 - digits.length) ++ digits

/-- The digits with the point at its place, or with an exponent. -/
def place (digits : Text) (point : Int) : Text :=
  if -4 < point ∧ point ≤ 16 then
    if point ≤ 0 then text "0." ++ zeros (-point).toNat ++ digits
    else if digits.length ≤ point.toNat then
      digits ++ zeros (point.toNat - digits.length) ++ text ".0"
    else digits.take point.toNat ++ text "." ++ digits.drop point.toNat
  else
    let fraction := digits.drop 1
    digits.take 1 ++ (if fraction.isEmpty then [] else text "." ++ fraction) ++
      exponentText (point - 1)

/-- The decimal form of a value. -/
def display : Binary64 → Text
  | .nan => text "nan"
  | .infinite negative => if negative then text "-inf" else text "inf"
  | .finite negative mantissa exponent =>
    let digits :=
      if mantissa = 0 then text "0.0"
      else
        let (digits, power) := shortest mantissa exponent
        let (kept, point) := digitsAndPoint digits power
        place kept point
    if negative then text "-" ++ digits else digits

end BigO.Binary64
