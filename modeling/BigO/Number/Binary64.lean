/-! Binary floating-point numbers of 64 bits, as exact values. A finite one is a sign, an integer
below `2^53` and a power of two; every operation computes exactly and then rounds to the nearest
such number, a tie to the even one. -/

namespace BigO

/-- A power of two. -/
def twoPow (n : Nat) : Nat := Nat.pow 2 n

/-- A power of ten. -/
def tenPow (n : Nat) : Nat := Nat.pow 10 n

/-- A binary64 value; `finite negative mantissa exponent` is `± mantissa · 2 ^ exponent`. -/
inductive Binary64 where
  | finite (negative : Bool) (mantissa : Nat) (exponent : Int)
  | infinite (negative : Bool)
  | nan
deriving DecidableEq

namespace Binary64

/-- The quotient rounded to the nearest integer, a tie to the even one. -/
def roundDiv (num den : Nat) : Nat :=
  let q := num / den
  let r := num % den
  if den < 2 * r ∨ (2 * r = den ∧ q % 2 = 1) then q + 1 else q

/-- The least exponent of a finite value. -/
def minExponent : Int := -1074

/-- The greatest exponent of a finite value. -/
def maxExponent : Int := 971

/-- `num / den` in units of `2 ^ exponent`, rounded. -/
def scaledDiv (num den : Nat) (exponent : Int) : Nat :=
  if 0 ≤ exponent then roundDiv num (den * twoPow exponent.toNat)
  else roundDiv (num * twoPow (-exponent).toNat) den

/-- `num / den` is at least `2 ^ power`. -/
def atLeastPower (num den : Nat) (power : Int) : Bool :=
  if 0 ≤ power then den * twoPow power.toNat ≤ num
  else den ≤ num * twoPow (-power).toNat

/-- The exponent with which a positive quotient gets 53 digits, or the least one. -/
def exponentFor (num den : Nat) : Int :=
  let guess : Int := (num.log2 : Int) - (den.log2 : Int)
  let power := if atLeastPower num den guess then guess else guess - 1
  max (power - 52) minExponent

/-- The value with this sign, mantissa at most `2 ^ 53` and exponent in its one normal form, or
infinity where it is too large. -/
def normal (negative : Bool) (mantissa : Nat) (exponent : Int) : Binary64 :=
  let (m, e) := if mantissa = twoPow 53 then (twoPow 52, exponent + 1) else (mantissa, exponent)
  if maxExponent < e then .infinite negative else .finite negative m e

/-- The zero with this sign. -/
def zero (negative : Bool) : Binary64 := .finite negative 0 minExponent

/-- The value nearest to `± num / den`. -/
def ofRatio (negative : Bool) (num den : Nat) : Binary64 :=
  if num = 0 then zero negative
  else
    let e := exponentFor num den
    normal negative (scaledDiv num den e) e

/-- The value nearest to `± digits · 10 ^ exponent`. Exponents far outside the range are settled
without computing the power. -/
def ofDecimal (negative : Bool) (digits : Nat) (exponent : Int) : Binary64 :=
  if digits = 0 then zero negative
  else
    if 400 < (digits.log2 : Int) * 3 / 10 + exponent then .infinite negative
    else if (digits.log2 : Int) * 302 / 1000 + 1 + exponent < -400 then zero negative
    else if 0 ≤ exponent then ofRatio negative (digits * tenPow exponent.toNat) 1
    else ofRatio negative digits (tenPow (-exponent).toNat)

/-- The value nearest to an integer. -/
def ofInt (n : Int) : Binary64 := ofRatio (n < 0) n.natAbs 1

/-- The pair `(n, k)` of a finite value `n / 2 ^ k`. -/
def toDyadic? : Binary64 → Option (Int × Nat)
  | .finite negative m e =>
    let n : Int := if 0 ≤ e then m * twoPow e.toNat else m
    some (if negative then -n else n, (-e).toNat)
  | _ => none

/-- The value nearest to `n / 2 ^ k`. -/
def ofDyadic (n : Int) (k : Nat) : Binary64 := ofRatio (n < 0) n.natAbs (twoPow k)

/-- The sum of two exact dyadic numbers, over the larger denominator. -/
def addDyadic (a b : Int × Nat) : Int × Nat :=
  let k := max a.2 b.2
  (a.1 * twoPow (k - a.2) + b.1 * twoPow (k - b.2), k)

/-- The value with the other sign. -/
def neg : Binary64 → Binary64
  | .finite negative m e => .finite (!negative) m e
  | .infinite negative => .infinite (!negative)
  | .nan => .nan

/-- The sum, rounded. -/
def add (a b : Binary64) : Binary64 :=
  match a.toDyadic?, b.toDyadic? with
  | some x, some y =>
    let s := addDyadic x y
    ofDyadic s.1 s.2
  | _, _ =>
    match a, b with
    | .nan, _ | _, .nan => .nan
    | .infinite s, .infinite s' => if s = s' then .infinite s else .nan
    | .infinite s, _ | _, .infinite s => .infinite s
    | _, _ => .nan

/-- The difference, rounded. -/
def sub (a b : Binary64) : Binary64 := add a b.neg

/-- The largest integer at or below a finite value. -/
def floor? (a : Binary64) : Option Int :=
  a.toDyadic?.map fun (n, k) => n / (twoPow k : Int)

/-- The value is a number and not infinite. -/
def isFinite : Binary64 → Bool
  | .finite .. => true
  | _ => false

end Binary64

end BigO
