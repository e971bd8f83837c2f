import BigO.Text.Decoding
import BigO.Number.Binary64

/-! UTF-7. Code points of ASCII stand for themselves; a plus opens a shift, in which the digits of
base 64 carry the units of UTF-16 in sixteen bits each, and any other byte closes it. -/

namespace BigO.Text.Utf7

/-- The value of a digit of base 64. -/
def digit? (b : UInt8) : Option Nat :=
  let n := b.toNat
  if 0x41 ≤ n ∧ n ≤ 0x5A then some (n - 0x41)
  else if 0x61 ≤ n ∧ n ≤ 0x7A then some (n - 0x47)
  else if 0x30 ≤ n ∧ n ≤ 0x39 then some (n + 4)
  else if n = 0x2B then some 62
  else if n = 0x2F then some 63
  else none

/-- What is open in a shift: the bits that do not yet make a unit, their number, and the first half
of a surrogate pair that waits for the second. -/
structure Shift where
  bits : Nat := 0
  count : Nat := 0
  high : Option CodePoint := none

namespace Shift

/-- The shift behind one more digit, and the code points that the digit completes. -/
def add (s : Shift) (digit : Nat) : List CodePoint × Shift :=
  let bits := s.bits * 64 + digit
  let count := s.count + 6
  if count < 16 then ([], { s with bits, count })
  else
    let unit := CodePoint.ofNat (bits / twoPow (count - 16))
    let open' : Shift := { bits := bits % twoPow (count - 16), count := count - 16 }
    match s.high with
    | some high =>
      if unit.isLowSurrogate then ([CodePoint.ofSurrogates high unit], open')
      else if unit.isHighSurrogate then ([high], { open' with high := some unit })
      else ([high, unit], open')
    | none =>
      if unit.isHighSurrogate then ([], { open' with high := some unit }) else ([unit], open')

/-- The bits that are left over make no unit: there are too many of them, or they are not zero. -/
def isRagged (s : Shift) : Bool := 6 ≤ s.count || s.bits != 0

end Shift

/-- Where a byte stands: outside a shift, right behind the plus that opens one, or in one. -/
inductive State where
  | direct
  | opened
  | shifted (shift : Shift)

/-- What a byte outside a shift gives, and where the next one stands. -/
def direct (b : UInt8) : List (Option CodePoint) × State :=
  if b.toNat = 0x2B then ([], .opened)
  else ([if b.toNat < 0x80 then some (CodePoint.ofNat b.toNat) else none], .direct)

/-- What the next digit of a shift gives. -/
def shifted (shift : Shift) (digit : Nat) : List (Option CodePoint) × State :=
  let (points, shift) := shift.add digit
  (points.map some, .shifted shift)

/-- What a byte gives that closes a shift. A hyphen is no more than that; other bytes also stand for
themselves. The bits left over must be none, and half a pair is kept where ASCII follows. -/
def close (shift : Shift) (b : UInt8) : List (Option CodePoint) × State :=
  if shift.isRagged then ([none], .direct)
  else
    let half := if b.toNat < 0x80 then (shift.high.map some).toList else []
    let (units, state) := if b.toNat = 0x2D then ([], .direct) else direct b
    (half ++ units, state)

/-- What a byte gives, and where the next one stands. -/
def step (b : UInt8) : State → List (Option CodePoint) × State
  | .direct => direct b
  | .opened =>
    match digit? b with
    | some digit => shifted {} digit
    | none => ([if b.toNat = 0x2D then some '+' else none], .direct)
  | .shifted shift =>
    match digit? b with
    | some digit => shifted shift digit
    | none => close shift b

/-- What the end of the bytes gives: a fault if a shift breaks off in the middle of a unit or a
pair. -/
def finish : State → List (Option CodePoint)
  | .shifted shift => if shift.high.isSome || shift.isRagged then [none] else []
  | _ => []

/-- Decodes from here on, behind the units `done` (the newest first). -/
def unitsFrom (done : List (Option CodePoint)) (state : State) :
    List UInt8 → List (Option CodePoint)
  | [] => done.reverse ++ finish state
  | b :: rest =>
    let (units, state) := step b state
    unitsFrom (units.reverse ++ done) state rest

end Utf7

/-- Decodes UTF-7. -/
def utf7Units (bytes : List UInt8) : List (Option CodePoint) := 
  Utf7.unitsFrom [] .direct bytes

end BigO.Text
