import BigO.Text.Decoding

/-! Punycode: the code points of ASCII come first, then behind the last hyphen a run of numbers that
tell where the other code points are put between them. -/

namespace BigO.Text.Punycode

/-- The value of a digit of base 36; letters come first. -/
def digit? (c : CodePoint) : Option Nat :=
  if 0x41 ≤ c.val ∧ c.val ≤ 0x5A then some (c.val - 0x41)
  else if 0x61 ≤ c.val ∧ c.val ≤ 0x7A then some (c.val - 0x61)
  else if c.isDigit then some (c.val - 0x30 + 26)
  else none

/-- The value from which on a digit is followed by another one, by the place of the digit. -/
def threshold (place bias : Nat) : Nat := min 26 (max 1 (36 * (place + 1) - bias))

/-- Reads a number of variable length: the number and the text behind it. -/
def numberFrom (bias : Nat) (value weight place : Nat) : Text → Option (Nat × Text)
  | [] => none
  | c :: rest =>
    match digit? c with
    | none => none
    | some digit =>
      let value := value + digit * weight
      let threshold := threshold place bias
      if digit < threshold then some (value, rest)
      else numberFrom bias value (weight * (36 - threshold)) (place + 1) rest

/-- Divides by 35 until at most 455 is left; `steps` bounds the divisions. -/
def damp (divisions : Nat) : (steps delta : Nat) → Nat × Nat
  | 0, delta => (divisions, delta)
  | steps + 1, delta =>
    if 455 < delta then damp (divisions + 36) steps (delta / 35) else (divisions, delta)

/-- The bias behind a number. -/
def adapt (delta : Nat) (first : Bool) (length : Nat) : Nat :=
  let delta := if first then delta / 700 else delta / 2
  let delta := delta + delta / length
  let (divisions, delta) := damp 0 delta delta
  divisions + 36 * delta / (delta + 38)

/-- The text so far, the code point put in last, the place behind it, and the bias that the next
number is read with. -/
structure Insertion where
  done : Text
  point : Nat := 0x80
  place : Nat := 0
  bias : Nat := 72
  first : Bool := true

/-- Puts the code point in that a number tells. With `lossy` a number beyond Unicode gives a
question mark; otherwise it gives nothing. -/
def Insertion.insert (s : Insertion) (lossy : Bool) (delta : Nat) : Option Insertion :=
  let length := s.done.length + 1
  let point := s.point + (s.place + delta) / length
  let place := (s.place + delta) % length
  if 0x110000 ≤ point ∧ lossy = false then none
  else
    let point := if point < 0x110000 then point else 0x3F
    some { done := s.done.take place ++ CodePoint.ofNat point :: s.done.drop place
           point
           place := place + 1
           bias := adapt delta s.first length
           first := false }

/-- Puts in the code points of a run of numbers. A number that is none ends the decoding, and
without `lossy` there is no result then. `steps` bounds the numbers and is never used up. -/
def insertAll (lossy : Bool) (s : Insertion) : (steps : Nat) → Text → Option Text
  | 0, _ => some s.done
  | _, [] => some s.done
  | steps + 1, numbers =>
    match numberFrom s.bias 0 1 0 numbers with
    | none => if lossy then some s.done else none
    | some (delta, rest) => (s.insert lossy delta).bind fun s => insertAll lossy s steps rest

/-- The bytes before the last hyphen and those behind it. -/
def split (bytes : List UInt8) : List UInt8 × List UInt8 :=
  let numbers := (bytes.reverse.takeWhile fun b => b.toNat ≠ 0x2D).reverse
  (bytes.take (bytes.length - numbers.length - 1), numbers)

/-- The numbers are not written in ASCII. -/
def notAscii (place : Nat) (b : UInt8) : Undecodable :=
  { codec := text "ascii", bytes := [b], place, reason := text "ordinal not in range(128)" }

/-- Decodes with a mark for each byte before the numbers that is not in ASCII; such a byte among the
numbers is a fault. -/
def decodeLossy (bytes : List UInt8) : Except Undecodable Text :=
  let (base, numbers) := split bytes
  match faultFrom asciiUnit 0 0 numbers with
  | some (place, _, rest) => .error (notAscii place (rest.headD 0))
  | none =>
    let numbers := lossy (units asciiUnit numbers)
    .ok ((insertAll true { done := lossy (units asciiUnit base) } numbers.length numbers).getD [])

/-- Decodes, if nothing at all is wrong. -/
def decode? (bytes : List UInt8) : Option Text := do
  let (base, numbers) := split bytes
  let numbers ← strict? (units asciiUnit numbers)
  insertAll false { done := ← strict? (units asciiUnit base) } numbers.length numbers

end Punycode

end BigO.Text
