import BigO.Text.Decoding

/-! Tables of code points for charsets that take several bytes for one. The cells are numbered from
zero and stand in lines of 94. -/

namespace BigO.Text

/-- A table of code points. The mark for undecodable input stands in a cell without one, and a line
may end early. -/
structure Cells where
  lines : Array String

namespace Cells

/-- The code point in a cell. -/
def get? (t : Cells) (n : Nat) : Option CodePoint := do
  let line ← t.lines[n / 94]?
  (← (line.toList[n % 94]?).map CodePoint.ofChar).ifAssigned

/-- The code point in the cell that two bytes from 33 to 126 tell. -/
def square? (t : Cells) (a b : Nat) : Option CodePoint :=
  if 0x21 ≤ a ∧ a ≤ 0x7E ∧ 0x21 ≤ b ∧ b ≤ 0x7E then t.get? ((a - 0x21) * 94 + (b - 0x21))
  else none

/-- All code points in the order of their cells. -/
def points (t : Cells) : List CodePoint :=
  t.lines.toList.flatMap fun line =>
    (line.toList.map CodePoint.ofChar).filter (· ≠ .replacement)

end Cells

/-- The number of a byte among those of some ranges. -/
def numberIn (b : Nat) : List (Nat × Nat) → Option Nat
  | [] => none
  | (low, high) :: ranges =>
    if low ≤ b ∧ b ≤ high then some (b - low)
    else (numberIn b ranges).map (· + (high - low + 1))

/-- What is read at the front of some bytes: the units, how many bytes they take (at least one), and
the state behind them. The bytes may also be broken off in the middle of a sequence. -/
structure Step (σ : Type) where
  units : List (Option CodePoint)
  taken : Nat
  state : σ
  broken : Bool := false

namespace Step

variable {σ : Type}

/-- Code points that some bytes stand for. Where there is none the first byte is wrong. -/
def ofPoints (state : σ) (taken : Nat) : List CodePoint → Step σ
  | [] => { units := [none], taken := 1, state }
  | points => { units := points.map some, taken, state }

/-- Bytes that are wrong together. -/
def wrong (state : σ) (taken : Nat) : Step σ := { units := [none], taken, state }

/-- Bytes that stand for nothing. -/
def silent (state : σ) (taken : Nat) : Step σ := { units := [], taken, state }

/-- The bytes are broken off. -/
def cut (state : σ) : Step σ := { units := [none], taken := 1, state, broken := true }

end Step

/-- Units, and how many bytes at the end belong to a sequence that is broken off. -/
structure Decoded where
  units : List (Option CodePoint)
  broken : Nat

/-- Decodes step by step from here on, behind the units `done` (the newest first). The next `skip`
bytes belong to the step taken last. -/
def decodeFrom {σ : Type} (step : σ → List UInt8 → Step σ) (done : List (Option CodePoint))
    (state : σ) : (skip : Nat) → List UInt8 → Decoded
  | _, [] => { units := done.reverse, broken := 0 }
  | skip + 1, _ :: rest => decodeFrom step done state skip rest
  | 0, b :: rest =>
    let s := step state (b :: rest)
    if s.broken then { units := (none :: done).reverse, broken := rest.length + 1 }
    else decodeFrom step (s.units.reverse ++ done) s.state (s.taken - 1) rest

/-- Decodes without a state. -/
def decodeSteps (step : List UInt8 → Step Unit) (bytes : List UInt8) : Decoded :=
  decodeFrom (fun _ => step) [] () 0 bytes

/-- A step in a charset where a byte stands alone or a pair of bytes stands for something. Of a pair
that stands for nothing the first byte is wrong, and of one that is `lacking` both are. -/
def pairStepLacking (lacking : Nat → Nat → Bool) (single : Nat → Option CodePoint)
    (pair : Nat → Nat → List CodePoint) : List UInt8 → Step Unit
  | [] => .cut ()
  | a :: rest =>
    match single a.toNat, rest with
    | some point, _ => .ofPoints () 1 [point]
    | none, [] => .cut ()
    | none, b :: _ =>
      if lacking a.toNat b.toNat then .wrong () 2 else .ofPoints () 2 (pair a.toNat b.toNat)

/-- A step in a charset where a byte stands alone or a pair of bytes stands for something. -/
def pairStep : (Nat → Option CodePoint) → (Nat → Nat → List CodePoint) → List UInt8 → Step Unit :=
  pairStepLacking fun _ _ => false

/-- The bytes of ASCII stand alone. -/
def asciiSingle (b : Nat) : Option CodePoint := if b < 0x80 then some (CodePoint.ofNat b) else none

end BigO.Text
