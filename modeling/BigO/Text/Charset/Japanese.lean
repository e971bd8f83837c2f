import BigO.Text.Charset.Jisx0208
import BigO.Text.Charset.Jisx0212
import BigO.Text.Charset.Jisx0213
import BigO.Text.Charset.Windows932

/-! The charsets of Japanese: EUC-JP and Shift JIS write the tables JIS X 0208, 0212 and 0213 and
the katakana of JIS X 0201 in two ways. -/

namespace BigO.Text

/-! ### The tables -/

/-- The half-width katakana of JIS X 0201. -/
def katakana (b : Nat) : Option CodePoint :=
  if 0xA1 ≤ b ∧ b ≤ 0xDF then some (CodePoint.ofNat (0xFEC0 + b)) else none

/-- The Roman letters of JIS X 0201, which has a yen sign and an overline in ASCII. -/
def jisRoman (b : Nat) : Option CodePoint :=
  if b = 0x5C then some (CodePoint.ofNat 0xA5)
  else if b = 0x7E then some (CodePoint.ofNat 0x203E)
  else asciiSingle b

/-- The cells of JIS X 0208. -/
def jisx0208Cell (a b : Nat) : List CodePoint := (Cells.jisx0208.square? a b).toList

/-- The editions of JIS X 0213. -/
inductive Jisx0213Edition where
  | first
  | second
deriving DecidableEq

/-- The cells of the first plane of JIS X 0213 that stand for a base and a mark behind it: the row,
the first cell, and the bases. -/
def jisx0213Marked : List (Nat × Nat × String × String) := [
  (0x24, 0x77, "かきくけこ", "\u309a"), (0x25, 0x77, "カキクケコセツト", "\u309a"),
  (0x26, 0x78, "ㇷ", "\u309a"), (0x2B, 0x44, "æ", "\u0300"), (0x2B, 0x48, "ɔ", "\u0300"),
  (0x2B, 0x49, "ɔ", "\u0301"), (0x2B, 0x4A, "ʌ", "\u0300"), (0x2B, 0x4B, "ʌ", "\u0301"),
  (0x2B, 0x4C, "ə", "\u0300"), (0x2B, 0x4D, "ə", "\u0301"), (0x2B, 0x4E, "ɚ", "\u0300"),
  (0x2B, 0x4F, "ɚ", "\u0301"), (0x2B, 0x65, "˩", "˥"), (0x2B, 0x66, "˥", "˩")]

/-- The base and the mark of a cell. -/
def jisx0213Pair (a b : Nat) : List CodePoint :=
  (jisx0213Marked.findSome? fun (row, cell, bases, mark) =>
    if a = row ∧ cell ≤ b then
      (bases.toList[b - cell]?).map fun base => CodePoint.ofChar base :: text mark
    else none).getD []

/-- Whether a cell of the first plane is one that the second edition added. -/
def isAddedCell (a b : Nat) : Bool :=
  [(0x2E, 0x21), (0x2F, 0x7E), (0x4F, 0x54), (0x4F, 0x7E), (0x74, 0x27), (0x7E, 0x7A), (0x7E, 0x7B),
    (0x7E, 0x7C), (0x7E, 0x7D), (0x7E, 0x7E)].contains (a, b)

/-- Whether an edition lacks a cell of the first plane. -/
def Jisx0213Edition.lacks (edition : Jisx0213Edition) (a b : Nat) : Bool :=
  edition == .first && isAddedCell a b

/-- The cells of the first plane of JIS X 0213. -/
def jisx0213FirstCell (a b : Nat) : List CodePoint :=
  match Cells.jisx0208.square? a b <|> Cells.jisx0213First.square? a b with
  | some point => [point]
  | none => jisx0213Pair a b

/-- The cells of the second plane of JIS X 0213, of which the editions have one in two forms. -/
def jisx0213SecondCell (edition : Jisx0213Edition) (a b : Nat) : Option CodePoint :=
  if edition = .first ∧ a = 0x7D ∧ b = 0x3B then some (CodePoint.ofNat 0x9B1D)
  else Cells.jisx0213Second.square? a b

/-! ### EUC -/

/-- A step in a form of EUC: pairs of a first table, katakana behind 142, and pairs of a second
table behind 143. -/
def eucStep (lacks : Nat → Nat → Bool) (first : Nat → Nat → List CodePoint)
    (second : Nat → Nat → Option CodePoint) : List UInt8 → Step Unit
  | [] => .cut ()
  | a :: rest =>
    if a.toNat = 0x8F then
      match rest with
      | b :: c :: _ => .ofPoints () 3 (second (b.toNat - 0x80) (c.toNat - 0x80)).toList
      | _ => .cut ()
    else
      pairStepLacking (fun a b => lacks (a - 0x80) (b - 0x80)) asciiSingle (fun a b =>
        if a = 0x8E then (katakana b).toList else first (a - 0x80) (b - 0x80)) (a :: rest)

/-- A step in EUC-JP. -/
def eucJpStep : List UInt8 → Step Unit :=
  eucStep (fun _ _ => false) jisx0208Cell Cells.jisx0212.square?

/-- The cells of the first plane of JIS X 0213 in EUC, where the tilde is wide. -/
def eucJisCell (a b : Nat) : List CodePoint :=
  if a = 0x22 ∧ b = 0x32 then [CodePoint.ofChar '～'] else jisx0213FirstCell a b

/-- A step in EUC with JIS X 0213, whose second plane leaves room for JIS X 0212. -/
def eucJisStep (edition : Jisx0213Edition) : List UInt8 → Step Unit :=
  eucStep edition.lacks eucJisCell fun a b =>
    jisx0213SecondCell edition a b <|> Cells.jisx0212.square? a b

/-! ### Shift JIS -/

/-- The second bytes of Shift JIS. -/
def shiftSeconds : List (Nat × Nat) := [(0x40, 0x7E), (0x80, 0xFC)]

/-- The number of the row from zero and the cell that a pair of Shift JIS tells. Each first byte has
two rows. -/
def shiftPlace (a b : Nat) : Option (Nat × Nat) := do
  let row ← numberIn a [(0x81, 0x9F), (0xE0, 0xFC)]
  let n ← numberIn b shiftSeconds
  return (2 * row + n / 94, n % 94 + 0x21)

/-- The bytes that stand alone in Shift JIS. -/
def shiftSingle (b : Nat) : Option CodePoint := asciiSingle b <|> katakana b

/-- The pairs of Shift JIS. -/
def shiftPair (a b : Nat) : List CodePoint :=
  ((shiftPlace a b).map fun (row, cell) => jisx0208Cell (row + 0x21) cell).getD []

/-- The bytes that stand alone in the code page 932, some of them for private use. -/
def windows932Single (b : Nat) : Option CodePoint :=
  if b = 0xA0 then some (CodePoint.ofNat 0xF8F0)
  else if 0xFD ≤ b then some (CodePoint.ofNat (0xF8F1 + (b - 0xFD)))
  else if b = 0x80 then some (CodePoint.ofNat 0x80)
  else shiftSingle b

/-- The cells in which the code page 932 differs from Shift JIS. -/
def windows932Cells : List (Nat × Nat × Nat) := [
  (0x81, 0x60, 0xFF5E), (0x81, 0x61, 0x2225), (0x81, 0x7C, 0xFF0D), (0x81, 0x91, 0xFFE0),
  (0x81, 0x92, 0xFFE1), (0x81, 0xCA, 0xFFE2)]

/-- The first bytes of what the code page 932 adds. -/
def windows932Firsts : List (Nat × Nat) := [(0x87, 0x87), (0xED, 0xEE), (0xFA, 0xFC)]

/-- The pairs that the code page 932 adds. -/
def windows932Outside (a b : Nat) : Option CodePoint := do
  let row ← numberIn a windows932Firsts
  let n ← numberIn b shiftSeconds
  Cells.windows932.get? (row * 188 + n)

/-- The pairs for private use in the code page 932. -/
def windows932Private (a b : Nat) : Option CodePoint := do
  let n ← numberIn b shiftSeconds
  if 0xF0 ≤ a ∧ a ≤ 0xF9 then some (CodePoint.ofNat (0xE000 + 188 * (a - 0xF0) + n)) else none

/-- The pairs of the code page 932. -/
def windows932Pair (a b : Nat) : List CodePoint :=
  match windows932Cells.find? fun cell => cell.1 = a ∧ cell.2.1 = b with
  | some cell => [CodePoint.ofNat cell.2.2]
  | none =>
    match windows932Outside a b <|> windows932Private a b with
    | some point => [point]
    | none => shiftPair a b

/-- The bytes that stand alone in Shift JIS with JIS X 0213. -/
def shiftJisSingle (b : Nat) : Option CodePoint := jisRoman b <|> katakana b

/-- The row of the second plane of JIS X 0213 behind the 94 rows of the first one. -/
def secondPlaneRow (row : Nat) : Nat :=
  if 0x67 ≤ row then row + 0x07
  else if 0x63 ≤ row ∨ row = 0x5F then row - 0x37
  else row - 0x3D

/-- The pairs of Shift JIS with JIS X 0213. The bytes that stand alone lack the backslash, so the
cell of the wide one stands for it. -/
def shiftJisPair (edition : Jisx0213Edition) (a b : Nat) : List CodePoint :=
  match shiftPlace a b with
  | some (row, cell) =>
    if row = 0 ∧ cell = 0x40 then [CodePoint.ofChar '\\']
    else if row < 94 then jisx0213FirstCell (row + 0x21) cell
    else (jisx0213SecondCell edition (secondPlaneRow row) cell).toList
  | none => []

/-- A step in Shift JIS with JIS X 0213. -/
def shiftJisStep (edition : Jisx0213Edition) : List UInt8 → Step Unit :=
  pairStepLacking
    (fun a b => (shiftPlace a b).any fun (row, cell) => edition.lacks (row + 0x21) cell)
    shiftJisSingle (shiftJisPair edition)

end BigO.Text
