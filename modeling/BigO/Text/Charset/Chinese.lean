import BigO.Text.Charset.Gb2312
import BigO.Text.Charset.Gbk
import BigO.Text.Charset.Gb18030
import BigO.Text.Charset.Big5
import BigO.Text.Charset.Hkscs

/-! The charsets of Chinese. GB 2312 goes on in GBK and GB 18030, Big5 in the code page 950 and in
the supplement for Hong Kong; each of them keeps ASCII. -/

namespace BigO.Text

/-! ### Simplified Chinese -/

/-- The pairs of GB 2312. -/
def gb2312Pair (a b : Nat) : Option CodePoint := Cells.gb2312.square? (a - 0x80) (b - 0x80)

/-- The second bytes of GBK. -/
def gbkSeconds : List (Nat × Nat) := [(0x40, 0x7E), (0x80, 0xFE)]

/-- The first of the unified ideographs and their number in GBK. -/
def firstIdeograph : Nat := 0x4E00

/-- How many unified ideographs GBK has. -/
def ideographCount : Nat := 20902

/-- Which unified ideographs are in GB 2312. -/
def inGb2312 : Array Bool :=
  Cells.gb2312.points.foldl (fun marks c =>
    if firstIdeograph ≤ c.val then marks.setIfInBounds (c.val - firstIdeograph) true else marks)
    (Array.replicate ideographCount false)

/-- The ideographs that GBK adds: the other unified ones in order, and some for compatibility. -/
def gbkIdeographs : Array CodePoint :=
  (((List.range ideographCount).filter fun n => !inGb2312.getD n true).map fun n =>
    CodePoint.ofNat (firstIdeograph + n)).toArray ++
  ([0xF92C, 0xF979, 0xF995, 0xF9E7, 0xF9F1, 0xFA0C, 0xFA0D, 0xFA0E, 0xFA0F, 0xFA11, 0xFA13,
    0xFA14, 0xFA18, 0xFA1F, 0xFA20, 0xFA21, 0xFA23, 0xFA24, 0xFA27, 0xFA28, 0xFA29].map
      CodePoint.ofNat).toArray

/-- The single cells that GBK adds inside the square of GB 2312, or changes there. -/
def gbkCells : List (Nat × Nat × String) := [
  (0xA1, 0xA4, "\u00b7"), (0xA1, 0xAA, "—"), (0xA2, 0xA1, "ⅰⅱⅲⅳⅴⅵⅶⅷⅸⅹ"),
  (0xA6, 0xE0, "︵︶︹︺︿﹀︽︾﹁﹂﹃﹄"), (0xA6, 0xEE, "︻︼︷︸︱�︳︴"), (0xA8, 0xBB, "ɑ�ńň�ɡ")]

/-- The code point of a pair among single cells: each entry has a first byte, the second byte that
its code points begin at, and the code points. -/
def cellAmong (entries : List (Nat × Nat × String)) (a b : Nat) : Option CodePoint :=
  entries.findSome? fun (first, second, points) =>
    if a = first ∧ second ≤ b then
      (points.toList[b - second]?).bind fun c => (CodePoint.ofChar c).ifAssigned
    else none

/-- The pairs that GBK has outside the square of GB 2312. -/
def gbkOutside (a b : Nat) : Option CodePoint := do
  let n ← numberIn b gbkSeconds
  if 0x81 ≤ a ∧ a ≤ 0xA0 then gbkIdeographs[(a - 0x81) * 190 + n]?
  else if 0xA0 < b then none
  else if a = 0xA8 ∨ a = 0xA9 then Cells.gbkSymbols.get? ((a - 0xA8) * 96 + n)
  else if 0xAA ≤ a ∧ a ≤ 0xFE then gbkIdeographs[0x20 * 190 + (a - 0xAA) * 96 + n]?
  else none

/-- The pairs of GBK. -/
def gbkPair (a b : Nat) : Option CodePoint :=
  cellAmong gbkCells a b <|> gb2312Pair a b <|> gbkOutside a b

/-- The pairs for private use in GB 18030. -/
def gb18030Private (a b : Nat) : Option Nat := do
  let n ← numberIn b gbkSeconds
  if 0xAA ≤ a ∧ a ≤ 0xAF ∧ 0xA1 ≤ b then some (0xE000 + (a - 0xAA) * 94 + (b - 0xA1))
  else if 0xF8 ≤ a ∧ a ≤ 0xFE ∧ 0xA1 ≤ b then some (0xE234 + (a - 0xF8) * 94 + (b - 0xA1))
  else if 0xA1 ≤ a ∧ a ≤ 0xA7 ∧ b ≤ 0xA0 then some (0xE4C6 + (a - 0xA1) * 96 + n)
  else none

/-- The number of a pair among the gaps of GBK. -/
def gapNumber (a b : Nat) : List (Nat × Nat × Nat) → Option Nat
  | [] => none
  | (first, low, high) :: gaps => do
    let start ← numberIn low gbkSeconds
    let stop ← numberIn high gbkSeconds
    match numberIn b gbkSeconds with
    | some n =>
      if a = first ∧ start ≤ n ∧ n ≤ stop then some (n - start)
      else (gapNumber a b gaps).map (· + (stop - start + 1))
    | none => none

/-- The pairs that GB 18030 adds in the gaps: code points of their own, or for private use. -/
def gb18030Gap (a b : Nat) : Option CodePoint :=
  (gapNumber a b gb18030Gaps).map fun n =>
    (Cells.gb18030Named.get? n).getD (CodePoint.ofNat (0xE766 + n))

/-- The pairs of GB 18030. -/
def gb18030Pair (a b : Nat) : Option CodePoint :=
  gbkPair a b <|> (gb18030Private a b).map CodePoint.ofNat <|> gb18030Gap a b

/-- The code point of the basic plane that a sequence of four bytes stands for, by its number. -/
def gb18030Basic (n : Nat) : Option CodePoint :=
  (gb18030Runs.reverse.find? fun run => run.1 ≤ n).map fun run =>
    CodePoint.ofNat (run.2 + (n - run.1))

/-- A sequence of four bytes whose second and fourth are digits. -/
def gb18030Four (a b c d : Nat) : List CodePoint :=
  if a < 0x81 ∨ c < 0x81 ∨ 0xFE < a ∨ 0xFE < c ∨ d < 0x30 ∨ 0x39 < d then []
  else
    let low := ((b - 0x30) * 126 + (c - 0x81)) * 10 + (d - 0x30)
    if a < 0x85 then
      let n := (a - 0x81) * 12600 + low
      if n < 39420 then (gb18030Basic n).toList else []
    else if 0x90 ≤ a then
      let point := 0x10000 + (a - 0x90) * 12600 + low
      if point < 0x110000 then [CodePoint.ofNat point] else []
    else []

/-- A step in GB 18030. -/
def gb18030Step : List UInt8 → Step Unit
  | a :: b :: rest =>
    if 0x80 ≤ a.toNat ∧ 0x30 ≤ b.toNat ∧ b.toNat ≤ 0x39 then
      match rest with
      | c :: d :: _ => .ofPoints () 4 (gb18030Four a.toNat b.toNat c.toNat d.toNat)
      | _ => .cut ()
    else pairStep asciiSingle (fun a b => (gb18030Pair a b).toList) (a :: b :: rest)
  | bytes => pairStep asciiSingle (fun a b => (gb18030Pair a b).toList) bytes

/-- A step in HZ, which writes GB 2312 in seven bits between a tilde with an opening brace and a
tilde with a closing one; the state tells whether GB 2312 is written. -/
def hzStep (shifted : Bool) : List UInt8 → Step Bool
  | [] => .cut shifted
  | a :: rest =>
    if a.toNat = 0x7E then
      match rest with
      | [] => .cut shifted
      | b :: _ =>
        if shifted then
          if b.toNat = 0x7D then .silent false 2 else .wrong shifted 1
        else if b.toNat = 0x7E then .ofPoints shifted 2 [CodePoint.ofChar '~']
        else if b.toNat = 0x7B then .silent true 2
        else if b.toNat = 0x0A then .silent shifted 2
        else .wrong shifted 1
    else if 0x80 ≤ a.toNat then .wrong shifted 1
    else if !shifted then .ofPoints shifted 1 [CodePoint.ofNat a.toNat]
    else
      match rest with
      | [] => .cut shifted
      | b :: _ => .ofPoints shifted 2 (Cells.gb2312.square? a.toNat b.toNat).toList

/-! ### Traditional Chinese -/

/-- The second bytes of Big5. -/
def big5Seconds : List (Nat × Nat) := [(0x40, 0x7E), (0xA1, 0xFE)]

/-- The pairs of Big5. -/
def big5Pair (a b : Nat) : Option CodePoint := do
  let n ← numberIn b big5Seconds
  if 0xA1 ≤ a ∧ a ≤ 0xF9 then Cells.big5.get? ((a - 0xA1) * 157 + n) else none

/-- The cells in which the code page 950 differs from Big5. -/
def windows950Cells : List (Nat × Nat × String) := [
  (0xA1, 0x45, "‧"), (0xA1, 0x4E, "﹑"), (0xA1, 0xC2, "¯"), (0xA1, 0xE3, "～"), (0xA1, 0xF2, "⊕⊙"),
  (0xA2, 0x41, "∕﹨�￥�￠￡"), (0xA3, 0xE1, "€"),
  (0xF9, 0xD6, "碁銹裏墻恒粧嫺╔╦╗╠╬╣╚╩╝╒╤╕╞╪╡╘╧╛╓╥╖╟╫╢╙╨╜║═╭╮╰╯▓")]

/-- The pairs of the code page 950. -/
def windows950Pair (a b : Nat) : Option CodePoint :=
  cellAmong windows950Cells a b <|> big5Pair a b

/-- The first bytes of the supplement for Hong Kong. -/
def hkscsFirsts : List (Nat × Nat) := [(0x87, 0xA0), (0xC6, 0xC8), (0xF9, 0xFE)]

/-- The pairs of the supplement that stand for a letter and a mark above it. -/
def hkscsMarked (a b : Nat) : List CodePoint :=
  if a ≠ 0x88 then []
  else if b = 0x62 then text "\u00ca\u0304"
  else if b = 0x64 then text "\u00ca\u030c"
  else if b = 0xA3 then text "\u00ea\u0304"
  else if b = 0xA5 then text "\u00ea\u030c"
  else []

/-- The pairs of the supplement. -/
def hkscsPair (a b : Nat) : Option CodePoint := do
  let row ← numberIn a hkscsFirsts
  let n ← numberIn b big5Seconds
  Cells.hkscs.get? (row * 157 + n)

/-- The pairs of Big5 with the supplement, which takes the place of the letters that some have put
behind the symbols of Big5. -/
def big5HkscsPair (a b : Nat) : List CodePoint :=
  let replaced := (a = 0xC6 ∧ 0xA1 ≤ b) ∨ a = 0xC7 ∨ a = 0xC8
  match if replaced then none else big5Pair a b with
  | some point => [point]
  | none =>
    match hkscsPair a b with
    | some point => [point]
    | none => hkscsMarked a b

end BigO.Text
