import BigO.Text.Charset.Chinese
import BigO.Text.Charset.Japanese
import BigO.Text.Charset.Korean

/-! The forms of ISO 2022: charsets in seven bits, in which escape sequences say which tables the
bytes behind them are read with. -/

namespace BigO.Text.Iso2022

/-- The tables that an escape sequence may designate. -/
inductive Table where
  | ascii
  | jisRoman
  | katakana
  | latin1
  | greek
  | jisx0208
  | jisx0208First
  | jisx0212
  | jisx0213First (edition : Jisx0213Edition)
  | jisx0213Second
  | ksx1001
  | gb2312
deriving DecidableEq

namespace Table

/-- How many bytes a table takes for one place. -/
def width : Table → Nat
  | .ascii | .jisRoman | .katakana | .latin1 | .greek => 1
  | _ => 2

/-- The byte by which an escape sequence designates a table. -/
def mark : Table → Nat
  | .ascii => 0x42
  | .jisRoman => 0x4A
  | .katakana => 0x49
  | .latin1 => 0x41
  | .greek => 0x46
  | .jisx0208 => 0x42
  | .jisx0208First => 0x40
  | .jisx0212 => 0x44
  | .jisx0213First .first => 0x4F
  | .jisx0213First .second => 0x51
  | .jisx0213Second => 0x50
  | .ksx1001 => 0x43
  | .gb2312 => 0x41

/-- What bytes stand for in a table. The tables that have their letters above 127 stand for nothing
here. -/
def points (t : Table) (a b : Nat) : List CodePoint :=
  match t with
  | .ascii => (asciiSingle a).toList
  | .jisRoman => (Text.jisRoman a).toList
  | .katakana => (Text.katakana (a + 0x80)).toList
  | .latin1 | .greek => []
  | .jisx0208 | .jisx0208First => jisx0208Cell a b
  | .jisx0212 => (Cells.jisx0212.square? a b).toList
  | .jisx0213First edition => if edition.lacks a b then [] else jisx0213FirstCell a b
  | .jisx0213Second => (Cells.jisx0213Second.square? a b).toList
  | .ksx1001 => (Cells.ksx1001.square? a b).toList
  | .gb2312 => (Cells.gb2312.square? a b).toList

end Table

/-- A form of ISO 2022: the tables besides ASCII, whether shifts between two tables are known,
whether a third table is, and whether a prefix may announce a revised JIS X 0208. -/
structure Form where
  tables : List Table
  shifts : Bool := false
  third : Bool := false
  revised : Bool := true

/-- What the escape sequences so far have set up: the tables in the three places, whether the second
place is shifted in, and whether an unknown sequence goes on. -/
structure State where
  zero : Table := .ascii
  one : Table := .ascii
  two : Table := .ascii
  shifted : Bool := false
  escaping : Bool := false

/-- The byte that begins an escape sequence. -/
def esc : Nat := 0x1B

/-- A byte that ends an escape sequence. -/
def isEnd (b : Nat) : Bool := (0x41 ≤ b && b ≤ 0x5A) || b == 0x40

/-- The length of the escape sequence at the front, looked for from `at'` on: nothing where the
bytes break off, and zero where it is too long. A prefix of two bytes ends no sequence where a
revision may be announced. -/
def lengthFrom (revised : Bool) (bytes : Array UInt8) : (steps at' : Nat) → Option Nat
  | 0, _ => some 0
  | steps + 1, at' =>
    if 16 ≤ at' then some 0
    else
      match bytes[at']? with
      | none => none
      | some b =>
        if isEnd b.toNat then some (at' + 1)
        else if revised && b == 0x26 && bytes[at' + 1]? == some 0x40 then
          lengthFrom revised bytes steps (at' + 3)
        else lengthFrom revised bytes steps (at' + 1)

/-- The places that a table can be designated to. -/
inductive Place where
  | zero
  | one
  | two

/-- What an escape sequence of a known length designates: the mark, the width of the table, and the
place. -/
def designation? (form : Form) (sequence : List Nat) : Option (Nat × Nat × Place) :=
  match sequence with
  | [_, kind, mark] =>
    if kind = 0x24 then some (mark, 2, .zero)
    else if kind = 0x28 then some (mark, 1, .zero)
    else if kind = 0x29 then some (mark, 1, .one)
    else if kind = 0x2E && form.third then some (mark, 1, .two)
    else none
  | [_, kind, side, mark] =>
    if kind ≠ 0x24 then none
    else if side = 0x28 then some (mark, 2, .zero)
    else if side = 0x29 then some (mark, 2, .one)
    else none
  | [_, _, _, again, kind, mark] =>
    if form.revised && again == esc && kind == 0x24 && mark == 0x42 then some (mark, 2, .zero)
    else none
  | _ => none

/-- The table of a form that has a mark and a width. ASCII is in all forms. -/
def Form.table? (form : Form) (mark width : Nat) : Option Table :=
  (.ascii :: form.tables).find? fun t => t.mark = mark ∧ t.width = width

/-- Puts a table into a place. -/
def State.designate (s : State) (t : Table) : Place → State
  | .zero => { s with zero := t }
  | .one => { s with one := t }
  | .two => { s with two := t }

/-- A step over an escape sequence. -/
def sequenceStep (form : Form) (s : State) (bytes : List UInt8) : Step State :=
  let front := (bytes.take 24).toArray
  match lengthFrom form.revised front 16 1 with
  | none => .cut s
  | some 0 => .wrong s 1
  | some length =>
    let sequence := (bytes.take length).map (·.toNat)
    match designation? form sequence with
    | none => .wrong s length
    | some (mark, width, place) =>
      match form.table? mark width with
      | some t => .silent (s.designate t place) length
      | none => .wrong s length

/-- The symbols of Latin that the Greek table keeps. -/
def latinInGreek : List Nat :=
  [0xA0, 0xA3, 0xA6, 0xA7, 0xA8, 0xA9, 0xAB, 0xAC, 0xAD, 0xB0, 0xB1, 0xB2, 0xB3, 0xB7, 0xBB, 0xBD]

/-- The code point of a byte in the Greek table, whose letters stand above 159: the symbols of
Latin, two quotes and a dash, and the letters in the order of their code points. -/
def greekPoint (b : Nat) : Option CodePoint :=
  if b = 0xA1 then some (CodePoint.ofNat 0x2018)
  else if b = 0xA2 then some (CodePoint.ofNat 0x2019)
  else if b = 0xAF then some (CodePoint.ofNat 0x2015)
  else if b < 0xA0 ∨ latinInGreek.contains b then some (CodePoint.ofNat b)
  else if 0xB4 ≤ b ∧ b ≤ 0xFE ∧ b ≠ 0xD2 then some (CodePoint.ofNat (b + 0x2D0))
  else none

/-- What a byte stands for in the third place. -/
def thirdPoint (t : Table) (b : Nat) : List CodePoint :=
  match t with
  | .latin1 => if b < 0x80 then [CodePoint.ofNat (b + 0x80)] else []
  | .greek => (greekPoint (if b < 0x80 then b + 0x80 else b - 0x80)).toList
  | _ => (asciiSingle b).toList

/-- A step over a byte that is no escape sequence. -/
def plainStep (form : Form) (s : State) (b : UInt8) (rest : List UInt8) : Step State :=
  let n := b.toNat
  if n = 0x0F ∧ form.shifts then .silent { s with shifted := false } 1
  else if n = 0x0E ∧ form.shifts then .silent { s with shifted := true } 1
  else if n = 0x0A then .ofPoints { s with shifted := false } 1 [CodePoint.ofNat n]
  else if n < 0x20 then .ofPoints s 1 [CodePoint.ofNat n]
  else if 0x80 ≤ n then .wrong s 1
  else
    let t := if s.shifted then s.one else s.zero
    match t.width, rest with
    | 1, _ =>
      match t.points n 0 with
      | [] => .wrong s 1
      | points => .ofPoints s 1 points
    | _, [] => .cut s
    | _, c :: _ =>
      match t.points n c.toNat with
      | [] => .wrong s 2
      | points => .ofPoints s 2 points

/-- A step in a form of ISO 2022. -/
def step (form : Form) (s : State) : List UInt8 → Step State
  | [] => .cut s
  | b :: rest =>
    if s.escaping then
      .ofPoints { s with escaping := !isEnd b.toNat } 1 [CodePoint.ofNat b.toNat]
    else if b.toNat ≠ esc then plainStep form s b rest
    else
      match rest with
      | [] => .cut s
      | kind :: behind =>
        if [0x28, 0x29, 0x24, 0x2E, 0x26].contains kind.toNat then
          sequenceStep form s (b :: kind :: behind)
        else if form.third && kind.toNat == 0x4E then
          match behind with
          | [] => .cut s
          | c :: _ =>
            match thirdPoint s.two c.toNat with
            | [] => .wrong s 3
            | points => .ofPoints s 3 points
        else .ofPoints { s with escaping := true } 1 [CodePoint.ofNat esc]

/-- Decodes a form of ISO 2022. -/
def decode (form : Form) (bytes : List UInt8) : Decoded := decodeFrom (step form) [] {} 0 bytes

/-- The form of Korean. -/
def Form.korean : Form := { tables := [.ksx1001], shifts := true, revised := false }

/-- The first form of Japanese. -/
def Form.japanese : Form := { tables := [.jisx0208, .jisRoman, .jisx0208First] }

/-- The form of Japanese with JIS X 0212. -/
def Form.japanese1 : Form := { tables := [.jisx0208, .jisx0212, .jisRoman, .jisx0208First] }

/-- The form of Japanese with tables of other languages. -/
def Form.japanese2 : Form :=
  { tables := [.jisx0208, .jisx0212, .ksx1001, .gb2312, .jisRoman, .jisx0208First, .latin1, .greek]
    third := true }

/-- The form of Japanese with an edition of JIS X 0213. -/
def Form.japanese3 (edition : Jisx0213Edition) : Form :=
  { tables := [.jisx0208, .jisx0213First edition, .jisx0213Second] }

/-- The form of Japanese with katakana. -/
def Form.japaneseExtended : Form :=
  { tables := [.jisx0208, .jisx0212, .jisRoman, .katakana, .jisx0208First] }

end BigO.Text.Iso2022
