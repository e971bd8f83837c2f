import BigO.Text.WordRanges

/-! Text as a sequence of code points. A surrogate may stand alone in a text, so a code point is a
number below `0x110000` and not a character. This module holds the code points, their two classes
that patterns speak of (blanks and word characters), and lines. -/

namespace BigO

/-- A Unicode code point, surrogates included. -/
structure CodePoint where
  val : Nat
  lt : val < 0x110000 := by decide
deriving DecidableEq

namespace CodePoint

/-- The code point of a character. -/
def ofChar (c : Char) : CodePoint :=
  ⟨c.toNat, c.valid.elim (fun h => Nat.lt_trans h (by decide)) (·.2)⟩

instance : Coe Char CodePoint := ⟨ofChar⟩

/-- The mark that stands for undecodable input. -/
def replacement : CodePoint := { val := 0xFFFD }

/-- The code point with this number; a number that has none gives the mark for undecodable input. -/
def ofNat (n : Nat) : CodePoint :=
  if h : n < 0x110000 then ⟨n, h⟩ else replacement

/-- The code point, unless it is the mark for undecodable input. -/
def ifAssigned (c : CodePoint) : Option CodePoint := if c = replacement then none else some c

/-- The double quotation mark. -/
def doubleQuote : CodePoint := { val := 0x22 }

/-- The single quotation mark. -/
def singleQuote : CodePoint := { val := 0x27 }

/-- The grave accent. -/
def backtick : CodePoint := { val := 0x60 }

/-- The opening brace. -/
def openBrace : CodePoint := { val := 0x7B }

/-- The closing brace. -/
def closeBrace : CodePoint := { val := 0x7D }

/-- The byte order mark. -/
def orderMark : CodePoint := { val := 0xFEFF }

/-- The first halves of surrogate pairs. -/
def isHighSurrogate (c : CodePoint) : Bool := 0xD800 ≤ c.val && c.val < 0xDC00

/-- The second halves of surrogate pairs. -/
def isLowSurrogate (c : CodePoint) : Bool := 0xDC00 ≤ c.val && c.val < 0xE000

/-- A surrogate is no character of its own. -/
def isSurrogate (c : CodePoint) : Bool := 0xD800 ≤ c.val && c.val < 0xE000

/-- The code point that a pair of surrogates stands for. -/
def ofSurrogates (high low : CodePoint) : CodePoint :=
  ofNat (0x10000 + (high.val - 0xD800) * 0x400 + (low.val - 0xDC00))

/-- The decimal digits of ASCII. -/
def isDigit (c : CodePoint) : Bool := 0x30 ≤ c.val && c.val ≤ 0x39

/-- The letters of ASCII. -/
def isLetter (c : CodePoint) : Bool :=
  (0x41 ≤ c.val && c.val ≤ 0x5A) || (0x61 ≤ c.val && c.val ≤ 0x7A)

/-- An ASCII letter in lower case. -/
def lowerAscii (c : CodePoint) : CodePoint :=
  if 0x41 ≤ c.val ∧ c.val ≤ 0x5A then ofNat (c.val + 0x20) else c

/-- The code points with the property `White_Space`. -/
def isWhiteSpace (c : CodePoint) : Bool :=
  (0x09 ≤ c.val && c.val ≤ 0x0D) || c.val == 0x20 || c.val == 0x85 || c.val == 0xA0 ||
    c.val == 0x1680 || (0x2000 ≤ c.val && c.val ≤ 0x200A) || c.val == 0x2028 || c.val == 0x2029 ||
    c.val == 0x202F || c.val == 0x205F || c.val == 0x3000

/-- Blanks: the white space of Unicode and the four information separators of ASCII. -/
def isBlank (c : CodePoint) : Bool :=
  c.isWhiteSpace || (0x1C ≤ c.val && c.val ≤ 0x1F)

/-- Word characters: the letters and numbers of all scripts and the underscore. -/
def isWord (c : CodePoint) : Bool :=
  if c.val < 0x80 then c.isLetter || c.isDigit || c.val == 0x5F
  else Text.wordRanges.contains c.val

end CodePoint

/-- A text: its code points in order. -/
abbrev Text := List CodePoint

/-- The text of a string. -/
def text (s : String) : Text := s.toList.map CodePoint.ofChar

namespace Text

/-- Decimal digits, least significant first, below which `done` already stands. -/
def digitsFrom (done : Text) : (steps n : Nat) → Text
  | 0, _ => done
  | steps + 1, n =>
    let d := CodePoint.ofNat (0x30 + n % 10)
    if n < 10 then d :: done else digitsFrom (d :: done) steps (n / 10)

/-- A number in decimal. -/
def ofNat (n : Nat) : Text := digitsFrom [] (n + 1) n

/-- An integer in decimal, a minus sign before a negative one. -/
def ofInt : Int → Text
  | .ofNat n => ofNat n
  | .negSucc n => CodePoint.ofChar '-' :: ofNat (n + 1)

/-- The text without the blanks at its front. -/
def stripLeft (t : Text) : Text := t.dropWhile CodePoint.isBlank

/-- The text without the blanks at its end. -/
def stripRight (t : Text) : Text := (t.reverse.dropWhile CodePoint.isBlank).reverse

/-- The text without the blanks at both ends. -/
def strip (t : Text) : Text := stripRight (stripLeft t)

/-- One code point in front of a list of lines: a line break begins a line, all else joins the
first. -/
def consToLines (c : CodePoint) : List Text → List Text
  | [] => [[c]]
  | line :: lines => if c = '\n' then [] :: line :: lines else (c :: line) :: lines

/-- The lines of a text: the parts between line feeds, so a text without one is a single line. -/
def lines (t : Text) : List Text := t.foldr consToLines [[]]

/-- How many lines a text has. -/
def countLines (t : Text) : Nat := t.count (CodePoint.ofChar '\n') + 1

/-- How many blanks a line begins with. -/
def leadingBlanks (line : Text) : Nat := (line.takeWhile CodePoint.isBlank).length

/-- The parts of a text between separators. -/
def splitOn (separator : CodePoint) (t : Text) : List Text :=
  t.foldr (fun c parts =>
    match parts with
    | [] => [[c]]
    | part :: parts => if c = separator then [] :: part :: parts else (c :: part) :: parts) [[]]

/-- The texts one after the other with a separator between them. -/
def join (separator : Text) (parts : List Text) : Text := List.intercalate separator parts

/-- The text as a string. A lone surrogate has no character and becomes NUL. -/
def toString (t : Text) : String := String.ofList (t.map fun c => Char.ofNat c.val)

/-- No surrogate stands alone in the text. -/
def wellFormed (t : Text) : Bool := t.all (!·.isSurrogate)

end Text

end BigO
