import BigO.Number.Shortest

/-! Numbers and truth values as people write them in settings: blanks around them, signs, leading
zeros, single underscores between digits. -/

namespace BigO.Lenient

/-- The text without white space at its ends. -/
def trim (t : Text) : Text :=
  ((t.dropWhile CodePoint.isWhiteSpace).reverse.dropWhile CodePoint.isWhiteSpace).reverse

/-- The number that digits stand for, single underscores between them left out. `expectDigit` says
that a digit must come next. -/
def groupedDigits (value : Nat) (expectDigit : Bool) : Text → Option Nat
  | [] => if expectDigit then none else some value
  | c :: rest =>
    if c.isDigit then groupedDigits (value * 10 + (c.val - 0x30)) false rest
    else if c = '_' ∧ expectDigit = false then groupedDigits value true rest
    else none

/-- A sign, if there is one: whether it is a minus, and the text behind it. -/
def splitSign : Text → Bool × Text
  | [] => (false, [])
  | c :: rest =>
    if c = '-' then (true, rest) else if c = '+' then (false, rest) else (false, c :: rest)

/-- Why a text is not read as an integer. -/
inductive IntegerFault where
  | noInteger
  | tooLong
deriving DecidableEq

/-- The most digits that an integer may have. -/
def digitLimit : Nat := 4300

/-- Reads an integer in its plain form: an optional minus and digits, of which only a lone zero
begins with one. The minus counts towards the limit, and a run of digits above the limit is too long
whatever stands behind it. -/
def readPlainInteger (t : Text) : Except IntegerFault Int :=
  let negative := decide (t.head? = some (CodePoint.ofChar '-'))
  let unsigned := if negative then t.drop 1 else t
  let digits := unsigned.takeWhile CodePoint.isDigit
  if digits.isEmpty then .error .noInteger
  else if digits.head? = some (CodePoint.ofChar '0') then
    if unsigned.length = 1 then .ok 0 else .error .noInteger
  else if digitLimit < digits.length + (if negative then 1 else 0) then .error .tooLong
  else if digits.length < unsigned.length then .error .noInteger
  else
    let n : Int := digits.foldl (fun n d => n * 10 + (d.val - 0x30)) 0
    .ok (if negative then -n else n)

/-- Two underscores stand side by side. -/
def hasDoubleUnderscore : Text → Bool
  | c :: d :: rest => (c = '_' && d = '_') || hasDoubleUnderscore (d :: rest)
  | _ => false

/-- The text without its underscores, if they all stand single and inside it. -/
def dropUnderscores (t : Text) : Option Text :=
  let underscore := CodePoint.ofChar '_'
  if t.head? = some underscore ∨ t.getLast? = some underscore ∨ hasDoubleUnderscore t then none
  else some (t.filter (· ≠ underscore))

/-- The text without a plus at its front; a minus may not follow it. -/
def dropPlus : Text → Option Text
  | [] => some []
  | c :: rest =>
    if c = '+' then
      if rest.head? = some (CodePoint.ofChar '-') then none else some rest
    else some (c :: rest)

/-- The text behind leading zeros and the underscores among them, of which the last one read is
`last`. It goes on with another digit, a minus or a point; one zero is kept before a point or at the
end. -/
def dropZeros (last : CodePoint) : Text → Option Text
  | [] => some [last]
  | c :: rest =>
    if c = '0' ∨ c = '_' then dropZeros c rest
    else if c.isDigit ∨ c = '-' then some (c :: rest)
    else if c = '.' then some (last :: c :: rest)
    else none

/-- The text without leading zeros. It has to begin with a digit or a minus. -/
def dropLeadingZeros : Text → Option Text
  | [] => none
  | c :: rest =>
    if c = '0' then dropZeros c rest
    else if c.isDigit ∨ c = '-' then some (c :: rest)
    else none

/-- The text without a point and the zeros behind it, of which there is at least one. -/
def dropZeroFraction (t : Text) : Text :=
  let whole := t.takeWhile fun (c : CodePoint) => c ≠ '.'
  let fraction := t.drop (whole.length + 1)
  if !fraction.isEmpty && fraction.all fun (c : CodePoint) => c = '0' then whole else t

/-- The plain form of an integer that is written with more freedom: with blanks around it, a plus,
or leading zeros, a fraction of zeros, and single underscores inside. -/
def plainForm (t : Text) : Option Text := do
  let significant := dropZeroFraction (← dropLeadingZeros (← dropPlus (trim t)))
  return (dropUnderscores significant).getD significant

/-- Reads an integer, in its plain form or with more freedom. A plain one may be too long; one that
is too long only when freed of its ornaments is none. -/
def readInteger (t : Text) : Except IntegerFault Int :=
  match readPlainInteger t with
  | .error .noInteger =>
    ((plainForm t).elim (.error .noInteger) readPlainInteger).mapError fun _ => .noInteger
  | result => result

/-- Reads an integer as header fields carry them: a sign, digits with single underscores, and blanks
around them. In a text of ASCII only the six blanks of ASCII count. -/
def readHeaderInteger (t : Text) : Option Int :=
  let ascii := t.all fun (c : CodePoint) => c.val < 0x80
  let isBlank := fun (c : CodePoint) =>
    if ascii then (0x09 ≤ c.val && c.val ≤ 0x0D) || c.val == 0x20
    else (0x09 ≤ c.val && c.val ≤ 0x0D) || c.val == 0x20 || (0x80 ≤ c.val && c.isBlank)
  let trimmed := ((t.dropWhile isBlank).reverse.dropWhile isBlank).reverse
  let (negative, digits) := splitSign trimmed
  match groupedDigits 0 true digits with
  | none => none
  | some n =>
    if digitLimit < (digits.filter CodePoint.isDigit).length then none
    else some (if negative then -(n : Int) else n)

/-- The exponent of a decimal number: nothing, or an `e` with a signed run of digits behind it. -/
def readExponent : Text → Option Int
  | [] => some 0
  | c :: rest =>
    if c = 'e' ∨ c = 'E' then
      let (negative, digits) := splitSign rest
      if digits.isEmpty || !digits.all CodePoint.isDigit then none
      else
        let n : Int := digits.foldl (fun n d => n * 10 + (d.val - 0x30)) 0
        some (if negative then -n else n)
    else none

/-- Reads a decimal number without a sign: digits on at least one side of an optional point, and an
optional exponent. -/
def readDecimal (negative : Bool) (t : Text) : Option Binary64 :=
  let whole := t.takeWhile CodePoint.isDigit
  let behind := t.drop whole.length
  let hasPoint := decide (behind.head? = some (CodePoint.ofChar '.'))
  let fraction := if hasPoint then (behind.drop 1).takeWhile CodePoint.isDigit else []
  let rest := if hasPoint then behind.drop (fraction.length + 1) else behind
  if whole.isEmpty && fraction.isEmpty then none
  else
    (readExponent rest).map fun exponent =>
      let digits := (whole ++ fraction).foldl (fun n (d : CodePoint) => n * 10 + (d.val - 0x30)) 0
      Binary64.ofDecimal negative digits (exponent - fraction.length)

/-- Reads a trimmed number: a decimal one, or a word for infinity or for no number. -/
def readPlainFloat (t : Text) : Option Binary64 :=
  let (negative, unsigned) := splitSign t
  let word := unsigned.map CodePoint.lowerAscii
  if word = text "inf" ∨ word = text "infinity" then some (.infinite negative)
  else if word = text "nan" then some .nan
  else readDecimal negative unsigned

/-- Reads a binary64 number, with blanks around it or with underscores inside. -/
def readFloat (t : Text) : Option Binary64 :=
  match readPlainFloat (trim t) with
  | some x => some x
  | none => (dropUnderscores t).bind readPlainFloat

/-- Reads a truth value: one of a few words, in any case and without blanks. -/
def readBool (t : Text) : Option Bool :=
  let word := t.map CodePoint.lowerAscii
  if (["1", "true", "t", "yes", "y", "on"].map text).contains word then some true
  else if (["0", "false", "f", "no", "n", "off"].map text).contains word then some false
  else none

end BigO.Lenient
