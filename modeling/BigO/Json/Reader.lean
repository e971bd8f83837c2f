import BigO.Json.Basic
import BigO.Text.Hex

/-! Reading JSON. Beyond the standard the words `NaN`, `Infinity` and `-Infinity` are numbers and an
escaped surrogate may stand alone. Reading stops at the first fault from the left and tells its
position; an integer with too many digits and too deep a nesting are faults of their own, found when
the reading comes to them. -/

namespace BigO.Json

/-- What is wrong at a position of a malformed text. -/
inductive Fault where
  | expectingValue
  | expectingComma
  | expectingColon
  | expectingName
  | unterminatedString
  | controlCharacter
  | badEscape
  | badUnicodeEscape
  | extraData
  | byteOrderMark
deriving DecidableEq

/-- The values that nest. -/
inductive Container where
  | array
  | object
deriving DecidableEq

/-- Why a text is not read: it is malformed at a position, an integer has too many digits, or a
container is nested too deeply. -/
inductive ReadError where
  | malformed (fault : Fault) (position : Nat)
  | tooManyDigits (count : Nat)
  | tooDeep (container : Container)
deriving DecidableEq

/-- The wording of a fault. -/
def Fault.message : Fault → Text
  | .expectingValue => text "Expecting value"
  | .expectingComma => text "Expecting ',' delimiter"
  | .expectingColon => text "Expecting ':' delimiter"
  | .expectingName => text "Expecting property name enclosed in double quotes"
  | .unterminatedString => text "Unterminated string starting at"
  | .controlCharacter => text "Invalid control character at"
  | .badEscape => text "Invalid \\escape"
  | .badUnicodeEscape => text "Invalid \\uXXXX escape"
  | .extraData => text "Extra data"
  | .byteOrderMark => text "Unexpected UTF-8 BOM (decode using utf-8-sig)"

/-- The word for a container. -/
def Container.message : Container → Text
  | .array => text "array"
  | .object => text "object"

/-- The most digits that an integer may have. -/
def digitLimit : Nat := 4300

/-- The deepest nesting of arrays and objects that is read. -/
def depthLimit : Nat := 960

/-- The wording of an error in a text: a malformed text is told by line, column and position. -/
def ReadError.message (source : Text) : ReadError → Text
  | .malformed fault position =>
    let before : Text := source.take position
    let column := (before.reverse.takeWhile fun (c : CodePoint) => c ≠ '\n').length + 1
    fault.message ++ text ": line " ++ Text.ofNat before.countLines ++ text " column " ++
      Text.ofNat column ++ text " (char " ++ Text.ofNat position ++ text ")"
  | .tooManyDigits count =>
    text "Exceeds the limit (" ++ Text.ofNat digitLimit ++
      text " digits) for integer string conversion: value has " ++ Text.ofNat count ++
      text " digits; use sys.set_int_max_str_digits() to increase the limit"
  | .tooDeep container =>
    text "maximum recursion depth exceeded while decoding a JSON " ++ container.message ++
      text " from a unicode string"

/-- A position in a text: the rest of the text from there and the number of code points before. -/
structure Cursor where
  rest : Text
  position : Nat

namespace Cursor

/-- The cursor that many code points further on. -/
def advance (c : Cursor) (n : Nat) : Cursor :=
  { rest := c.rest.drop n, position := c.position + n }

/-- The blanks of JSON. -/
def isBlank (c : CodePoint) : Bool := c = ' ' || c = '\t' || c = '\n' || c = '\r'

/-- The cursor behind any blanks. -/
def skipBlanks (c : Cursor) : Cursor := c.advance (c.rest.takeWhile isBlank).length

/-- A fault at the cursor. -/
def fault {α : Type} (c : Cursor) (f : Fault) : Except ReadError α :=
  .error (.malformed f c.position)

end Cursor

/-- What a letter stands for behind a backslash, the escape of a number apart. -/
def simpleEscape? (c : CodePoint) : Option CodePoint :=
  if c = .doubleQuote ∨ c = '\\' ∨ c = '/' then some c
  else if c = 'b' then some (.ofNat 0x08)
  else if c = 'f' then some (.ofNat 0x0C)
  else if c = 'n' then some '\n'
  else if c = 'r' then some '\r'
  else if c = 't' then some '\t'
  else none

/-- Adds an escaped code unit to what is read (the newest first). `pairing` says that the newest is
an escaped high surrogate; a low one completes it. -/
def addUnit (done : Text) (pairing : Bool) (unit : CodePoint) : Text :=
  match pairing && unit.isLowSurrogate, done with
  | true, high :: done => CodePoint.ofSurrogates high unit :: done
  | _, _ => unit :: done

/-- Reads the rest of a string that was opened at `start`. -/
def stringFrom (start : Nat) (done : Text) (pairing : Bool) (position : Nat) :
    Text → Except ReadError (Text × Cursor)
  | [] => .error (.malformed .unterminatedString start)
  | c :: [] =>
    if c = .doubleQuote then .ok (done.reverse, { rest := [], position := position + 1 })
    else if c.val < 0x20 then .error (.malformed .controlCharacter position)
    else .error (.malformed .unterminatedString start)
  | c :: d :: rest =>
    if c = .doubleQuote then .ok (done.reverse, { rest := d :: rest, position := position + 1 })
    else if c.val < 0x20 then .error (.malformed .controlCharacter position)
    else if c ≠ '\\' then stringFrom start (c :: done) false (position + 1) (d :: rest)
    else if d = 'u' then
      match rest with
      | h₁ :: h₂ :: h₃ :: h₄ :: next :: rest =>
        match Text.hexFour? h₁ h₂ h₃ h₄ with
        | none => .error (.malformed .badUnicodeEscape (position + 1))
        | some n =>
          let unit := CodePoint.ofNat n
          stringFrom start (addUnit done pairing unit) unit.isHighSurrogate (position + 6)
            (next :: rest)
      | _ => .error (.malformed .badUnicodeEscape (position + 1))
    else
      match simpleEscape? d with
      | none => .error (.malformed .badEscape position)
      | some e => stringFrom start (e :: done) false (position + 2) rest

/-- Reads a string whose opening quote is at the cursor. -/
def string? (c : Cursor) : Except ReadError (Text × Cursor) :=
  stringFrom c.position [] false (c.position + 1) (c.rest.drop 1)

/-- The number that a run of digits stands for. -/
def digitsValue (digits : Text) : Nat := digits.foldl (fun n d => n * 10 + (d.val - 0x30)) 0

/-- The digits of a fraction behind an integer part, with the point before them. -/
def fractionDigits (rest : Text) : Text :=
  match rest with
  | point :: rest => if point = '.' then rest.takeWhile CodePoint.isDigit else []
  | [] => []

/-- The exponent behind a number: its length in the text and its value. -/
def exponentPart (rest : Text) : Nat × Int :=
  match rest with
  | e :: rest =>
    if e = 'e' ∨ e = 'E' then
      let signed : Bool := match rest with
        | s :: _ => s = '-' || s = '+'
        | [] => false
      let negative : Bool := match rest with
        | s :: _ => decide (s = '-')
        | [] => false
      let digits := (rest.drop (if signed then 1 else 0)).takeWhile CodePoint.isDigit
      if digits.isEmpty then (0, 0)
      else
        let n : Int := digitsValue digits
        (digits.length + (if signed then 2 else 1), if negative then -n else n)
    else (0, 0)
  | [] => (0, 0)

/-- Reads a number at the cursor. -/
def number? (c : Cursor) : Except ReadError (Json × Cursor) :=
  let negative := decide (c.rest.head? = some (CodePoint.ofChar '-'))
  let unsigned := if negative then c.rest.drop 1 else c.rest
  let whole := match unsigned with
    | d :: _ => if d = '0' then [d] else unsigned.takeWhile CodePoint.isDigit
    | [] => []
  if whole.isEmpty then c.fault .expectingValue
  else
    let behindWhole := unsigned.drop whole.length
    let fraction := fractionDigits behindWhole
    let fractionLength := if fraction.isEmpty then 0 else fraction.length + 1
    let (exponentLength, exponent) := exponentPart (behindWhole.drop fractionLength)
    let next := c.advance
      ((if negative then 1 else 0) + whole.length + fractionLength + exponentLength)
    if fractionLength + exponentLength = 0 then
      if digitLimit < whole.length then .error (.tooManyDigits whole.length)
      else
        let n : Int := digitsValue whole
        .ok (.int (if negative then -n else n), next)
    else
      .ok (.num (.float (Binary64.ofDecimal negative (digitsValue (whole ++ fraction))
        (exponent - fraction.length))), next)

/-- The words that are values. -/
def words : List (Text × Json) := [
  (text "null", .null), (text "true", .bool true), (text "false", .bool false),
  (text "NaN", .num (.float .nan)), (text "Infinity", .num (.float (.infinite false))),
  (text "-Infinity", .num (.float (.infinite true)))]

/-- Reads a word or a number at the cursor. -/
def scalar? (c : Cursor) : Except ReadError (Json × Cursor) :=
  match words.find? fun w => w.1.isPrefixOf c.rest with
  | some (w, value) => .ok (value, c.advance w.length)
  | none => number? c

mutual

/-- Reads the value at the cursor. `room` is how many more containers may be opened around what is
read; `steps` bounds the calls and is never used up. -/
def valueFrom : (steps room : Nat) → Cursor → Except ReadError (Json × Cursor)
  | 0, _, c => c.fault .expectingValue
  | steps + 1, room, c =>
    match c.rest with
    | [] => c.fault .expectingValue
    | x :: _ =>
      if x = .doubleQuote then
        match string? c with
        | .error e => .error e
        | .ok (t, c) => .ok (.str t, c)
      else if x = '[' then
        match room with
        | 0 => .error (.tooDeep .array)
        | room + 1 =>
          let inside := (c.advance 1).skipBlanks
          if inside.rest.head? = some (CodePoint.ofChar ']') then .ok (.arr [], inside.advance 1)
          else itemsFrom steps room [] inside
      else if x = .openBrace then
        match room with
        | 0 => .error (.tooDeep .object)
        | room + 1 =>
          let inside := (c.advance 1).skipBlanks
          if inside.rest.head? = some .closeBrace then .ok (.obj [], inside.advance 1)
          else membersFrom steps room [] inside
      else scalar? c

/-- Reads the items of an array from the next one on, behind those `done` (the newest first). -/
def itemsFrom : (steps room : Nat) → List Json → Cursor → Except ReadError (Json × Cursor)
  | 0, _, _, c => c.fault .expectingValue
  | steps + 1, room, done, c =>
    match valueFrom steps room c with
    | .error e => .error e
    | .ok (value, c) =>
      let c := c.skipBlanks
      match c.rest with
      | [] => c.fault .expectingComma
      | x :: _ =>
        if x = ']' then .ok (.arr (value :: done).reverse, c.advance 1)
        else if x = ',' then itemsFrom steps room (value :: done) (c.advance 1).skipBlanks
        else c.fault .expectingComma

/-- Reads the members of an object from the next one on, behind those `done` (the newest first). -/
def membersFrom : (steps room : Nat) → List (Text × Json) → Cursor →
    Except ReadError (Json × Cursor)
  | 0, _, _, c => c.fault .expectingValue
  | steps + 1, room, done, c =>
    if c.rest.head? = some .doubleQuote then
      match string? c with
      | .error e => .error e
      | .ok (name, c) =>
        let c := c.skipBlanks
        if c.rest.head? = some (CodePoint.ofChar ':') then
          match valueFrom steps room (c.advance 1).skipBlanks with
          | .error e => .error e
          | .ok (value, c) =>
            let c := c.skipBlanks
            match c.rest with
            | [] => c.fault .expectingComma
            | x :: _ =>
              if x = .closeBrace then
                .ok (.obj (lastWins ((name, value) :: done).reverse), c.advance 1)
              else if x = ',' then
                membersFrom steps room ((name, value) :: done) (c.advance 1).skipBlanks
              else c.fault .expectingComma
        else c.fault .expectingColon
    else c.fault .expectingName

end

/-- Reads a whole text as one value, whatever it begins with. -/
def readWhole (source : Text) : Except ReadError Json :=
  let start : Cursor := { rest := source, position := 0 }
  match valueFrom (2 * source.length + 2) depthLimit start.skipBlanks with
  | .error e => .error e
  | .ok (value, c) =>
    let c := c.skipBlanks
    if c.rest.isEmpty then .ok value else c.fault .extraData

/-- Reads a whole text as one value. A byte order mark at its front is a fault of its own. -/
def read (source : Text) : Except ReadError Json :=
  if source.head? = some .orderMark then .error (.malformed .byteOrderMark 0)
  else readWhole source

end BigO.Json
