import BigO.Json.Writer
import BigO.Text.PrintableRanges

/-! The display form of values, in which they appear inside messages: a text stands for itself,
and inside arrays and objects it is quoted, by single quotes unless it holds single and no double
ones. -/

namespace BigO.Json

/-- The code point is shown as itself inside quotes. -/
def isPrintable (c : CodePoint) : Bool :=
  if c.val < 0x7F then 0x20 ≤ c.val else Text.printableRanges.contains c.val

/-- A code point that is not printable, by its number. -/
def numericEscape (c : CodePoint) : Text :=
  if c.val < 0x100 then text "\\x" ++ Text.hexDigits 2 c.val
  else if c.val < 0x10000 then text "\\u" ++ Text.hexDigits 4 c.val
  else text "\\U" ++ Text.hexDigits 8 c.val

/-- A code point between quotes of the kind `mark`. -/
def displayEscape (mark c : CodePoint) : Text :=
  if c = mark ∨ c = '\\' then ['\\', c]
  else if c = '\n' then text "\\n"
  else if c = '\r' then text "\\r"
  else if c = '\t' then text "\\t"
  else if isPrintable c then [c]
  else numericEscape c

/-- A quoted text. -/
def displayQuoted (t : Text) : Text :=
  let mark : CodePoint :=
    if t.contains .singleQuote && !t.contains .doubleQuote then .doubleQuote else .singleQuote
  mark :: t.flatMap (displayEscape mark) ++ [mark]

mutual

/-- A value inside another. -/
def displayInner : Json → Text
  | .null => text "None"
  | .bool b => text (if b then "True" else "False")
  | .num (.int n) => Text.ofInt n
  | .num (.float x) => x.display
  | .str t => displayQuoted t
  | .arr items => text "[" ++ displayItems items ++ text "]"
  | .obj members => text "\x7b" ++ displayMembers members ++ text "\x7d"

/-- The items of an array. -/
def displayItems : List Json → Text
  | [] => []
  | [item] => displayInner item
  | item :: items => displayInner item ++ text ", " ++ displayItems items

/-- The members of an object. -/
def displayMembers : List (Text × Json) → Text
  | [] => []
  | [(name, value)] => displayQuoted name ++ text ": " ++ displayInner value
  | (name, value) :: members =>
    displayQuoted name ++ text ": " ++ displayInner value ++ text ", " ++ displayMembers members

end

/-- A value in a message. -/
def display : Json → Text
  | .str t => t
  | value => displayInner value

/-- The word for the kind of a value. -/
def kind : Json → Text
  | .null => text "NoneType"
  | .bool _ => text "bool"
  | .num (.int _) => text "int"
  | .num (.float _) => text "float"
  | .str _ => text "str"
  | .arr _ => text "list"
  | .obj _ => text "dict"

end BigO.Json
