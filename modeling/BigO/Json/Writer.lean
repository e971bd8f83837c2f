import BigO.Json.Basic
import BigO.Text.Hex

/-! Writing JSON. Only the quote, the backslash and the control characters below the space are
escaped. -/

namespace BigO.Json

/-- A code point inside a string. -/
def escape (c : CodePoint) : Text :=
  if c = .doubleQuote then text "\\\""
  else if c = '\\' then text "\\\\"
  else if c = '\n' then text "\\n"
  else if c = '\r' then text "\\r"
  else if c = '\t' then text "\\t"
  else if c.val = 0x08 then text "\\b"
  else if c.val = 0x0C then text "\\f"
  else if c.val < 0x20 then text "\\u" ++ Text.hexDigits 4 c.val
  else [c]

/-- A string with its quotes. -/
def quote (t : Text) : Text := text "\"" ++ t.flatMap escape ++ text "\""

/-- A number; the values that are no numbers are words. -/
def writeNumber : Number → Text
  | .int n => Text.ofInt n
  | .float .nan => text "NaN"
  | .float (.infinite negative) => text (if negative then "-Infinity" else "Infinity")
  | .float x => x.display

/-- What stands between items, and between a name and its value. -/
structure Spacing where
  comma : Text
  colon : Text

/-- No blanks. -/
def Spacing.compact : Spacing := { comma := text ",", colon := text ":" }

/-- A space behind each comma and colon. -/
def Spacing.wide : Spacing := { comma := text ", ", colon := text ": " }

mutual

/-- A value as text. -/
def write (spacing : Spacing) : Json → Text
  | .null => text "null"
  | .bool b => text (if b then "true" else "false")
  | .num n => writeNumber n
  | .str t => quote t
  | .arr items => text "[" ++ writeItems spacing items ++ text "]"
  | .obj members => text "\x7b" ++ writeMembers spacing members ++ text "\x7d"

/-- The items of an array. -/
def writeItems (spacing : Spacing) : List Json → Text
  | [] => []
  | [item] => write spacing item
  | item :: items => write spacing item ++ spacing.comma ++ writeItems spacing items

/-- The members of an object. -/
def writeMembers (spacing : Spacing) : List (Text × Json) → Text
  | [] => []
  | [(name, value)] => quote name ++ spacing.colon ++ write spacing value
  | (name, value) :: members =>
    quote name ++ spacing.colon ++ write spacing value ++ spacing.comma ++
      writeMembers spacing members

end

mutual

/-- All numbers of the value are finite. -/
def allFinite : Json → Bool
  | .num (.float x) => x.isFinite
  | .arr items => allFiniteItems items
  | .obj members => allFiniteMembers members
  | _ => true

/-- All numbers of the items are finite. -/
def allFiniteItems : List Json → Bool
  | [] => true
  | item :: items => allFinite item && allFiniteItems items

/-- All numbers of the members are finite. -/
def allFiniteMembers : List (Text × Json) → Bool
  | [] => true
  | (_, value) :: members => allFinite value && allFiniteMembers members

end

end BigO.Json
