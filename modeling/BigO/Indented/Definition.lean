import BigO.Text.Pattern

/-! Function definitions in indented code. Blocks are told by indentation alone. -/

namespace BigO.Indented

/-- The header of a function at the front of a line: how far it is indented and its name. Only
spaces and tabs count as its indentation. -/
def header : Reader (Nat × Text) := do
  let margin ← Reader.run fun c => c = ' ' || c = '\t'
  Reader.optional do
    let _ ← Reader.exactly (text "async")
    Reader.run1 CodePoint.isBlank
  let _ ← Reader.exactly (text "def")
  let _ ← Reader.run1 CodePoint.isBlank
  let first ← Reader.one fun c => c.isLetter || c = '_'
  let rest ← Reader.run CodePoint.isWord
  let _ ← Reader.blanks
  let _ ← Reader.char '('
  return (margin.length, first :: rest)

/-- The indentation and the name that a line defines, if it is a header. -/
def header? (line : Text) : Option (Nat × Text) := (header line).map (·.1)

/-- A function: its name and the lines of its body. -/
structure Definition where
  name : Text
  body : List Text
deriving DecidableEq

/-- A line with something other than blanks and a comment on it. -/
def isStatement (line : Text) : Bool :=
  match line.strip with
  | [] => false
  | c :: _ => c ≠ '#'

/-- The body below a header with this indentation: the statements that are indented deeper, up to
the first statement at column zero. -/
def bodyBelow (indentation : Nat) (below : List Text) : List Text :=
  ((below.filter isStatement).takeWhile fun line => line.leadingBlanks ≠ 0).filter fun line =>
    indentation < line.leadingBlanks

/-- The first function among these lines. -/
def firstDefinition : List Text → Option Definition
  | [] => none
  | line :: below =>
    match header? line with
    | some (indentation, name) => some { name, body := bodyBelow indentation below }
    | none => firstDefinition below

/-- The first function of a text. -/
def firstFunction (code : Text) : Option Definition := firstDefinition code.lines

end BigO.Indented
