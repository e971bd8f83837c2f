import BigO.Text.Pattern

/-! Names, declarations and calls in braced code. -/

namespace BigO.Braced

/-- A code point that may stand inside a name. -/
def isNamePart (c : CodePoint) : Bool := c.isWord || c = '$'

/-- A code point that may begin a name. -/
def isNameStart (c : CodePoint) : Bool := c.isLetter || c = '_' || c = '$'

/-- No part of a name stands before. -/
def nameStart (before : Option CodePoint) : Bool := !before.any isNamePart

/-- A name, as long as it goes. -/
def name : Reader Text := do
  let first ← Reader.one isNameStart
  let rest ← Reader.run isNamePart
  return first :: rest

/-- The most code points that type arguments may have between their angle brackets. -/
def typeArgumentLimit : Nat := 120

/-- Type arguments in angle brackets on one line. -/
def typeArguments : Reader Unit := do
  let _ ← Reader.char '<'
  let _ ← Reader.runAtMost typeArgumentLimit fun c => c ≠ '>' && c ≠ '\n'
  let _ ← Reader.char '>'
  let _ ← Reader.blanks
  return ()

/-- What may stand between a name and the parenthesis of its parameters or arguments. -/
def beforeParenthesis : Reader Unit := do
  let _ ← Reader.blanks
  Reader.optional typeArguments

/-- A function declaration up to its opening parenthesis; its value is the declared name. The name
may follow the keyword directly. -/
def declaration : Pattern Text := Pattern.after Pattern.wordStart do
  let _ ← Reader.exactly (text "function")
  let _ ← Reader.run fun c => c.isBlank || c = '*'
  let declared ← name
  beforeParenthesis
  let _ ← Reader.char '('
  return declared

/-- A name with an opening parenthesis behind it. -/
def call : Pattern Text := Pattern.after nameStart do
  let called ← name
  let _ ← Reader.blanks
  let _ ← Reader.char '('
  return called

/-- A name with an opening parenthesis behind it, type arguments allowed between them. -/
def callSite : Pattern Text := Pattern.after nameStart do
  let called ← name
  beforeParenthesis
  let _ ← Reader.char '('
  return called

/-- Words that stand before a parenthesis without being called. -/
def notCalls : List Text :=
  ["if", "for", "while", "switch", "catch", "function", "return", "typeof", "await", "yield",
    "void", "delete", "in", "of", "new", "do", "else", "with"].map text

end BigO.Braced
