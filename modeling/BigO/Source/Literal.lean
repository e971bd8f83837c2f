import BigO.Text.Pattern

/-! Quoted literals and their masking. A literal is opened and closed by the same quote. Between
the quotes stand items: a backslash with the code point behind it, unless that is a line feed, or
any other code point than the quote and the backslash. Only a literal in backticks may hold line
feeds. -/

namespace BigO.Source

/-- The three quotes of braced code. -/
inductive Quote where
  | double
  | single
  | backtick
deriving DecidableEq

namespace Quote

/-- The mark that opens and closes the literal. -/
def mark : Quote → CodePoint
  | .double => .doubleQuote
  | .single => .singleQuote
  | .backtick => .backtick

/-- Whether a literal in these quotes may run over lines. -/
def spansLines : Quote → Bool
  | .backtick => true
  | _ => false

/-- A code point that stands for itself between these quotes. -/
def isPlain (q : Quote) (c : CodePoint) : Bool :=
  c ≠ q.mark && c ≠ '\\' && (q.spansLines || c ≠ '\n')

/-- The quote that a code point is. -/
def ofMark? (c : CodePoint) : Option Quote :=
  [double, single, backtick].find? (·.mark = c)

end Quote

/-- How many code points the rest of a literal takes, closing quote included, when `taken` of it are
read; nothing where the literal is not closed. -/
def closingFrom (q : Quote) (taken : Nat) : Text → Option Nat
  | [] => none
  | c :: [] => if c = q.mark then some (taken + 1) else none
  | c :: d :: rest =>
    if c = q.mark then some (taken + 1)
    else if c = '\\' then
      if d = '\n' then none else closingFrom q (taken + 2) rest
    else if q.isPlain c then closingFrom q (taken + 1) (d :: rest)
    else none

/-- A complete literal, in any of the quotes. -/
def literal : Pattern Quote := Pattern.anywhere fun
  | [] => none
  | c :: rest =>
    match Quote.ofMark? c with
    | none => none
    | some q => (closingFrom q 1 rest).map fun n => (q, n)

/-- What stands in a masked text for a literal: an empty one and the line feeds that it held. -/
def emptied (covered : Text) : Text :=
  text "\"\"" ++ List.replicate (covered.count (CodePoint.ofChar '\n')) (CodePoint.ofChar '\n')

/-- The text with every literal emptied. Lines keep their numbers. -/
def maskLiterals (code : Text) : Text := literal.replace emptied code

end BigO.Source
