import BigO.Indented.Definition
import BigO.Estimate

/-! The detectors for indented code whose comments are stripped, and the decision list over what
they find. -/

namespace BigO.Indented

/-- A call of the function with this name, also through an object. -/
def callOf (name : Text) : Pattern Unit := Pattern.after Pattern.wordStart do
  let _ ← Reader.exactly name
  let _ ← Reader.blanks
  let _ ← Reader.char '('
  return ()

/-- The first function calls itself in its body. -/
def isRecursive (code : Text) : Bool :=
  match firstFunction code with
  | none => false
  | some f => f.body.any (callOf f.name).occursIn

/-- A whole word. -/
def word (w : String) : Pattern Text := Pattern.after Pattern.wordStart (Reader.wordAmong [text w])

/-- The line begins with one of these, blanks before it apart. -/
def beginsWith (openings : List String) (line : Text) : Bool :=
  openings.any fun opening => (text opening).isPrefixOf line.strip

/-- How many loops are open and the most that were. -/
structure Nesting where
  depth : Nat := 0
  deepest : Nat := 0
deriving DecidableEq

/-- The line returns to column zero and begins no function. -/
def closesLoops (line : Text) : Bool :=
  line.leadingBlanks = 0 && !beginsWith ["def ", "async def "] line

/-- The line is the header of a loop. -/
def opensLoop (line : Text) : Bool := beginsWith ["for ", "while "] line

/-- One line: a blank one changes nothing, a return to column zero closes all loops, a loop header
opens one. -/
def Nesting.line (n : Nesting) (line : Text) : Nesting :=
  if line.strip.isEmpty then n
  else
    let depth := if closesLoops line then 0 else n.depth
    if opensLoop line then { depth := depth + 1, deepest := max n.deepest (depth + 1) }
    else { n with depth }

/-- The most loop headers since a return to column zero. -/
def maxLoopNesting (code : Text) : Nat := (code.lines.foldl Nesting.line {}).deepest

/-- A call of `divmod` up to its opening parenthesis. -/
def divmodCall : Pattern Unit := Pattern.after Pattern.wordStart do
  let _ ← Reader.exactly (text "divmod")
  let _ ← Reader.blanks
  let _ ← Reader.char '('
  return ()

/-- Texts between an opening and its closing: those that are closed, and what was read of the one
that is open, the newest first in both. -/
structure Enclosed where
  closed : List Text := []
  opened : Option Text := none

/-- One piece in the collection of the arguments of calls: a call opens an argument unless one is
open, and a closing parenthesis closes it. -/
def Enclosed.argumentPiece (e : Enclosed) (piece : Piece Unit) : Enclosed :=
  match e.opened, piece with
  | none, .plain _ => e
  | none, .token _ _ => { e with opened := some [] }
  | some inside, .plain c =>
    if c = ')' then { closed := inside.reverse :: e.closed, opened := none }
    else { e with opened := some (c :: inside) }
  | some inside, .token _ covered => { e with opened := some (covered.reverse ++ inside) }

/-- What stands between a call of `divmod` and the first closing parenthesis behind it. Calls inside
one another share that parenthesis and count once. -/
def divmodArguments (code : Text) : List Text :=
  ((divmodCall.pieces code).foldl Enclosed.argumentPiece {}).closed

/-- The last thing in the text is the number two. -/
def endsInTwo (arguments : Text) : Bool :=
  match arguments.reverse.dropWhile CodePoint.isBlank with
  | c :: before => c = '2' && Pattern.wordStart before.head?
  | [] => false

/-- Some call of `divmod` divides by two. -/
def halvesWithDivmod (code : Text) : Bool := (divmodArguments code).any endsInTwo

/-- A floor division by two. -/
def floorHalf : Pattern Unit := Pattern.anywhere do
  let _ ← Reader.exactly (text "//")
  let _ ← Reader.blanks
  let _ ← Reader.char '2'
  Reader.notBefore CodePoint.isWord

/-- A shift to the right by one. -/
def shiftByOne : Pattern Unit := Pattern.anywhere do
  let _ ← Reader.exactly (text ">>")
  let _ ← Reader.blanks
  let _ ← Reader.char '1'
  Reader.notBefore CodePoint.isWord

/-- A middle is computed. -/
def hasMidpoint (code : Text) : Bool :=
  floorHalf.occursIn code || shiftByOne.occursIn code || halvesWithDivmod code

/-- One code point in the collection of bracket groups: an opening bracket begins a group anew, a
closing one ends the group that is open. -/
def Enclosed.bracket (e : Enclosed) (c : CodePoint) : Enclosed :=
  if c = '[' then { e with opened := some [] }
  else
    match e.opened with
    | none => e
    | some inside =>
      if c = ']' then { closed := inside.reverse :: e.closed, opened := none }
      else { e with opened := some (c :: inside) }

/-- The texts inside the brackets that hold no brackets. -/
def bracketGroups (code : Text) : List Text := (code.foldl Enclosed.bracket {}).closed

/-- The first word `for` of the text has a word `in` somewhere behind it. -/
def isComprehension (inside : Text) : Bool :=
  match (word "for").find? none inside with
  | none => false
  | some (_, before, rest) => ((word "in").find? before rest).isSome

/-- A comprehension stands in some bracket group. -/
def hasComprehension (code : Text) : Bool := (bracketGroups code).any isComprehension

/-- What the detectors find. -/
structure Signals where
  isRecursive : Bool := false
  isBinarySearch : Bool := false
  maxLoopNesting : Int := 0
deriving DecidableEq

/-- The signals of a text. -/
def detect (code : Text) : Signals :=
  { isRecursive := isRecursive code
    isBinarySearch := hasMidpoint code && (word "while").occursIn code
    maxLoopNesting := maxLoopNesting code }

/-- The decision list for indented code. -/
def rules : List (Rule Signals) := [
  { name := text "binary_search", holds := fun s => s.isBinarySearch
    time := Growth.logarithmic.label },
  { name := text "triple_loop", holds := fun s => decide (3 ≤ s.maxLoopNesting)
    time := Growth.cubic.label },
  { name := text "double_loop", holds := fun s => s.maxLoopNesting == 2
    time := Growth.quadratic.label },
  { name := text "single_loop", holds := fun s => s.maxLoopNesting == 1
    time := Growth.linear.label },
  { name := text "recursion", holds := fun s => s.isRecursive, time := Growth.linear.label },
  { name := text "constant", holds := fun _ => true, time := Growth.constant.label }]

/-- A call that builds a list. -/
def listCall : Pattern Unit := Pattern.after Pattern.wordStart do
  let _ ← Reader.exactly (text "list")
  let _ ← Reader.blanks
  let _ ← Reader.char '('
  return ()

/-- An equals sign with an opening bracket behind it. -/
def listAssignment : Pattern Unit := Pattern.anywhere do
  let _ ← Reader.char '='
  let _ ← Reader.blanks
  let _ ← Reader.char '['
  return ()

/-- Linear space for recursive code and for code that builds a list. -/
def estimateSpace (code : Text) (recursive : Bool) : Growth :=
  if recursive || listCall.occursIn code || listAssignment.occursIn code || hasComprehension code
  then .linear else .constant

/-- A decision: a branching keyword or a logical operator. -/
def decisionPoint : Pattern Text := Pattern.after Pattern.wordStart
  (Reader.wordAmong (["if", "elif", "for", "while", "except", "with", "and", "or"].map text))

/-- The number of decisions plus one. -/
def cyclomatic (code : Text) : Nat := 1 + (decisionPoint.tokens code).length

/-- What a decision costs in indented code. -/
def decisionWeight : Nat := 3

/-- The estimate for indented code whose comments are stripped. -/
def analyze (code : Text) : Except AnalysisFailure Estimate :=
  let signals := detect code
  conclude (classify rules signals) (estimateSpace code signals.isRecursive)
    (cyclomatic code) code.countLines decisionWeight

end BigO.Indented
