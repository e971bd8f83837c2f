import BigO.Braced.Call
import BigO.Source.Literal
import BigO.Estimate

/-! The detectors for braced code and the decision list over what they find. All of them read text
whose comments are stripped and whose literals are emptied. -/

namespace BigO.Braced

/-- Some declared name is called besides its declaration, which is a call site itself. -/
def isRecursive (masked : Text) : Bool :=
  let sites := callSite.tokens masked
  (declaration.tokens masked).any fun declared => decide (2 ≤ sites.count declared)

/-- A shift to the right by one. -/
def shiftByOne : Pattern Unit := Pattern.anywhere do
  let _ ← Reader.exactly (text ">>")
  Reader.optional (Reader.char '>')
  let _ ← Reader.blanks
  let _ ← Reader.char '1'
  Reader.notBefore CodePoint.isWord

/-- The name `mid` with an equals sign behind it that is no comparison. -/
def midAssignment : Pattern Unit :=
  Pattern.after (fun before => !before.any fun c => isNamePart c || c = '.') do
    let _ ← Reader.exactly (text "mid")
    let _ ← Reader.blanks
    let _ ← Reader.char '='
    Reader.notBefore (· = '=')

/-- A call of the floor function. -/
def floorCall : Pattern Unit := Pattern.anywhere do
  let _ ← Reader.exactly (text "Math.floor")
  let _ ← Reader.blanks
  let _ ← Reader.char '('
  return ()

/-- A division by two at the end of a parenthesis. -/
def halved : Pattern Unit := Pattern.anywhere do
  let _ ← Reader.char '/'
  let _ ← Reader.blanks
  let _ ← Reader.char '2'
  let _ ← Reader.blanks
  let _ ← Reader.char ')'
  return ()

/-- The first floor call of a line has a halving somewhere behind it. -/
def floorsHalf (line : Text) : Bool :=
  match floorCall.find? none line with
  | none => false
  | some (_, before, rest) => (halved.find? before rest).isSome

/-- A middle is computed: a shift by one, an assignment to `mid`, or a floored half on one line. -/
def hasMidpoint (masked : Text) : Bool :=
  shiftByOne.occursIn masked || midAssignment.occursIn masked || masked.lines.any floorsHalf

/-- A loop keyword. -/
def loopWord : Pattern Text :=
  Pattern.after Pattern.wordStart (Reader.wordAmong [text "for", text "while"])

/-- The keyword `while`. -/
def whileWord : Pattern Text :=
  Pattern.after Pattern.wordStart (Reader.wordAmong [text "while"])

/-- A call of a method. -/
def methodCall (method : String) : Pattern Unit := Pattern.anywhere do
  let _ ← Reader.exactly (text ("." ++ method))
  let _ ← Reader.blanks
  let _ ← Reader.char '('
  return ()

/-- The depth reached so far in a scan by lines, and the greatest depth met. -/
structure Nesting where
  depth : Nat := 0
  deepest : Nat := 0
deriving DecidableEq

/-- One line: a loop keyword and an opening brace on it go one level deeper, then each closing brace
climbs back out, whatever block it closes. -/
def Nesting.line (n : Nesting) (line : Text) : Nesting :=
  let entered : Nesting :=
    if loopWord.occursIn line && line.contains (CodePoint.ofChar '{') then
      { depth := n.depth + 1, deepest := max n.deepest (n.depth + 1) }
    else n
  { entered with depth := entered.depth - line.count (CodePoint.ofChar '}') }

/-- The depth of loops as the braces tell it. -/
def maxLoopNesting (masked : Text) : Nat := (masked.lines.foldl Nesting.line {}).deepest

/-- How many calls a line holds, declarations and keywords not counted. -/
def callsOnLine (line : Text) : Nat :=
  let shortened := declaration.replace (fun _ => text " ") line
  ((call.tokens shortened).filter fun called => !notCalls.contains called).length

/-- The most calls on one line, at least one. -/
def branchingFactor (masked : Text) : Nat :=
  masked.lines.foldl (fun widest line => max widest (callsOnLine line)) 1

/-- What the detectors find. -/
structure Signals where
  isRecursive : Bool := false
  hasMidpoint : Bool := false
  hasWhile : Bool := false
  hasSlice : Bool := false
  maxLoopNesting : Int := 0
  branchingFactor : Int := 1
deriving DecidableEq

/-- Recursion on parts of the input. -/
def Signals.divideAndConquer (s : Signals) : Bool :=
  s.isRecursive && (s.hasMidpoint || s.hasSlice)

/-- The signals of a masked text. Branching is looked at only in recursive code. -/
def detect (masked : Text) : Signals :=
  let recursive := isRecursive masked
  { isRecursive := recursive
    hasMidpoint := hasMidpoint masked
    hasWhile := whileWord.occursIn masked
    hasSlice := (methodCall "slice").occursIn masked
    maxLoopNesting := maxLoopNesting masked
    branchingFactor := if recursive then branchingFactor masked else 1 }

/-- The decision list for braced code. -/
def rules : List (Rule Signals) := [
  { name := text "binary_search"
    holds := fun s => !s.isRecursive && s.hasMidpoint && s.hasWhile
    time := Growth.logarithmic.label
    space := some Growth.constant.label },
  { name := text "divide_and_conquer"
    holds := fun s => s.divideAndConquer && decide (2 ≤ s.branchingFactor)
    time := Growth.linearithmic.label },
  { name := text "linear_recursion"
    holds := fun s => s.isRecursive && decide (s.branchingFactor ≤ 2) && s.maxLoopNesting == 0
    time := Growth.linear.label },
  { name := text "branching_recursion"
    holds := fun s => s.isRecursive && decide (3 ≤ s.branchingFactor)
    time := Growth.exponential.label },
  { name := text "triple_loop", holds := fun s => decide (3 ≤ s.maxLoopNesting)
    time := Growth.cubic.label },
  { name := text "double_loop", holds := fun s => s.maxLoopNesting == 2
    time := Growth.quadratic.label },
  { name := text "single_loop", holds := fun s => s.maxLoopNesting == 1
    time := Growth.linear.label },
  { name := text "recursion", holds := fun s => s.isRecursive, time := Growth.linear.label },
  { name := text "constant", holds := fun _ => true, time := Growth.constant.label }]

/-- A call of a constructor with `new`. -/
def construction (type : String) : Pattern Unit := Pattern.anywhere do
  let _ ← Reader.exactly (text "new")
  let _ ← Reader.run1 CodePoint.isBlank
  let _ ← Reader.exactly (text type)
  let _ ← Reader.blanks
  let _ ← Reader.char '('
  return ()

/-- A spread at the front of an array. -/
def arraySpread : Pattern Unit := Pattern.anywhere do
  let _ ← Reader.char '['
  let _ ← Reader.blanks
  let _ ← Reader.exactly (text "...")
  return ()

/-- The assignment of an empty array. -/
def emptyArrayAssignment : Pattern Unit :=
  Pattern.after (fun before => !before.any fun (c : CodePoint) =>
    c = '=' || c = '!' || c = '<' || c = '>') do
    let _ ← Reader.char '='
    Reader.notBefore (· = '=')
    let _ ← Reader.blanks
    let _ ← Reader.char '['
    let _ ← Reader.blanks
    let _ ← Reader.char ']'
    return ()

/-- The ways in which braced code takes storage that grows with the input. -/
def growingStorage : List (Pattern Unit) :=
  [construction "Map", construction "Set", arraySpread, methodCall "slice", methodCall "map",
    construction "Array", emptyArrayAssignment]

/-- Linear space for recursive code and for code that takes growing storage. -/
def estimateSpace (masked : Text) (recursive : Bool) : Growth :=
  if recursive || growingStorage.any (·.occursIn masked) then .linear else .constant

/-- A decision: a branching keyword or a short-circuit operator. -/
def decisionPoint : Pattern Text :=
  (Pattern.after Pattern.wordStart
      (Reader.wordAmong [text "if", text "while", text "for", text "case"])).orElse
    (Pattern.anywhere ((Reader.exactly (text "&&")).orElse (Reader.exactly (text "||"))))

/-- The number of decisions plus one. -/
def cyclomatic (masked : Text) : Nat := 1 + (decisionPoint.tokens masked).length

/-- What a decision costs in braced code. -/
def decisionWeight : Nat := 2

/-- The estimate for braced code whose comments are stripped. -/
def analyze (code : Text) : Except AnalysisFailure Estimate :=
  let masked := Source.maskLiterals code
  let signals := detect masked
  conclude (classify rules signals) (estimateSpace masked signals.isRecursive)
    (cyclomatic masked) code.countLines decisionWeight

end BigO.Braced
