import BigO.Text.Pattern

/-! The vocabulary of growth labels and the normal form in which a label is answered. -/

namespace BigO

/-- The orders of growth that have a label. -/
inductive Growth where
  | constant
  | logarithmic
  | linear
  | linearithmic
  | quadratic
  | cubic
  | exponential
  | factorial
deriving DecidableEq

namespace Growth

/-- The label of an order of growth. -/
def label : Growth → Text
  | .constant => text "O(1)"
  | .logarithmic => text "O(log N)"
  | .linear => text "O(N)"
  | .linearithmic => text "O(N log N)"
  | .quadratic => text "O(N²)"
  | .cubic => text "O(N³)"
  | .exponential => text "O(2^N)"
  | .factorial => text "O(N!)"

/-- All orders of growth, the slowest first. -/
def all : List Growth :=
  [.constant, .logarithmic, .linear, .linearithmic, .quadratic, .cubic, .exponential, .factorial]

/-- The labels that a result may carry. -/
def vocabulary : List Text := all.map label

end Growth

namespace Label

/-- A lower-case letter that stands for the size of the input is written as a capital. -/
def capitalSize (label : Text) : Text :=
  label.map fun (c : CodePoint) => if c = 'n' then CodePoint.ofChar 'N' else c

/-- The word `log`, blanks or none, and the size. -/
def logOfSize : Pattern Unit := Pattern.anywhere do
  let _ ← Reader.exactly (text "log")
  let _ ← Reader.blanks
  let _ ← Reader.char 'N'
  return ()

/-- A power of the size written with a caret. -/
def caretPower (power : String) : Pattern Unit := Pattern.anywhere do
  let _ ← Reader.exactly (text power)
  return ()

/-- The normal form of a label: the size is a capital, a single space stands between `log` and the
size, squares and cubes have superscripts. -/
def normalize (label : Text) : Text :=
  let spaced := logOfSize.replace (fun _ => text "log N") (capitalSize label)
  let squared := (caretPower "N^2").replace (fun _ => text "N²") spaced
  (caretPower "N^3").replace (fun _ => text "N³") squared

end Label

end BigO
