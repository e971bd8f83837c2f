import BigO.Number.Shortest

/-! JSON values. Integers are exact, other numbers are binary64, texts may hold lone surrogates, and
an object keeps its members in the order in which their names first came. -/

namespace BigO

/-- A number: an exact integer, or one that was written with a fraction or an exponent. -/
inductive Number where
  | int (n : Int)
  | float (x : Binary64)
deriving DecidableEq

/-- A JSON value. -/
inductive Json where
  | null
  | bool (b : Bool)
  | num (n : Number)
  | str (t : Text)
  | arr (items : List Json)
  | obj (members : List (Text × Json))

namespace Json

/-- An integer. -/
def int (n : Int) : Json := .num (.int n)

/-- A text given as a string. -/
def string (s : String) : Json := .str (text s)

/-- The member of an object with this name. -/
def member? (members : List (Text × Json)) (name : Text) : Option Json :=
  (members.find? (·.1 = name)).map (·.2)

/-- The member of a value with this name, if the value is an object that has one. -/
def get? : Json → Text → Option Json
  | .obj members, name => member? members name
  | _, _ => none

/-- Members with one more: a name that is there keeps its place and gets the new value. -/
def setMember (members : List (Text × Json)) (name : Text) (value : Json) : List (Text × Json) :=
  if members.any (·.1 = name) then
    members.map fun m => if m.1 = name then (name, value) else m
  else members ++ [(name, value)]

/-- The members in which the last of several with the same name counts, at the place of the first.
-/
def lastWins (members : List (Text × Json)) : List (Text × Json) :=
  members.foldl (fun done m => setMember done m.1 m.2) []

end Json

end BigO
