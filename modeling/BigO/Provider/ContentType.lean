import BigO.Text.Charset.Names
import BigO.Text.Lower
import BigO.Json.Reader

/-! The charset that a content type names. A content type is a run of parts between semicolons, the
first of which is the type itself and the others are parameters; also the first is read as a
parameter. The value of a parameter may be cut into numbered sections, and its bytes may be
written as numbers behind percent signs in a charset of their own. -/

namespace BigO.ContentType

open BigO.Text

/-- The parts between semicolons; a semicolon inside double quotes does not count, nor does a quote
behind a backslash. `done` and `part` have the newest first. -/
def partsFrom (done : List Text) (part : Text) (quoted : Bool) : Text → List Text
  | [] => (part.reverse :: done).reverse
  | c :: rest =>
    if c = ';' ∧ quoted = false then partsFrom (part.reverse :: done) [] false rest
    else
      let turns := c = .doubleQuote ∧ part.head? ≠ some (CodePoint.ofChar '\\')
      partsFrom done (c :: part) (if turns then !quoted else quoted) rest

/-- The text in which two backslashes are one. -/
def mergeBackslashes : Text → Text
  | c :: d :: rest =>
    if c = '\\' ∧ d = '\\' then c :: mergeBackslashes rest else c :: mergeBackslashes (d :: rest)
  | t => t

/-- The text in which a quote is without the backslash before it. -/
def freeQuotes : Text → Text
  | c :: d :: rest =>
    if c = '\\' ∧ d = .doubleQuote then d :: freeQuotes rest else c :: freeQuotes (d :: rest)
  | t => t

/-- The text without the quotes or angle brackets around it. Inside quotes a backslash stands before
a quote or another backslash. -/
def unquoted (t : Text) : Text :=
  let inner := (t.drop 1).dropLast
  if t.length < 2 then t
  else if t.head? = some .doubleQuote ∧ t.getLast? = some .doubleQuote then
    freeQuotes (mergeBackslashes inner)
  else if t.head? = some (CodePoint.ofChar '<') ∧ t.getLast? = some (CodePoint.ofChar '>') then
    inner
  else t

/-- A parameter: its name and its value. -/
structure Parameter where
  name : Text
  value : Text

/-- The parameter in a part. It may have no value. -/
def Parameter.ofPart (part : Text) : Parameter :=
  let name := part.takeWhile fun (c : CodePoint) => c ≠ '='
  { name := (Text.strip name).lower, value := unquoted (Text.strip (part.drop (name.length + 1))) }

/-- A section of a value. One without a number is the whole value. -/
structure Section where
  number : Option Nat
  value : Text
  encoded : Bool

/-- The words of ASCII. -/
def isWord (c : CodePoint) : Bool := c.isLetter || c.isDigit || c = '_'

/-- The name and the number of a section with the name of its parameter: a word, a star, digits that
may be missing, and behind digits a star that may be missing. -/
def sectionName? (name : Text) : Option (Text × Text) :=
  let word := name.takeWhile isWord
  match name.drop word.length with
  | star :: rest =>
    let digits := rest.takeWhile CodePoint.isDigit
    let behind := rest.drop digits.length
    if star = '*' ∧ word ≠ [] ∧
        (behind = [] ∨ (behind = [CodePoint.ofChar '*'] ∧ digits ≠ [])) then
      some (word, digits)
    else none
  | [] => none

/-- Why a content type tells nothing, not even that it names no charset. -/
inductive Fault where
  /-- A section has a number with so many digits. -/
  | longNumber (digits : Nat)
  /-- Of two sections one has a number and the other has none; the later one comes first here. -/
  | mixedSections (laterNumbered : Bool)
  /-- A name has a NUL in it. -/
  | nulInName
deriving DecidableEq

/-- The name of the kind of a fault. -/
def Fault.name : Fault → Text
  | .longNumber _ | .nulInName => BigO.text "ValueError"
  | .mixedSections _ => BigO.text "TypeError"

/-- The wording of a fault. -/
def Fault.message : Fault → Text
  | .longNumber digits => Json.ReadError.message [] (.tooManyDigits digits)
  | .mixedSections laterNumbered =>
    let kinds := if laterNumbered then ("int", "NoneType") else ("NoneType", "int")
    BigO.text "'<' not supported between instances of '" ++ BigO.text kinds.1 ++
      BigO.text "' and '" ++ BigO.text kinds.2 ++ BigO.text "'"
  | .nulInName => BigO.text "embedded null character"

/-- The parameters with plain values, and the sections of the others by the names of their
parameters. -/
structure Parameters where
  plain : List Parameter := []
  sections : List (Text × List Section) := []

/-- The sections of all parameters with one more, which comes last. -/
def addSection (name : Text) (s : Section) :
    List (Text × List Section) → List (Text × List Section)
  | [] => [(name, [s])]
  | (other, sections) :: rest =>
    if other = name then (other, sections ++ [s]) :: rest
    else (other, sections) :: addSection name s rest

/-- Sorts parameters into plain ones and sections. -/
def Parameters.add (all : Parameters) (p : Parameter) : Except Fault Parameters :=
  match sectionName? p.name with
  | none => .ok { all with plain := all.plain ++ [p] }
  | some (name, digits) =>
    if Json.digitLimit < digits.length then .error (.longNumber digits.length)
    else
      let number := if digits.isEmpty then none else some (Json.digitsValue digits)
      let encoded := p.name.getLast? = some (CodePoint.ofChar '*')
      let s : Section := { number, value := p.value, encoded }
      .ok { all with sections := addSection name s all.sections }

/-- The order of texts by their code points. -/
def textLE : Text → Text → Bool
  | [], _ => true
  | _ :: _, [] => false
  | c :: t, d :: u => c.val < d.val || (c.val == d.val && textLE t u)

/-- The order of sections: by number, then by value, the encoded one last. -/
def Section.le (a b : Section) : Bool :=
  let byValue := if a.value = b.value then !a.encoded || b.encoded else textLE a.value b.value
  match a.number, b.number with
  | some m, some n => m < n || (m == n && byValue)
  | _, _ => byValue

/-- The sections in order. They must all have a number, or none of them. -/
def inOrder (sections : List Section) : Except Fault (List Section) :=
  let numbered := sections.head?.any (·.number.isSome)
  if sections.all fun s => s.number.isSome = numbered then .ok (sections.mergeSort Section.le)
  else .error (.mixedSections (!numbered))

/-- The text in which a percent sign with two hexadecimal digits is the code point of that number.
-/
def percentDecoded : Text → Text
  | c :: d :: e :: rest =>
    match hexDigit? d, hexDigit? e with
    | some high, some low =>
      if c = '%' then CodePoint.ofNat (high * 16 + low) :: percentDecoded rest
      else c :: percentDecoded (d :: e :: rest)
    | _, _ => c :: percentDecoded (d :: e :: rest)
  | t => t

/-- The charset of a name, which must have no NUL in it. -/
def charsetOf (name : Text) : Except Fault (Option Charset) :=
  if name.any (·.val == 0) then .error .nulInName else .ok (Charset.ofName? name)

/-- What sections say together. Where one of them is encoded the charset of the whole comes first,
then a language, each with a single quote behind it; what does not decode stays as it is. -/
def sectionsText (sections : List Section) : Except Fault Text := do
  let whole := sections.flatMap fun s => if s.encoded then percentDecoded s.value else s.value
  if !sections.any (·.encoded) then return whole
  let name := whole.takeWhile (· ≠ .singleQuote)
  let behind := whole.drop (name.length + 1)
  let language := behind.takeWhile (· ≠ .singleQuote)
  let written := name.length + language.length + 2 ≤ whole.length
  let value := if written then behind.drop (language.length + 1) else whole
  let charset ← charsetOf (if written ∧ name ≠ [] then name else BigO.text "us-ascii")
  return (charset.bind (·.strict? (value.map fun c => UInt8.ofNat c.val))).getD value

/-- The value of the parameter `charset`, if there is one. A plain one comes before one in
sections. -/
def charsetParameter (contentType : Text) : Except Fault (Option Text) := do
  let name := BigO.text "charset"
  let parameters := (partsFrom [] [] false contentType).map Parameter.ofPart
  let all ← (parameters.drop 1).foldlM Parameters.add { plain := parameters.take 1 }
  let sections ← all.sections.mapM fun s => return (s.1, ← inOrder s.2)
  match all.plain.find? (·.name = name), sections.find? (·.1 = name) with
  | some p, _ => return some p.value
  | none, some (_, sections) => return some (← sectionsText sections)
  | none, none => return none

/-- The charset that a content type names, if it is a known one. Its name is ASCII. -/
def charset? (contentType : Text) : Except Fault (Option Charset) := do
  let some name ← charsetParameter contentType | return none
  if name.all (·.val < 0x80) then charsetOf name else return none

end BigO.ContentType
