import BigO.Json.Display
import BigO.Number.Lenient
import BigO.Estimate

/-! Validation of fields. A check gives a value or all the flaws that it finds, in field order; each
flaw has the path to the value and the kind of the defect. -/

namespace BigO

/-- A step on the way to a value: a field, an item, or a position in a text. -/
inductive PathStep where
  | field (name : Text)
  | item (index : Nat)
deriving DecidableEq

/-- The step as it is named in messages. -/
def PathStep.name : PathStep → Text
  | .field name => name
  | .item index => Text.ofNat index

/-- What may be wrong with a value. -/
inductive Defect where
  | missing
  | noText
  | unpairedSurrogate
  | textTooLong
  | refused
  | noList
  | noModel
  | noAttributes
  | noInteger
  | unreadableInteger
  | integerTooLong
  | fraction
  | notFinite
  | tooSmall
  | tooLarge
  | unreadableBool
  | unreadableFloat
  | notListed
  | frozen
  | malformedJson
deriving DecidableEq

/-- The code by which a defect is reported. -/
def Defect.code : Defect → Text
  | .missing => text "missing"
  | .noText => text "string_type"
  | .unpairedSurrogate => text "string_unicode"
  | .textTooLong => text "string_too_long"
  | .refused => text "value_error"
  | .noList => text "list_type"
  | .noModel => text "model_type"
  | .noAttributes => text "model_attributes_type"
  | .noInteger => text "int_type"
  | .unreadableInteger => text "int_parsing"
  | .integerTooLong => text "int_parsing_size"
  | .fraction => text "int_from_float"
  | .notFinite => text "finite_number"
  | .tooSmall => text "greater_than_equal"
  | .tooLarge => text "less_than_equal"
  | .unreadableBool => text "bool_parsing"
  | .unreadableFloat => text "float_parsing"
  | .notListed => text "literal_error"
  | .frozen => text "frozen_instance"
  | .malformedJson => text "json_invalid"

/-- A defect and the path to the value that has it. -/
structure Flaw where
  path : List PathStep
  defect : Defect
deriving DecidableEq

/-- A value, or the flaws found in place of one. -/
inductive Checked (α : Type) where
  | valid (value : α)
  | flawed (flaws : List Flaw)

namespace Checked

variable {α β : Type}

/-- Both checks, the flaws of the first before those of the second. -/
protected def seq (f : Checked (α → β)) (x : Unit → Checked α) : Checked β :=
  match f, x () with
  | .valid f, .valid a => .valid (f a)
  | .valid _, .flawed e => .flawed e
  | .flawed e, .valid _ => .flawed e
  | .flawed e, .flawed e' => .flawed (e ++ e')

instance : Applicative Checked where
  pure := .valid
  seq := Checked.seq

/-- One flaw at the value itself. -/
def flaw (defect : Defect) : Checked α := .flawed [{ path := [], defect }]

/-- A check of what another one gave. -/
def andThen (x : Checked α) (f : α → Checked β) : Checked β :=
  match x with
  | .valid a => f a
  | .flawed e => .flawed e

/-- The flaws are one step further away. -/
def under (step : PathStep) : Checked α → Checked α
  | .valid a => .valid a
  | .flawed e => .flawed (e.map fun flaw => { flaw with path := step :: flaw.path })

/-- All items of a list, from this index on. -/
def itemsFrom (check : Json → Checked α) (index : Nat) : List Json → Checked (List α)
  | [] => .valid []
  | item :: items =>
    (List.cons <$> (check item).under (.item index)) <*> itemsFrom check (index + 1) items

end Checked

namespace Check

/-- A text. -/
def asText : Json → Checked Text
  | .str t => .valid t
  | _ => .flaw .noText

/-- A text or nothing. -/
def asOptionalText : Json → Checked (Option Text)
  | .null => .valid none
  | value => some <$> asText value

/-- A list of texts. -/
def asTexts : Json → Checked (List Text)
  | .arr items => Checked.itemsFrom asText 0 items
  | _ => .flaw .noList

/-- The integer that a binary64 value is. -/
def floatInteger (x : Binary64) : Checked Int :=
  match x.toDyadic? with
  | none => .flaw .notFinite
  | some (n, k) =>
    if n % (twoPow k : Int) ≠ 0 then .flaw .fraction
    else
      let whole := n / (twoPow k : Int)
      if -(twoPow 63 : Int) < whole ∧ whole < (twoPow 63 : Int) then .valid whole
      else .flaw .integerTooLong

/-- An integer in a text. -/
def textInteger (t : Text) : Checked Int :=
  match Lenient.readInteger t with
  | .ok n => .valid n
  | .error .noInteger => .flaw .unreadableInteger
  | .error .tooLong => .flaw .integerTooLong

/-- An integer, also as a truth value, a number without a fraction, or a text. -/
def asInteger : Json → Checked Int
  | .bool b => .valid (if b then 1 else 0)
  | .num (.int n) => .valid n
  | .num (.float x) => floatInteger x
  | .str t => if t.wellFormed then textInteger t else .flaw .unpairedSurrogate
  | _ => .flaw .noInteger

/-- An integer within limits. -/
def within (low : Int) (high : Option Int) (n : Int) : Checked Int :=
  if n < low then .flaw .tooSmall
  else if high.any (· < n) then .flaw .tooLarge
  else .valid n

/-- A field of an object that must be there. -/
def required {α : Type} (members : List (Text × Json)) (name : String)
    (check : Json → Checked α) : Checked α :=
  Checked.under (.field (text name)) <|
    match Json.member? members (text name) with
    | some value => check value
    | none => .flaw .missing

/-- A field of an object that has a value where it is not there. -/
def optional {α : Type} (members : List (Text × Json)) (name : String) (fallback : α)
    (check : Json → Checked α) : Checked α :=
  match Json.member? members (text name) with
  | some value => (check value).under (.field (text name))
  | none => .valid fallback

end Check

/-- An estimate given field by field; what is left out is as in the baseline. -/
def Estimate.ofMembers (members : List (Text × Json)) : Checked Estimate :=
  Estimate.mk
    <$> Check.optional members "time" Estimate.baseline.time Check.asText
    <*> Check.optional members "space" Estimate.baseline.space Check.asText
    <*> Check.optional members "maintainability" Estimate.baseline.maintainability
      (fun value => (Check.asInteger value).andThen (Check.within 0 (some 100)))
    <*> Check.optional members "cyclomatic" Estimate.baseline.cyclomatic
      (fun value => (Check.asInteger value).andThen (Check.within 1 none))

/-- What becomes of setting something of an estimate by name. -/
inductive Assignment where
  /-- The value is kept beside the estimate. -/
  | kept
  | flawed (flaws : List Flaw)
  /-- A value of this kind is no class. -/
  | noClass (kind : Text)
  /-- A value of this kind has no members. -/
  | noMembers (kind : Text)

/-- Setting something by name: an estimate never changes, so setting a field, or any name that could
be one, is a flaw of that name. A name that begins with an underscore is never a field; what is kept
under it is no part of the estimate. Two such names are taken: one for the class of the estimate,
and one for all that is kept beside it. -/
def Estimate.assign (_ : Estimate) (name : Text) (value : Json) : Assignment :=
  if name = text "__class__" then .noClass value.kind
  else if name = text "__dict__" then
    match value with
    | .obj _ => .kept
    | other => .noMembers other.kind
  else if name.head? = some (CodePoint.ofChar '_') then .kept
  else .flawed [{ path := [.field name], defect := .frozen }]

/-- The wording of an assignment that is refused for the kind of the value. -/
def Assignment.refusal? : Assignment → Option Text
  | .kept | .flawed _ => none
  | .noClass kind =>
    some (text "__class__ must be set to a class, not '" ++ kind ++ text "' object")
  | .noMembers kind =>
    some (text "__dict__ must be set to a dictionary, not a '" ++ kind ++ text "'")

/-- The estimate as JSON. -/
def Estimate.toJson (e : Estimate) : Json :=
  .obj [(text "time", .str e.time), (text "space", .str e.space),
    (text "maintainability", .int e.maintainability), (text "cyclomatic", .int e.cyclomatic)]

end BigO
