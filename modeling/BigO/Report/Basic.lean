import BigO.Validation

/-! Reports about a source text, written by a language model or in its place. -/

namespace BigO

/-- A report. `model` names the model that wrote it. -/
structure Report where
  language : Text
  time : Text
  space : Text
  explanation : Text
  suggestions : List Text
  model : Option Text
deriving DecidableEq

namespace Report

/-- The report where no key is configured. -/
def keyMissing (language : Text) : Report :=
  { language
    time := text "Key Missing"
    space := text "-"
    explanation := text "Please add your OPENROUTER_API_KEY to use AI Analysis."
    suggestions := [text "Configuration Required"]
    model := none }

/-- The report where the service cannot deliver one, with the reason. -/
def unavailable (language reason : Text) : Report :=
  { language
    time := text "AI Unavailable"
    space := text "-"
    explanation := text "The AI service reported: " ++ reason
    suggestions := [text "Try the local analyzer or wait for the free quota to reset."]
    model := none }

/-- A report given field by field. -/
def ofMembers (members : List (Text × Json)) : Checked Report :=
  Report.mk
    <$> Check.optional members "language" [] Check.asText
    <*> Check.required members "time" Check.asText
    <*> Check.required members "space" Check.asText
    <*> Check.optional members "explanation" [] Check.asText
    <*> Check.optional members "suggestions" [] Check.asTexts
    <*> Check.optional members "model" none Check.asOptionalText

/-- A report given as a JSON value, which must be an object. -/
def ofJson : Json → Checked Report
  | .obj members => ofMembers members
  | _ => .flaw .noModel

/-- A text or nothing, as JSON. -/
def optionalText (t : Option Text) : Json := (t.map Json.str).getD .null

/-- The report as JSON. -/
def toJson (r : Report) : Json :=
  .obj [(text "language", .str r.language), (text "time", .str r.time),
    (text "space", .str r.space), (text "explanation", .str r.explanation),
    (text "suggestions", .arr (r.suggestions.map .str)), (text "model", optionalText r.model)]

end Report

end BigO
