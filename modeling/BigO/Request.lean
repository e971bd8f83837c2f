import BigO.Validation
import BigO.Text.Lower

/-! The request to analyse a source text. -/

namespace BigO

/-- A source text and the language tag in its normal form. -/
structure AnalyzeRequest where
  code : Text
  language : Text
deriving DecidableEq

namespace AnalyzeRequest

/-- The tag where none is given. -/
def defaultLanguage : Text := text "javascript"

/-- The most code points that a tag may have, before it is brought to its normal form. -/
def languageLimit : Nat := 50

/-- The normal form of a tag: no blanks at its ends, lower case, and not empty. -/
def normalLanguage (tag : Text) : Text :=
  let lowered := tag.strip.lower
  if lowered.isEmpty then defaultLanguage else lowered

/-- A source text that is not too long. -/
def checkCode (codeLimit : Int) (value : Json) : Checked Text :=
  (Check.asText value).andThen fun code =>
    if codeLimit < code.length then .flaw .refused else .valid code

/-- A tag that is well formed and not too long, in its normal form. -/
def checkLanguage (value : Json) : Checked Text :=
  (Check.asText value).andThen fun tag =>
    if !tag.wellFormed then .flaw .unpairedSurrogate
    else if languageLimit < tag.length then .flaw .textTooLong
    else .valid (normalLanguage tag)

/-- A request given field by field, with a limit on the length of the source text. -/
def ofMembers (codeLimit : Int) (members : List (Text × Json)) : Checked AnalyzeRequest :=
  AnalyzeRequest.mk
    <$> Check.required members "code" (checkCode codeLimit)
    <*> Check.optional members "language" defaultLanguage checkLanguage

end AnalyzeRequest

end BigO
