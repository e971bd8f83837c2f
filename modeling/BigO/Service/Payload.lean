import BigO.Service.Message
import BigO.Json.Encoding
import BigO.Request

/-! What a request carries, and the request for an analysis in it. -/

namespace BigO.Service

/-- A content type speaks of JSON: `application/json`, or `application/` with a subtype that ends in
`+json`. Case and parameters do not count. -/
def namesJson (contentType : Text) : Bool :=
  let essence :=
    (Text.strip (contentType.takeWhile fun (c : CodePoint) => c ≠ ';')).lower
  match essence.splitOn '/' with
  | [main, sub] =>
    main = text "application" && (sub = text "json" || (text "+json").isSuffixOf sub)
  | _ => false

/-- What a request carries: nothing, a JSON value, or something of another type. -/
inductive Payload where
  | absent
  | value (value : Json)
  | foreign

/-- Why a payload is not read: it is malformed JSON, or JSON that cannot be decoded or is beyond the
limits of the reader. -/
inductive PayloadFault where
  | malformed (position : Nat)
  | unreadable

/-- The payload of a request. -/
def Request.payload (r : Request) : Except PayloadFault Payload :=
  if r.body.isEmpty then .ok .absent
  else if !(r.header? "content-type").any namesJson then .ok .foreign
  else
    match Json.readBytes r.body with
    | .ok value => .ok (.value value)
    | .error (.unreadable (.malformed _ position)) => .error (.malformed position)
    | .error _ => .error .unreadable

/-- The place of the payload in paths to flaws. -/
def bodyStep : PathStep := .field (text "body")

/-- The request for an analysis that a payload is. Every value that is no object has no fields, also
`null`; only an absent payload is missing. -/
def Payload.analyzeRequest (codeLimit : Int) : Payload → Checked AnalyzeRequest
  | .absent => Checked.under bodyStep (.flaw .missing)
  | .value (.obj members) => (AnalyzeRequest.ofMembers codeLimit members).under bodyStep
  | .value _ | .foreign => Checked.under bodyStep (.flaw .noAttributes)

/-- The request for an analysis in a request. Malformed JSON is a flaw at the position of the fault;
nothing is given where the payload is unreadable. -/
def Request.analyzeRequest? (codeLimit : Int) (r : Request) : Option (Checked AnalyzeRequest) :=
  match r.payload with
  | .ok payload => some (payload.analyzeRequest codeLimit)
  | .error (.malformed position) =>
    some (.flawed [{ path := [bodyStep, .item position], defect := .malformedJson }])
  | .error .unreadable => none

end BigO.Service
