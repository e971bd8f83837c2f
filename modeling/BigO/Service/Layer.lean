import BigO.Service.Endpoint

/-! The layers around the endpoints. From the outside to the inside: failures become answers, the
rules for calls from browsers, the limit on the declared size, and the header fields that harden an
answer. A layer that answers by itself keeps the request from those inside it. -/

namespace BigO.Service

/-- What answers requests; it may fail. -/
abbrev Handler := Request → Exchange Response

/-- The header fields that tell browsers to be careful. -/
def hardening : Headers := [
  (text "x-content-type-options", text "nosniff"), (text "x-frame-options", text "DENY"),
  (text "referrer-policy", text "strict-origin-when-cross-origin")]

/-- Hardens all answers of a handler. -/
def hardened (inner : Handler) : Handler := fun r => do
  return (← inner r).addHeaders hardening

/-- The methods of requests whose declared size is checked. -/
def sizedMethods : List Text := ["POST", "PUT", "PATCH"].map text

/-- The size that a request declares; without a declaration it is zero. -/
def Request.declaredSize? (r : Request) : Option Int :=
  match r.header? "content-length" with
  | none => some 0
  | some declared => if declared.isEmpty then some 0 else Lenient.readHeaderInteger declared

/-- Refuses requests that declare more bytes than the limit. -/
def sizeLimited (limit : Int) (inner : Handler) : Handler := fun r =>
  if sizedMethods.contains r.method then
    match r.declaredSize? with
    | none => return .refusal 400 "Invalid Content-Length header" none
    | some size =>
      if limit < size then
        return .refusal 413 "request_too_large"
          (some (text "Request body exceeds " ++ Text.ofInt limit ++ text " bytes"))
      else inner r
  else inner r

/-- The origins that may call, which are those of the unchanged settings. -/
def callers : List Text := Settings.origins {}

/-- The methods that browsers may use from another origin. -/
def callerMethods : List Text := ["GET", "POST", "OPTIONS"].map text

/-- Tells a browser that the answer may be given to the origin, if it may. -/
def callerFields (origin : Text) : Headers :=
  (text "access-control-allow-credentials", text "true") ::
    (if callers.contains origin then [(text "access-control-allow-origin", origin)] else [])

/-- The answer to a browser that asks beforehand whether it may use a method from an origin. -/
def preflight (r : Request) (origin method : Text) : Response :=
  let asked := r.header? "access-control-request-headers"
  let privately := r.header? "access-control-request-private-network"
  let objections :=
    (if callers.contains origin then [] else [text "origin"]) ++
    (if callerMethods.contains method then [] else [text "method"]) ++
    (if privately.isSome then [text "private-network"] else [])
  let answer :=
    if objections.isEmpty then Response.ofText 200 (text "OK")
    else .ofText 400 (text "Disallowed CORS " ++ Text.join (text ", ") objections)
  answer.addHeaders <|
    [(text "vary", Text.join (text ", ") (["Origin", "Access-Control-Request-Method",
        "Access-Control-Request-Headers", "Access-Control-Request-Private-Network"].map text)),
      (text "access-control-allow-methods", Text.join (text ", ") callerMethods),
      (text "access-control-max-age", text "600")] ++
    callerFields origin ++
    (asked.toList.map fun names => (text "access-control-allow-headers", names))

/-- Keeps the rules for calls from browsers. -/
def withCallers (inner : Handler) : Handler := fun r =>
  match r.header? "origin" with
  | none => do return (← inner r).addHeaders [(text "vary", text "Origin")]
  | some origin =>
    match r.header? "access-control-request-method" with
    | some method =>
      if r.method = text "OPTIONS" then return preflight r origin method
      else do return (← inner r).addHeaders ((text "vary", text "Origin") :: callerFields origin)
    | none => do return (← inner r).addHeaders ((text "vary", text "Origin") :: callerFields origin)

/-- What becomes of a request: the response, and the failure behind it if there was one. -/
structure Reply where
  response : Response
  failure : Option Failure

/-- How much of a failure's wording is logged. -/
def failureQuote : Nat := 200

/-- Turns failures into answers that tell nothing about them. -/
def guarded (inner : Handler) (r : Request) : Exchange Reply := do
  match ← (inner r).attempt with
  | .ok response => return { response, failure := none }
  | .error failure =>
    Exchange.log (.service .error (text "Unhandled exception on " ++ r.method ++ text " " ++
      r.shownPath ++ text ": " ++ failure.name ++ text ": " ++
      failure.message.take failureQuote))
    return { response := .refusal 500 "Internal server error" none, failure := some failure }

/-- The service: all layers around the endpoints. -/
def handle (s : Settings) (now : Text) : Request → Exchange Reply :=
  guarded (withCallers (sizeLimited s.maxRequestSize (hardened (dispatch s now))))

end BigO.Service
