import BigO.Provider.Address
import BigO.Provider.ContentCoding
import BigO.Provider.Exchange

/-! Reading the responses of the completion service: the body without its codings, its text in the
charset that its content type names, and the value that it holds. -/

namespace BigO

namespace CompletionResponse

/-! ### Receiving -/

/-- The values of the header fields with a name in lower case, whose own case does not count. -/
def headerValues (r : CompletionResponse) (name : String) : List Text :=
  (r.headers.filter fun field => field.1.map CodePoint.lowerAscii = BigO.text name).map (·.2)

/-- The value of a header field. Fields of one name are taken together with commas. -/
def header? (r : CompletionResponse) (name : String) : Option Text :=
  match r.headerValues name with
  | [] => none
  | values => some (Text.join (BigO.text ", ") values)

/-- The first code points outside ASCII in a header field, its name before its value. -/
def unencodableHeader? (r : CompletionResponse) : Option Unencodable :=
  r.headers.findSome? fun field => (Unencodable.inAscii field.1).or (Unencodable.inAscii field.2)

/-- The codings of the body in the order in which they were applied. -/
def codings (r : CompletionResponse) : List ContentCoding :=
  (r.headerValues "content-encoding").flatMap fun value =>
    (Text.splitOn (CodePoint.ofChar ',') value).filterMap fun name =>
      ContentCoding.ofName? (Text.strip name).lower

/-- The body without its codings. -/
def content (r : CompletionResponse) : Except Failure (List UInt8) :=
  let decoded :=
    r.codings.reverse.foldlM (fun bytes coding => ContentCoding.decode coding bytes) r.body
  decoded.mapError fun what =>
    .transport .decodingError
      (BigO.text "Error -3 while decompressing data: " ++ BigO.text what.message)

/-- The statuses of responses that send a client on to another address. -/
def redirections : List Int := [301, 302, 303, 307, 308]

/-- Checks the address that a response sends a client on to, if it does. The client does not go
there, and yet does not take an address that it could not go to. -/
def checkRedirection (r : CompletionResponse) : Except Failure Unit := do
  if !redirections.contains r.status then return
  let some location := r.header? "location" | return
  let address ← (Address.read location).mapError fun fault =>
    .transport .remoteProtocolError
      (BigO.text "Invalid URL in location header: " ++ fault.message ++ BigO.text ".")
  if address.scheme ≠ [] ∧ address.host = [] then
    let _ ← (address.addHost CompletionRequest.host).mapError fun fault =>
      .transport .invalidUrl fault.message

/-- The response with its body decoded, if it can be received at all. -/
def received (r : CompletionResponse) : Except Failure CompletionResponse := do
  if let some what := r.unencodableHeader? then throw (.unencodable what)
  let body ← r.content
  r.checkRedirection
  return { r with body }

/-! ### Reading -/

/-- The charset of the body: the one that its content type names, or else UTF-8. -/
def charset (r : CompletionResponse) : Except ContentType.Fault Text.Charset :=
  match r.header? "content-type" with
  | some t => (ContentType.charset? t).map (·.getD .utf8)
  | none => .ok .utf8

/-- The body as text, with a mark for each part that does not decode. An empty body is an empty text
in every charset. -/
def text (r : CompletionResponse) : Except Failure Text := do
  if r.body.isEmpty then return []
  let charset ← r.charset.mapError .contentType
  (charset.lossy r.body).mapError .charset

/-- The value in the body. Nothing where the body is not JSON, an integer with too many digits
included; too deep a nesting is a failure. -/
def json? (r : CompletionResponse) : Except Failure (Option Json) :=
  match Json.readBytes r.body with
  | .ok value => .ok (some value)
  | .error (.unreadable (.tooDeep container)) => .error (.tooDeep container)
  | .error _ => .ok none

/-- What an error response says: the message of the error object in its body, or else its text. -/
def errorDetail (r : CompletionResponse) : Except Failure BigO.Text := do
  let body ← r.text
  let some (.obj members) ← r.json? | return body
  match Json.member? members (BigO.text "error") with
  | some (.obj error) =>
    return ((Json.member? error (BigO.text "message")).map Json.display).getD body
  | _ => return body

/-- How much of a body is quoted in messages. -/
def quoteLimit : Nat := 200

/-- The value of a response, or what is wrong with it. -/
def value (r : CompletionResponse) : Except Failure Json := do
  let r ← r.received
  if r.status ≠ 200 then
    let detail ← r.errorDetail
    throw (.provider (BigO.text "API error (" ++ Text.ofInt r.status ++ BigO.text "): " ++ detail)
      (some r.status))
  match ← r.json? with
  | some value => return value
  | none =>
    let body ← r.text
    throw (.provider (BigO.text "Non-JSON response body: " ++ body.take quoteLimit)
      (some r.status))

end CompletionResponse

end BigO
