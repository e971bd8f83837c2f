import BigO.Json.Writer
import BigO.Text.Decoding

/-! Requests and responses of the service. -/

namespace BigO.Service

/-- Header fields, the first of a name before later ones. Names are in lower case. -/
abbrev Headers := List (Text × Text)

/-- A request. The path is decoded; the query is as it was sent, without the question mark. -/
structure Request where
  method : Text
  path : Text
  query : Text
  headers : Headers
  body : List UInt8

/-- A response. The body goes out in UTF-8. -/
structure Response where
  status : Nat
  headers : Headers
  body : Text
deriving DecidableEq

namespace Request

/-- The first header field with this name. -/
def header? (r : Request) (name : String) : Option Text :=
  (r.headers.find? (·.1 = text name)).map (·.2)

/-- The path as log entries show it, in which line feeds are left out. -/
def shownPath (r : Request) : Text := r.path.filter fun (c : CodePoint) => c ≠ '\n'

end Request

namespace Response

/-- A response that carries a JSON value. -/
def ofJson (status : Nat) (value : Json) : Response :=
  { status, headers := [(text "content-type", text "application/json")]
    body := value.write .compact }

/-- A response that carries plain text. -/
def ofText (status : Nat) (body : Text) : Response :=
  { status, headers := [(text "content-type", text "text/plain; charset=utf-8")], body }

/-- A response with more header fields. -/
def addHeaders (r : Response) (fields : Headers) : Response :=
  { r with headers := r.headers ++ fields }

/-- The service's own answer where it gives no result: why, and details if there are any. -/
def refusal (status : Nat) (error : String) (details : Option Text) : Response :=
  .ofJson status (.obj ([(text "success", .bool false), (text "error", .string error)] ++
    (details.toList.map fun d => (text "details", .str d))))

/-- An answer that only has a detail. -/
def detail (status : Nat) (detail : String) : Response :=
  .ofJson status (.obj [(text "detail", .string detail)])

end Response

/-- A byte of an address as it stands in a header field: letters, digits and the marks of addresses
stay, all else becomes a percent sign with two hexadecimal digits. -/
def quoteByte (b : UInt8) : Text :=
  let c := CodePoint.ofNat b.toNat
  let marks := text "_.-~:/%#?=@[]!$&'()*+,;"
  if c.isLetter || c.isDigit || marks.contains c then [c]
  else CodePoint.ofChar '%' :: (Text.hexByte b).map fun (d : CodePoint) =>
    if d.isLetter then CodePoint.ofNat (d.val - 0x20) else d

/-- An address as it stands in a header field. -/
def quoteAddress (address : Text) : Text := (Text.toUtf8 address).flatMap quoteByte

end BigO.Service
