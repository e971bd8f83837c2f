import BigO.Json.Encoding
import BigO.Provider.ContentType
import BigO.Json.Display

/-! What may go wrong between the service and a language model. -/

namespace BigO

/-- The ways in which a request fails without a response. Some are told apart less than others: a
timeout, an error of the network or of the protocol, of the transport or of the request at all. -/
inductive TransportFault where
  | timeout
  | connectTimeout
  | readTimeout
  | writeTimeout
  | poolTimeout
  | networkError
  | connectError
  | readError
  | writeError
  | closeError
  | protocolError
  | remoteProtocolError
  | localProtocolError
  | unsupportedProtocol
  | proxyError
  | transportError
  | decodingError
  | tooManyRedirects
  | requestError
  | exchangeError
  | invalidUrl
  | cookieConflict
  | streamError
  | runtimeError
  | keyError
deriving DecidableEq

namespace TransportFault

/-- All ways, in no particular order. -/
def all : List TransportFault :=
  [.timeout, .connectTimeout, .readTimeout, .writeTimeout, .poolTimeout, .networkError,
    .connectError, .readError, .writeError, .closeError, .protocolError, .remoteProtocolError,
    .localProtocolError, .unsupportedProtocol, .proxyError, .transportError, .decodingError,
    .tooManyRedirects, .requestError, .exchangeError, .invalidUrl, .cookieConflict, .streamError,
    .runtimeError, .keyError]

/-- The name of a fault. -/
def name : TransportFault → Text
  | .timeout => text "TimeoutException"
  | .connectTimeout => text "ConnectTimeout"
  | .readTimeout => text "ReadTimeout"
  | .writeTimeout => text "WriteTimeout"
  | .poolTimeout => text "PoolTimeout"
  | .networkError => text "NetworkError"
  | .connectError => text "ConnectError"
  | .readError => text "ReadError"
  | .writeError => text "WriteError"
  | .closeError => text "CloseError"
  | .protocolError => text "ProtocolError"
  | .remoteProtocolError => text "RemoteProtocolError"
  | .localProtocolError => text "LocalProtocolError"
  | .unsupportedProtocol => text "UnsupportedProtocol"
  | .proxyError => text "ProxyError"
  | .transportError => text "TransportError"
  | .decodingError => text "DecodingError"
  | .tooManyRedirects => text "TooManyRedirects"
  | .requestError => text "RequestError"
  | .exchangeError => text "HTTPError"
  | .invalidUrl => text "InvalidURL"
  | .cookieConflict => text "CookieConflict"
  | .streamError => text "StreamError"
  | .runtimeError => text "RuntimeError"
  | .keyError => text "KeyError"

/-- Timeouts and network errors pass, so the request is made again. -/
def isTransient : TransportFault → Bool
  | .timeout | .connectTimeout | .readTimeout | .writeTimeout | .poolTimeout => true
  | .networkError | .connectError | .readError | .writeError | .closeError => true
  | _ => false

/-- The fault belongs to the exchange with one model, so the next model is asked. -/
def isOfExchange : TransportFault → Bool
  | .invalidUrl | .cookieConflict | .streamError | .runtimeError | .keyError => false
  | _ => true

/-- How a fault with this message is worded. -/
def wording (fault : TransportFault) (message : Text) : Text :=
  match fault with
  | .keyError => Json.displayQuoted message
  | _ => message

end TransportFault

/-- A run of code points that an encoding has no bytes for: the codec, the first of them, its
place in the text, how many they are, and why. -/
structure Unencodable where
  codec : Text
  first : CodePoint
  place : Nat
  count : Nat
  reason : Text
deriving DecidableEq

namespace Unencodable

/-- The first run of code points of a class in a text that begins at `place`. -/
def runFrom (bad : CodePoint → Bool) (place : Nat) : Text → Option (CodePoint × Nat × Nat)
  | [] => none
  | c :: rest =>
    if bad c then some (c, place, (rest.takeWhile bad).length + 1)
    else runFrom bad (place + 1) rest

/-- The first lone surrogates of a text. -/
def inUtf8 (t : Text) : Option Unencodable :=
  (runFrom CodePoint.isSurrogate 0 t).map fun (first, place, count) =>
    { codec := text "utf-8", first, place, count, reason := text "surrogates not allowed" }

/-- The first code points of a text that are not in ASCII. -/
def inAscii (t : Text) : Option Unencodable :=
  (runFrom (fun c => 0x80 ≤ c.val) 0 t).map fun (first, place, count) =>
    { codec := text "ascii", first, place, count, reason := text "ordinal not in range(128)" }

/-- The wording. -/
def message (u : Unencodable) : Text :=
  text "'" ++ u.codec ++ text "' codec can't encode character" ++
    (if u.count = 1 then
      text " '" ++ Json.numericEscape u.first ++ text "' in position " ++ Text.ofNat u.place
    else
      text "s in position " ++ Text.ofNat u.place ++ text "-" ++
        Text.ofNat (u.place + u.count - 1)) ++
    text ": " ++ u.reason

end Unencodable

/-- Why no provider can be built. -/
inductive ConfigurationFault where
  | noKey
  | emptyRail
deriving DecidableEq

/-- The wording. -/
def ConfigurationFault.message : ConfigurationFault → Text
  | .noKey => text "OPENROUTER_API_KEY not set. Get your key from https://openrouter.ai/keys"
  | .emptyRail => text "At least one OpenRouter model must be configured"

/-- Why an operation gives no result. -/
inductive Failure where
  /-- A model answered with an error or with nothing usable; `status` is that of its response. -/
  | provider (message : Text) (status : Option Int)
  | transport (fault : TransportFault) (message : Text)
  | configuration (fault : ConfigurationFault)
  | unencodable (what : Unencodable)
  /-- A number that is not finite stands in a request body. -/
  | notFinite
  /-- An integer in a model's answer has too many digits. -/
  | tooManyDigits (count : Nat)
  | tooDeep (container : Json.Container)
  /-- A body has a content type that cannot be read. -/
  | contentType (fault : ContentType.Fault)
  /-- A body is in a charset that gives no text. -/
  | charset (fault : Text.CharsetFault)
  /-- A report holds a text that has no encoding. -/
  | unserializable (what : Unencodable)
deriving DecidableEq

namespace Failure

/-- The name of the kind of a failure. -/
def name : Failure → Text
  | .provider .. => text "AIProviderError"
  | .transport fault _ => fault.name
  | .configuration _ => text "ValueError"
  | .unencodable _ => text "UnicodeEncodeError"
  | .notFinite => text "ValueError"
  | .tooManyDigits _ => text "ValueError"
  | .tooDeep _ => text "RecursionError"
  | .contentType fault => fault.name
  | .charset fault => fault.name
  | .unserializable _ => text "PydanticSerializationError"

/-- The wording of a failure. -/
def message : Failure → Text
  | .provider message _ => message
  | .transport fault message => fault.wording message
  | .configuration fault => fault.message
  | .unencodable what => what.message
  | .notFinite => text "Out of range float values are not JSON compliant"
  | .tooManyDigits count => Json.ReadError.message [] (.tooManyDigits count)
  | .tooDeep container => Json.ReadError.message [] (.tooDeep container)
  | .contentType fault => fault.message
  | .charset fault => fault.message
  | .unserializable what =>
    text "Error serializing to JSON: UnicodeEncodeError: " ++ what.message

end Failure

end BigO
