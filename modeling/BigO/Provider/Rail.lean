import BigO.Provider.Response

/-! The provider: chat completions from the first model of a rail that gives a usable answer. A
request that fails in passing is made again, at most twice; a model that fails is followed by the
next one. -/

namespace BigO

/-- What a provider is built from. -/
structure ProviderConfig where
  apiKey : Option Text
  models : List Text := defaultModels
  maxTokens : Number := .int 1024
  temperature : Number := .float (.ofRatio false 1 10)

/-- A provider that can be asked: there is a key, and there is a model. -/
structure Provider where
  apiKey : Text
  models : List Text
  maxTokens : Number
  temperature : Number
  apiKey_ne_nil : apiKey ≠ []
  models_ne_nil : models ≠ []

namespace Provider

/-- A provider, or why none can be built. -/
def build (config : ProviderConfig) : Except ConfigurationFault Provider :=
  match config.apiKey with
  | none => .error .noKey
  | some key =>
    if hkey : key = [] then .error .noKey
    else if hmodels : config.models = [] then .error .emptyRail
    else .ok { apiKey := key, models := config.models, maxTokens := config.maxTokens
               temperature := config.temperature, apiKey_ne_nil := hkey, models_ne_nil := hmodels }

/-- The authorization with which clients are opened. -/
def authorization (p : Provider) : Text := text "Bearer " ++ p.apiKey

/-- The body of a request. -/
def body (p : Provider) (model : Text) (messages : Json) : Json :=
  .obj [(text "model", .str model), (text "messages", messages),
    (text "max_tokens", .num p.maxTokens), (text "temperature", .num p.temperature),
    (text "response_format", .obj [(text "type", .string "json_object")])]

/-- The request for a completion that a client sends, or why it cannot be written: its body is JSON
in UTF-8. -/
def requestFor (p : Provider) (authorization model : Text) (messages : Json) :
    Except Failure CompletionRequest :=
  let body := p.body model messages
  if !body.allFinite then .error .notFinite
  else
    match Unencodable.inUtf8 (body.write .compact) with
    | some what => .error (.unencodable what)
    | none => .ok { model, authorization, body }

/-- The waits before the second and the third attempt. -/
def retryWaits : List Nat := [1000, 2000]

/-- A transport fault with its message, or the value of the response that came. -/
abbrev Attempt := Except (TransportFault × Text) Json

/-- Makes the request once. -/
def askOnce (p : Provider) (model : Text) (messages : Json) : Exchange Attempt := do
  let authorization ← Exchange.connect p.authorization
  let request ← Exchange.ofExcept (p.requestFor authorization model messages)
  match ← Exchange.request request with
  | .response r => return .ok (← Exchange.ofExcept r.value)
  | .fault fault message => return .error (fault, message)

/-- Asks one model, and asks again after each of the waits while the request fails in passing. -/
def askAgain (p : Provider) (model : Text) (messages : Json) : (waits : List Nat) → Exchange Json
  | [] => do
    match ← p.askOnce model messages with
    | .ok value => return value
    | .error (fault, message) => Exchange.fail (.transport fault message)
  | wait :: waits => do
    match ← p.askOnce model messages with
    | .ok value => return value
    | .error (fault, message) =>
      if fault.isTransient then
        Exchange.wait wait
        askAgain p model messages waits
      else Exchange.fail (.transport fault message)

/-- Asks one model. -/
def ask (p : Provider) (model : Text) (messages : Json) : Exchange Json :=
  p.askAgain model messages retryWaits

/-- The text of the first choice in a completion. -/
def content? : Json → Option Text
  | .obj completion =>
    match Json.member? completion (text "choices") with
    | some (.arr (.obj choice :: _)) =>
      match Json.member? choice (text "message") with
      | some (.obj message) =>
        match Json.member? message (text "content") with
        | some (.str content) => some content
        | _ => none
      | _ => none
    | _ => none
  | _ => none

/-- A usable answer and the model that gave it. -/
structure Completion where
  content : Text
  model : Text
deriving DecidableEq

/-- The last error met on the rail: its message and status. -/
structure LastError where
  message : Text := text "All models returned empty response"
  status : Option Int := none

/-- Walks the rest of the rail; `last` is the error to end with when no model gives an answer. -/
def walk (p : Provider) (messages : Json) (last : LastError) : List Text → Exchange Completion
  | [] => Exchange.fail (.provider last.message last.status)
  | model :: models => do
    Exchange.log (.rail .info (text "Attempting model " ++ model))
    match ← (p.ask model messages).attempt with
    | .error (.provider message status) =>
      Exchange.log (.rail .warning
        (text "Model " ++ model ++ text " failed: " ++ message))
      walk p messages { message, status } models
    | .error (.transport fault message) =>
      if fault.isOfExchange then
        let worded := fault.wording message
        Exchange.log (.rail .warning
          (text "Model " ++ model ++ text " unreachable: " ++ worded))
        walk p messages { message := worded, status := none } models
      else Exchange.fail (.transport fault message)
    | .error failure => Exchange.fail failure
    | .ok completion =>
      match content? completion with
      | none =>
        Exchange.log (.rail .warning
          (text "Model " ++ model ++ text " returned no text content"))
        walk p messages last models
      | some content =>
        let stripped := content.strip
        if stripped.isEmpty then walk p messages last models
        else
          Exchange.log (.rail .info (text "Model " ++ model ++ text " answered"))
          return { content := stripped, model }

/-- The first usable answer along the rail. -/
def complete (p : Provider) (messages : Json) : Exchange Completion :=
  p.walk messages {} p.models

/-- The part of a text from its first opening brace to its last closing one. -/
def bracedPart? (content : Text) : Option Text :=
  let behind := content.dropWhile (· ≠ .openBrace)
  let part := (behind.reverse.dropWhile (· ≠ .closeBrace)).reverse
  if part.isEmpty then none else some part

/-- The answer is no JSON. -/
def unparsed (content : Text) : Failure :=
  .provider (text "Failed to parse JSON response: " ++
    content.take CompletionResponse.quoteLimit ++ text "...") none

/-- Reads the value that an answer is, or the one between its outermost braces. An integer with too
many digits and too deep a nesting are failures of their own. -/
def contentValue (content : Text) : Except Failure Json :=
  match Json.read content with
  | .ok value => .ok value
  | .error (.tooManyDigits count) => .error (.tooManyDigits count)
  | .error (.tooDeep container) => .error (.tooDeep container)
  | .error (.malformed ..) =>
    match bracedPart? content with
    | none => .error (unparsed content)
    | some part =>
      match Json.read part with
      | .ok value => .ok value
      | .error (.tooManyDigits count) => .error (.tooManyDigits count)
      | .error (.tooDeep container) => .error (.tooDeep container)
      | .error (.malformed ..) => .error (unparsed content)

/-- The two messages of a question: the instructions and what is asked. -/
def chat (instructions question : Text) : Json :=
  .arr [.obj [(text "role", .string "system"), (text "content", .str instructions)],
    .obj [(text "role", .string "user"), (text "content", .str question)]]

/-- The JSON value that the rail answers to a question, and the model that gave it. -/
def completeJson (p : Provider) (question instructions : Text) : Exchange (Json × Text) := do
  let completion ← p.complete (chat instructions question)
  let value ← Exchange.ofExcept (contentValue completion.content)
  return (value, completion.model)

end Provider

end BigO
