import BigO.Service.Payload
import BigO.Service.Route
import BigO.Analysis
import BigO.Report.Reporter

/-! The endpoints: overview, health, analysis and report. -/

namespace BigO.Service

/-- The version of the service. -/
def version : Text := text "1.0.0"

/-- The word for whether reports can be asked for. -/
def availability (s : Settings) : Json := .string (if s.aiEnabled then "enabled" else "disabled")

/-- What the service is and where its endpoints are. -/
def overview (s : Settings) : Response :=
  .ofJson 200 (.obj [(text "name", .string "LogicCraft Analyzer API"),
    (text "version", .str version), (text "ai", availability s),
    (text "endpoints", .obj [
      (text "/api/v1/analyze", .string "POST - Heuristic complexity (input: code, language)"),
      (text "/api/v1/analyze/ai", .string "POST - AI complexity report (input: code, language)"),
      (text "/health", .string "GET - Health check")])])

/-- The service is there; `now` is the time of the answer. -/
def health (s : Settings) (now : Text) : Response :=
  .ofJson 200 (.obj [(text "status", .string "ok"), (text "version", .str version),
    (text "ai", availability s), (text "timestamp", .str now)])

/-- A step of a path as log entries show it. -/
def shownStep : PathStep → Json
  | .field name => .str name
  | .item index => .int index

/-- A flaw as log entries show it: the last step to the value, and the code of the defect. -/
def shownFlaw (flaw : Flaw) : Json :=
  .obj [(text "field", (flaw.path.getLast?.map shownStep).getD (.string "unknown")),
    (text "type", .str flaw.defect.code)]

/-- How many flaws a log entry shows. -/
def shownFlaws : Nat := 5

/-- The answer to a request with flaws. What was sent is not logged. -/
def refuseFlaws (r : Request) (flaws : List Flaw) : Exchange Response := do
  Exchange.log (.service .warning (text "Validation error on " ++ r.method ++ text " " ++
    r.shownPath ++ text ": " ++ Json.display (.arr ((flaws.take shownFlaws).map shownFlaw))))
  return .refusal 422 "Invalid request format" none

/-- Answers a request for an analysis, once it is checked. -/
def answering (s : Settings) (r : Request) (answer : AnalyzeRequest → Exchange Response) :
    Exchange Response :=
  match r.analyzeRequest? s.maxCodeLength with
  | none => return .detail 400 "There was an error parsing the body"
  | some (.flawed flaws) => refuseFlaws r flaws
  | some (.valid request) => answer request

/-- The estimate for a source text. -/
def analysis (request : AnalyzeRequest) : Response :=
  .ofJson 200 (.obj [(text "success", .bool true), (text "language", .str request.language),
    (text "result", (analyze request.code request.language).toJson)])

/-- The provider that the settings describe. -/
def providerConfig (s : Settings) : ProviderConfig :=
  { apiKey := s.apiKey, models := s.rail, maxTokens := .int s.maxTokens
    temperature := s.temperature }

/-- All texts of the answer with a report, in the order in which they are written. -/
def reportTexts (report : Report) : List Text :=
  report.model.toList ++ [report.language, report.time, report.space, report.explanation] ++
    report.suggestions ++ report.model.toList

/-- The answer with a report, unless one of its texts has no encoding. -/
def reportResponse (report : Report) : Except Failure Response :=
  match (reportTexts report).findSome? Unencodable.inUtf8 with
  | some what => .error (.unserializable what)
  | none =>
    .ok (.ofJson 200 (.obj [(text "success", .bool true),
      (text "model", Report.optionalText report.model), (text "result", report.toJson)]))

/-- A report about a source text. Each request has a reporter of its own, and its own client. -/
def report (s : Settings) (request : AnalyzeRequest) : Exchange Response := do
  let reporter : Reporter := { config := providerConfig s }
  let report ← (reporter.report request.code request.language).1.apart
  Exchange.ofExcept (reportResponse report)

/-- The answer of an endpoint. -/
def Endpoint.answer (s : Settings) (now : Text) (r : Request) : Endpoint → Exchange Response
  | .overview => return Service.overview s
  | .health => return Service.health s now
  | .analyze => answering s r fun request => return analysis request
  | .report => answering s r (Service.report s)

/-- Leads a request to its endpoint. -/
def dispatch (s : Settings) (now : Text) (r : Request) : Exchange Response :=
  match target r.method r.path with
  | .endpoint e => e.answer s now r
  | .wrongMethod allowed =>
    return (Response.detail 405 "Method Not Allowed").addHeaders [(text "allow", allowed)]
  | .elsewhere path => return redirection path r.query
  | .nowhere => return .detail 404 "Not Found"

end BigO.Service
