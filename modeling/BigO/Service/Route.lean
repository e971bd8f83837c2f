import BigO.Service.Message

/-! Routes: which endpoint a method and a path lead to. A path that ends in slashes, or is empty, is
sent on to the path with the slashes dropped or added, if there is a route for that. -/

namespace BigO.Service

/-- What the service can be asked for. -/
inductive Endpoint where
  | overview
  | health
  | analyze
  | report
deriving DecidableEq

/-- A way to an endpoint. -/
structure Route where
  method : Text
  path : Text
  endpoint : Endpoint

/-- The path of an endpoint in the first version of the interface. -/
def versioned (path : String) : Text := text "/api/v1" ++ text path

/-- All routes. No two have the same path. -/
def routes : List Route := [
  { method := text "GET", path := text "/", endpoint := .overview },
  { method := text "GET", path := versioned "/health", endpoint := .health },
  { method := text "POST", path := versioned "/analyze", endpoint := .analyze },
  { method := text "POST", path := versioned "/analyze/ai", endpoint := .report },
  { method := text "GET", path := text "/health", endpoint := .health },
  { method := text "POST", path := text "/analyze", endpoint := .analyze },
  { method := text "POST", path := text "/analyze/ai", endpoint := .report }]

/-- A path leads along a route if it is the route's own, or that with one line feed behind it. -/
def Route.fits (r : Route) (path : Text) : Bool :=
  path = r.path || path = r.path ++ text "\n"

/-- The route of a path. -/
def route? (path : Text) : Option Route := routes.find? (·.fits path)

/-- The path to send on to: without the slashes at its end, or else with one. -/
def slashTurned (path : Text) : Text :=
  let slash := CodePoint.ofChar '/'
  if path.getLast? = some slash then (path.reverse.dropWhile (· = slash)).reverse
  else path ++ [slash]

/-- Where a request goes. -/
inductive Target where
  | endpoint (e : Endpoint)
  /-- There is a route, but for another method. -/
  | wrongMethod (allowed : Text)
  | elsewhere (path : Text)
  | nowhere
deriving DecidableEq

/-- Where a method and a path lead. Methods are case-sensitive. -/
def target (method path : Text) : Target :=
  match route? path with
  | some r => if r.method = method then .endpoint r.endpoint else .wrongMethod r.method
  | none =>
    let turned := slashTurned path
    if (route? turned).isSome then .elsewhere turned else .nowhere

/-- The address of the service, as its own redirections give it. -/
def address : Text := text "http://testserver"

/-- The answer that sends a request on to another path; the query goes along. -/
def redirection (path query : Text) : Response :=
  let asked := if query.isEmpty then [] else text "?" ++ query
  { status := 307, headers := [(text "location", quoteAddress (address ++ path ++ asked))]
    body := [] }

end BigO.Service
