import BigO.Provider.Failure
import BigO.Log

/-! Exchanges with the completion service, which has the language models. What becomes of the
requests to it is a stream of outcomes, one for each request in order. An exchange goes through a
client, reads outcomes from the stream, ends in a result or a failure, and leaves a trace: the
requests it made, the waits between them and its log entries. One exchange behind another goes on
with the client that the first left and where the first stopped reading. -/

namespace BigO

/-- A response of the completion service. The body may be coded as its header fields say. -/
structure CompletionResponse where
  status : Int
  headers : List (Text × Text)
  body : List UInt8

/-- What becomes of a request. -/
inductive Outcome where
  | response (r : CompletionResponse)
  | fault (fault : TransportFault) (message : Text)

/-- The outcomes of the requests to come. -/
abbrev Outcomes := Nat → Outcome

/-- A request as it leaves the service: the model it is for, the authorization and the body. -/
structure CompletionRequest where
  model : Text
  authorization : Text
  body : Json

namespace CompletionRequest

/-- All requests are posted. -/
def method : Text := text "POST"

/-- The host of the completion service. -/
def host : Text := text "openrouter.ai"

/-- Where the completions come from. -/
def url : Text := text "https://" ++ host ++ text "/api/v1/chat/completions"

/-- How the service names itself. -/
def title : Text := text "LogicCraft"

/-- The header fields of a request. -/
def headers (r : CompletionRequest) : List (Text × Text) :=
  [(text "authorization", r.authorization), (text "content-type", text "application/json"),
    (text "x-title", title)]

end CompletionRequest

/-- What an exchange leaves behind: its requests, the waits between them in milliseconds, and its
log entries, each in order. -/
structure Trace where
  requests : List CompletionRequest := []
  waits : List Nat := []
  log : List LogEntry := []

namespace Trace

/-- One trace behind another. -/
def append (a b : Trace) : Trace :=
  { requests := a.requests ++ b.requests, waits := a.waits ++ b.waits, log := a.log ++ b.log }

instance : Append Trace := ⟨append⟩

end Trace

/-- The outcomes that are left when some are read. -/
def Outcomes.drop (u : Outcomes) (n : Nat) : Outcomes := fun i => u (n + i)

/-- The client through which requests are made. Before the first request there is none. An open
client has the authorization with which it was opened, and sends it with every request. -/
inductive Client where
  | absent
  | opened (authorization : Text)
  | closed
deriving DecidableEq

/-- How an exchange ends: its result, its trace, and the client that it leaves. -/
structure Ending (α : Type) where
  result : Except Failure α
  trace : Trace
  client : Client

/-- A computation with the completion service. It reads one outcome for each request in its
trace. -/
def Exchange (α : Type) := Client → Outcomes → Ending α

namespace Exchange

variable {α β : Type}

/-- A result without any request. -/
protected def pure (a : α) : Exchange α := fun client _ =>
  { result := .ok a, trace := {}, client }

/-- One exchange behind another; the second is not begun when the first fails. -/
protected def bind (x : Exchange α) (f : α → Exchange β) : Exchange β := fun client u =>
  let first := x client u
  match first.result with
  | .error e => { first with result := .error e }
  | .ok a =>
    let second := f a first.client (u.drop first.trace.requests.length)
    { second with trace := first.trace ++ second.trace }

instance : Monad Exchange where
  pure := Exchange.pure
  bind := Exchange.bind

/-- A result that is there or not. -/
def ofExcept (result : Except Failure α) : Exchange α := fun client _ =>
  { result, trace := {}, client }

/-- Ends in a failure. -/
def fail (e : Failure) : Exchange α := ofExcept (.error e)

/-- Writes a log entry. -/
def log (entry : LogEntry) : Exchange Unit := fun client _ =>
  { result := .ok (), trace := { log := [entry] }, client }

/-- Waits that many milliseconds. -/
def wait (milliseconds : Nat) : Exchange Unit := fun client _ =>
  { result := .ok (), trace := { waits := [milliseconds] }, client }

/-- The authorization that the client sends. Where no client is open, one is opened with the given
authorization, which must be ASCII. -/
def connect (authorization : Text) : Exchange Text := fun client _ =>
  match client with
  | .opened sent => { result := .ok sent, trace := {}, client }
  | _ =>
    match Unencodable.inAscii authorization with
    | some what => { result := .error (.unencodable what), trace := {}, client }
    | none => { result := .ok authorization, trace := {}, client := .opened authorization }

/-- Closes the client if it is open. -/
def disconnect : Exchange Unit := fun client _ =>
  { result := .ok (), trace := {}
    client := match client with
      | .opened _ => .closed
      | other => other }

/-- Makes a request and gives what becomes of it. -/
def request (r : CompletionRequest) : Exchange Outcome := fun client u =>
  { result := .ok (u 0), trace := { requests := [r] }, client }

/-- The result or the failure of an exchange, as a result. -/
def attempt (x : Exchange α) : Exchange (Except Failure α) := fun client u =>
  let ending := x client u
  { ending with result := .ok ending.result }

/-- An exchange through a client of its own. -/
def apart (x : Exchange α) : Exchange α := fun client u => { x .absent u with client }

/-- Runs exchanges one after the other, each with the client and the outcomes that those before it
left. One that fails leaves the others going. -/
def runAll (client : Client) (u : Outcomes) : List (Exchange α) → List (Ending α)
  | [] => []
  | x :: xs =>
    let ending := x client u
    ending :: runAll ending.client (u.drop ending.trace.requests.length) xs

end Exchange

end BigO
