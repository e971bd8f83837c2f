import BigO.Provider.Rail
import BigO.Report.Basic
import BigO.Report.Prompt

/-! The reporter: it asks the rail for a report and always hands one back where the provider fails
in one of the expected ways. It builds its provider when it first needs it and keeps it until it
is closed. -/

namespace BigO

/-- A reporter: how its provider is configured, the provider once it is built, the client that the
provider uses, and how often building a provider was tried. -/
structure Reporter where
  config : ProviderConfig
  provider : Option Provider := none
  client : Client := .absent
  constructions : Nat := 0

namespace Reporter

/-- The provider, built if need be, and the reporter after that. A new provider has no client yet.
-/
def provider? (r : Reporter) : Except ConfigurationFault Provider × Reporter :=
  match r.provider with
  | some p => (.ok p, r)
  | none =>
    let tried := { r with constructions := r.constructions + 1 }
    match Provider.build r.config with
    | .ok p => (.ok p, { tried with provider := some p, client := .absent })
    | .error fault => (.error fault, tried)

/-- The report that an answer holds. A report without a language is about the language asked for. -/
def reportFrom (language : Text) (value : Json) (model : Text) :
    Except Failure (Checked Report) :=
  match value with
  | .obj members =>
    let members :=
      if (Json.member? members (text "language")).isSome then members
      else members ++ [(text "language", .str language)]
    match Report.ofMembers members with
    | .valid report => .ok (.valid { report with model := some model })
    | .flawed flaws => .ok (.flawed flaws)
  | value => .error (.provider (text "Expected a JSON object, got " ++ value.kind) none)

/-- Asks a provider for a report. -/
def reportWith (p : Provider) (code language : Text) : Exchange Report := do
  let answer ← Exchange.attempt do
    let (value, model) ← p.completeJson (Prompt.question code) (Prompt.instructions language)
    Exchange.ofExcept (reportFrom language value model)
  match answer with
  | .ok (.valid report) => return report
  | .ok (.flawed flaws) =>
    Exchange.log (.reporter .error
      (text "AI report did not match schema: " ++ Text.ofNat flaws.length))
    return Report.unavailable language (text "response did not match the report schema")
  | .error (.provider message _) =>
    Exchange.log (.reporter .error (text "AI report failed: " ++ message))
    return Report.unavailable language message
  | .error failure => Exchange.fail failure

/-- A report about a source text, and the reporter after that. -/
def report (r : Reporter) (code language : Text) : Exchange Report × Reporter :=
  match r.provider? with
  | (.ok p, r) => (reportWith p code language, r)
  | (.error fault, r) =>
    (do
      Exchange.log (.reporter .warning (text "AI provider not configured: " ++ fault.message))
      return Report.keyMissing language, r)

/-- Closes the client of the provider, if there is a provider, and gives the provider up. -/
def close (r : Reporter) : Exchange Unit × Reporter :=
  match r.provider with
  | some _ => (Exchange.disconnect, { r with provider := none })
  | none => (return (), r)

/-- What is asked of a reporter. -/
inductive Step where
  | report (code language : Text)
  | close

/-- What a step gives. -/
inductive Answer where
  | report (report : Report)
  | closed

/-- One step of a session, and the reporter after it. -/
def step (r : Reporter) : Step → Exchange Answer × Reporter
  | .report code language =>
    let (exchange, r) := r.report code language
    (do return .report (← exchange), r)
  | .close =>
    let (exchange, r) := r.close
    (do
      exchange
      return .closed, r)

/-- What became of a step of a session: its result, its trace, and how often building a provider had
been tried by then. -/
structure Record where
  result : Except Failure Answer
  trace : Trace
  constructions : Nat

/-- The records of a session. A step that fails leaves the session going. -/
def session (r : Reporter) (u : Outcomes) : List Step → List Record
  | [] => []
  | s :: steps =>
    let (exchange, r) := r.step s
    let ending := exchange r.client u
    { result := ending.result, trace := ending.trace, constructions := r.constructions } ::
      session { r with client := ending.client } (u.drop ending.trace.requests.length) steps

end Reporter

end BigO
