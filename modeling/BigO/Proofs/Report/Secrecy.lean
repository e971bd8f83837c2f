import BigO.Proofs.Provider.Completion
import BigO.Proofs.Report.Session

/-! Secrecy. The key and the source texts go to the completion service and nowhere else. Two
sessions with the same configuration but for the key, and with the same steps but for the source
texts, give the same answers, ask the same models, and wait and log the same. What they send differs
only in the authorization and in the words of the user.

The one place where the texts of a request are looked at is the encoding of its body. A fault that
is found there stands in the model or in the instructions, which are written before the question, so
that its place does not tell anything about the source text. -/

namespace BigO

/-- Two requests that differ at most in the authorization and in what the user's message says. -/
inductive CompletionRequest.ApartFromSecrets : CompletionRequest → CompletionRequest → Prop
  | intro (model authorization authorization' instructions question question' : Text)
      (front rest : List (Text × Json)) :
      ApartFromSecrets
        { model, authorization
          body := .obj (front ++ (text "messages", Provider.chat instructions question) :: rest) }
        { model, authorization := authorization'
          body := .obj (front ++ (text "messages", Provider.chat instructions question') :: rest) }

theorem CompletionRequest.ApartFromSecrets.model_eq {r s : CompletionRequest}
    (h : ApartFromSecrets r s) : r.model = s.model := by
  cases h
  rfl

/-! ### Requests -/

namespace Provider

/-- The name of a member, as it is written. -/
def named (name : String) : Text := Json.quote (text name) ++ text ":"

/-- What is written of a request in front of the question. -/
def bodyFront (model instructions : Text) : Text :=
  text "\x7b" ++ named "model" ++ Json.quote model ++ text "," ++ named "messages" ++ text "[" ++
    (Json.obj [(text "role", .string "system"), (text "content", .str instructions)]).write
      .compact ++
    text "," ++ text "\x7b" ++ named "role" ++ Json.quote (text "user") ++ text "," ++
    named "content"

/-- What is written of a request behind the question. -/
def bodyBack (p : Provider) : Text :=
  text "\x7d" ++ text "]" ++ text "," ++ named "max_tokens" ++ Json.writeNumber p.maxTokens ++
    text "," ++ named "temperature" ++ Json.writeNumber p.temperature ++ text "," ++
    named "response_format" ++
    (Json.obj [(text "type", .string "json_object")]).write .compact ++ text "\x7d"

theorem write_body_chat (p : Provider) (model instructions question : Text) :
    (p.body model (chat instructions question)).write .compact =
      bodyFront model instructions ++ (Json.quote question ++ p.bodyBack) := by
  simp only [body, chat, bodyFront, bodyBack, named, Json.write, Json.writeMembers,
    Json.writeItems, Json.string, Json.Spacing.compact, List.append_assoc]

theorem wellFormed_bodyBack (p : Provider) : p.bodyBack.wellFormed = true := by
  simp only [bodyBack, named, Json.write, Json.writeMembers, Json.string, Json.Spacing.compact,
    Text.wellFormed_append, Text.wellFormed_text, Json.wellFormed_quote,
    Json.wellFormed_writeNumber, Bool.and_self]

/-- A fault in the encoding of a request stands in front of the question. -/
theorem inUtf8_write_body (p : Provider) (model instructions : Text) {question : Text}
    (h : question.wellFormed = true) :
    Unencodable.inUtf8 ((p.body model (chat instructions question)).write .compact) =
      Unencodable.inUtf8 (bodyFront model instructions) := by
  rw [write_body_chat, Unencodable.inUtf8_append]
  rw [Text.wellFormed_append, Json.wellFormed_quote, h, wellFormed_bodyBack, Bool.and_self]

end Provider

/-! ### Providers with two keys -/

namespace ProviderConfig

/-- The configuration with this key. -/
def withKey (config : ProviderConfig) (key : Text) : ProviderConfig :=
  { config with apiKey := some key }

/-- The provider with this key. -/
def provider (config : ProviderConfig) {key : Text} (hkey : key ≠ [])
    (hmodels : config.models ≠ []) : Provider where
  apiKey := key
  models := config.models
  maxTokens := config.maxTokens
  temperature := config.temperature
  apiKey_ne_nil := hkey
  models_ne_nil := hmodels

variable {config : ProviderConfig} {key key' : Text}

theorem build_withKey (hkey : key ≠ []) (hmodels : config.models ≠ []) :
    Provider.build (config.withKey key) = .ok (config.provider hkey hmodels) := by
  rw [Provider.build]
  exact (dif_neg hkey).trans (dif_neg hmodels)

theorem build_withKey_of_no_models (hkey : key ≠ []) (hmodels : config.models = []) :
    Provider.build (config.withKey key) = .error .emptyRail := by
  rw [Provider.build]
  exact (dif_neg hkey).trans (dif_pos hmodels)

/-- Keys that can be sent make no difference, and neither do questions that can be sent. -/
theorem asksAlike_withKeys (hkey : key ≠ []) (hkey' : key' ≠ []) (hmodels : config.models ≠ [])
    (hascii : ∀ c ∈ key, c.val < 0x80) (hascii' : ∀ c ∈ key', c.val < 0x80) (instructions : Text)
    {question question' : Text} (hquestion : question.wellFormed = true)
    (hquestion' : question'.wellFormed = true) :
    let p := config.provider hkey hmodels
    let q := config.provider hkey' hmodels
    AsksAlike (Exchange.BothServe p.authorization q.authorization)
      CompletionRequest.ApartFromSecrets p q (Provider.chat instructions question)
      (Provider.chat instructions question') := by
  intro p q
  refine { models_eq := rfl, connect := ?_, request := fun model => ?_ }
  · refine Exchange.alike_connect ?_
    have hp : p.HasAsciiKey := hascii
    have hq : q.HasAsciiKey := hascii'
    rw [Provider.inAscii_authorization.mpr hp, Provider.inAscii_authorization.mpr hq]
  · have hfinite : (p.body model (Provider.chat instructions question)).allFinite =
        (q.body model (Provider.chat instructions question')).allFinite := rfl
    simp only [Provider.requestFor, hfinite, Provider.inUtf8_write_body _ _ _ hquestion,
      Provider.inUtf8_write_body _ _ _ hquestion']
    split
    · exact .error _
    · split
      · exact .error _
      · exact .ok (.intro model _ _ instructions question question' [(text "model", .str model)] _)

end ProviderConfig

namespace Reporter

/-! ### Steps -/

/-- Two steps that differ at most in the source texts, which have an encoding. -/
inductive Step.ApartFromCode : Step → Step → Prop
  | report {code code' : Text} (hcode : code.wellFormed = true) (hcode' : code'.wellFormed = true)
      (language : Text) : ApartFromCode (.report code language) (.report code' language)
  | close : ApartFromCode .close .close

/-- Two records that only the completion service can tell apart, by the authorization and by what
the user's messages say. -/
structure Record.ApartFromSecrets (a b : Record) : Prop where
  result : a.result = b.result
  models : a.trace.requests.map (·.model) = b.trace.requests.map (·.model)
  waits : a.trace.waits = b.trace.waits
  log : a.trace.log = b.trace.log
  constructions : a.constructions = b.constructions
  requests : List.Forall₂ CompletionRequest.ApartFromSecrets a.trace.requests b.trace.requests

/-- Places in two sessions with the same outcomes left, of reporters that both have a provider or
both have none. -/
structure Standing.Beside (config config' : ProviderConfig) (now now' : Standing) : Prop where
  keeps : now.Keeps config
  keeps' : now'.Keeps config'
  outcomes_eq : now.outcomes = now'.outcomes
  provider_eq : now.reporter.provider.isNone = now'.reporter.provider.isNone
  constructions_eq : now.reporter.constructions = now'.reporter.constructions

theorem map_model_eq {r s : List CompletionRequest}
    (h : List.Forall₂ CompletionRequest.ApartFromSecrets r s) :
    r.map (·.model) = s.map (·.model) := by
  induction h with
  | nil => rfl
  | cons hfirst _ ih => rw [List.map_cons, List.map_cons, hfirst.model_eq, ih]

namespace Standing

variable {now now' : Standing} {s s' : Step}

/-- Two steps that end alike have records apart from the secrets only, and take as many outcomes. -/
theorem record_apart {S : Client → Client → Prop} (houtcomes : now.outcomes = now'.outcomes)
    (hends : EndingsAlike S CompletionRequest.ApartFromSecrets Eq (now.ending s) (now'.ending s'))
    (hconstructions : (now.next s).reporter.constructions = (now'.next s').reporter.constructions) :
    (now.record s).ApartFromSecrets (now'.record s') ∧
      (now.next s).outcomes = (now'.next s').outcomes where
  left := {
    result := hends.result.eq
    models := map_model_eq hends.requests
    waits := hends.waits
    log := hends.log
    constructions := hconstructions
    requests := hends.requests }
  right := by rw [next, next, houtcomes, hends.requests.length_eq]

variable {config : ProviderConfig} {key key' : Text}

/-- Where no provider can be built, the reporter has none. -/
theorem Keeps.provider_eq_none (h : now.Keeps config) {fault : ConfigurationFault}
    (hbuild : Provider.build config = .error fault) : now.reporter.provider = none :=
  (h.kept.report_eq_of_build_error (h.config_eq.symm ▸ hbuild) [] []).1

namespace Beside

variable (h : Beside (config.withKey key) (config.withKey key') now now')

include h in
theorem next_close :
    (now.record .close).ApartFromSecrets (now'.record .close) ∧
      Beside (config.withKey key) (config.withKey key') (now.next .close) (now'.next .close) := by
  obtain ⟨hkeeps, hprovider, hconstructions⟩ := keeps_next_close h.keeps
  obtain ⟨hkeeps', hprovider', hconstructions'⟩ := keeps_next_close h.keeps'
  have hcount : (now.next .close).reporter.constructions =
      (now'.next .close).reporter.constructions := by
    rw [hconstructions, hconstructions', h.constructions_eq]
  obtain ⟨hresult, htrace⟩ := (step_close now.reporter).2
    (now.reporter.step .close).2.client now.outcomes
  obtain ⟨hresult', htrace'⟩ := (step_close now'.reporter).2
    (now'.reporter.step .close).2.client now'.outcomes
  have hends : EndingsAlike (fun _ _ => True) CompletionRequest.ApartFromSecrets Eq
      (now.ending .close) (now'.ending .close) := by
    simp only [ending]
    refine { result := ?_, requests := ?_, waits := ?_, log := ?_, client := trivial }
    · rw [hresult, hresult']
      exact .ok rfl
    · rw [htrace, htrace']
      exact .nil
    · rw [htrace, htrace']
    · rw [htrace, htrace']
  obtain ⟨hrecord, houtcomes⟩ := record_apart h.outcomes_eq hends hcount
  exact ⟨hrecord, hkeeps, hkeeps', houtcomes, by rw [hprovider, hprovider'], hcount⟩

include h in
/-- Without a model no provider is built, whatever the key is. -/
theorem next_report_of_no_models (hkey : key ≠ []) (hkey' : key' ≠ [])
    (hmodels : config.models = []) (code code' language : Text) :
    (now.record (.report code language)).ApartFromSecrets
        (now'.record (.report code' language)) ∧
      Beside (config.withKey key) (config.withKey key') (now.next (.report code language))
        (now'.next (.report code' language)) := by
  have hbuild := ProviderConfig.build_withKey_of_no_models hkey hmodels
  have hbuild' := ProviderConfig.build_withKey_of_no_models hkey' hmodels
  obtain ⟨hkeeps, hconstructions⟩ :=
    keeps_next_report_of_build_error h.keeps hbuild code language
  obtain ⟨hkeeps', hconstructions'⟩ :=
    keeps_next_report_of_build_error h.keeps' hbuild' code' language
  have hprovider := hkeeps.provider_eq_none hbuild
  have hprovider' := hkeeps'.provider_eq_none hbuild'
  have hcount : (now.next (.report code language)).reporter.constructions =
      (now'.next (.report code' language)).reporter.constructions := by
    rw [hconstructions, hconstructions', h.constructions_eq]
  have hends : EndingsAlike (fun _ _ => True) CompletionRequest.ApartFromSecrets Eq
      (now.ending (.report code language)) (now'.ending (.report code' language)) := by
    simp only [ending, h.keeps.step_report_eq_of_build_error hbuild,
      h.keeps'.step_report_eq_of_build_error hbuild', h.outcomes_eq]
    refine Exchange.Alike.bind (R := Eq) ?_ (fun _ _ hreport => ?_) _ _ _ trivial
    · exact (Exchange.alike_log _).bind fun _ _ _ => Exchange.alike_pure rfl
    · exact Exchange.alike_pure (congrArg Answer.report hreport)
  obtain ⟨hrecord, houtcomes⟩ := record_apart h.outcomes_eq hends hcount
  exact ⟨hrecord, hkeeps, hkeeps', houtcomes, by rw [hprovider, hprovider'], hcount⟩

include h in
/-- With a model the two providers ask alike. -/
theorem next_report (hkey : key ≠ []) (hkey' : key' ≠ []) (hmodels : config.models ≠ [])
    (hascii : ∀ c ∈ key, c.val < 0x80) (hascii' : ∀ c ∈ key', c.val < 0x80) {code code' : Text}
    (hcode : code.wellFormed = true) (hcode' : code'.wellFormed = true) (language : Text) :
    (now.record (.report code language)).ApartFromSecrets
        (now'.record (.report code' language)) ∧
      Beside (config.withKey key) (config.withKey key') (now.next (.report code language))
        (now'.next (.report code' language)) := by
  have hbuild := ProviderConfig.build_withKey hkey hmodels
  have hbuild' := ProviderConfig.build_withKey hkey' hmodels
  obtain ⟨hkeeps, hprovider, hconstructions⟩ :=
    keeps_next_report h.keeps hbuild code language
  obtain ⟨hkeeps', hprovider', hconstructions'⟩ :=
    keeps_next_report h.keeps' hbuild' code' language
  have hcount : (now.next (.report code language)).reporter.constructions =
      (now'.next (.report code' language)).reporter.constructions := by
    rw [hconstructions, hconstructions', h.constructions_eq, h.provider_eq]
  obtain ⟨client, hserves, hstep⟩ := h.keeps.step_report_eq hbuild code language
  obtain ⟨client', hserves', hstep'⟩ := h.keeps'.step_report_eq hbuild' code' language
  have hasks := ProviderConfig.asksAlike_withKeys hkey hkey' hmodels hascii hascii'
    (Prompt.instructions language) ((Prompt.wellFormed_question code).trans hcode)
    ((Prompt.wellFormed_question code').trans hcode')
  have hends : EndingsAlike
      (Exchange.BothServe (config.provider hkey hmodels).authorization
        (config.provider hkey' hmodels).authorization)
      CompletionRequest.ApartFromSecrets Eq (now.ending (.report code language))
      (now'.ending (.report code' language)) := by
    simp only [ending, hstep, hstep', ← h.outcomes_eq]
    exact hasks.reportWith.bind (fun _ _ hreport =>
      Exchange.alike_pure (congrArg Answer.report hreport)) client client' now.outcomes
        ⟨hserves, hserves'⟩
  obtain ⟨hrecord, houtcomes⟩ := record_apart h.outcomes_eq hends hcount
  exact ⟨hrecord, hkeeps, hkeeps', houtcomes,
    by simp only [hprovider, hprovider', Option.isNone_some], hcount⟩

include h in
/-- A step keeps two sessions beside one another, and nothing but the secrets tells its records
apart. -/
theorem next (hkey : key ≠ []) (hkey' : key' ≠ []) (hascii : ∀ c ∈ key, c.val < 0x80)
    (hascii' : ∀ c ∈ key', c.val < 0x80) (hs : s.ApartFromCode s') :
    (now.record s).ApartFromSecrets (now'.record s') ∧
      Beside (config.withKey key) (config.withKey key') (now.next s) (now'.next s') := by
  cases hs with
  | close => exact h.next_close
  | @report code code' hcode hcode' language =>
    by_cases hmodels : config.models = []
    · exact h.next_report_of_no_models hkey hkey' hmodels code code' language
    · exact h.next_report hkey hkey' hmodels hascii hascii' hcode hcode' language

include h in
theorem records (hkey : key ≠ []) (hkey' : key' ≠ []) (hascii : ∀ c ∈ key, c.val < 0x80)
    (hascii' : ∀ c ∈ key', c.val < 0x80) {steps steps' : List Step}
    (hsteps : List.Forall₂ Step.ApartFromCode steps steps') :
    List.Forall₂ Record.ApartFromSecrets (now.records steps) (now'.records steps') := by
  -- What carries the induction is that the places stay beside one another.
  induction hsteps generalizing now now' with
  | nil => exact .nil
  | cons hs _ ih =>
    obtain ⟨hrecord, hnext⟩ := h.next hkey hkey' hascii hascii' hs
    exact .cons hrecord (ih hnext)

end Beside

end Standing

/-- The key and the source texts reach nothing but the requests. Two sessions with any two keys that
can be sent, and with any source texts that can be sent, have the same answers, models, waits and
log entries, and the requests differ at most in the authorization and in the user's message. -/
theorem secrets_reach_requests_only (config : ProviderConfig) {key key' : Text} (hkey : key ≠ [])
    (hkey' : key' ≠ []) (hascii : ∀ c ∈ key, c.val < 0x80) (hascii' : ∀ c ∈ key', c.val < 0x80)
    (u : Outcomes) {steps steps' : List Step}
    (hsteps : List.Forall₂ Step.ApartFromCode steps steps') :
    List.Forall₂ Record.ApartFromSecrets
      (({ config := config.withKey key } : Reporter).session u steps)
      (({ config := config.withKey key' } : Reporter).session u steps') := by
  have hnew : Standing.Beside (config.withKey key) (config.withKey key')
      (.new (config.withKey key) u) (.new (config.withKey key') u) :=
    { keeps := Standing.keeps_new _ u, keeps' := Standing.keeps_new _ u, outcomes_eq := rfl
      provider_eq := rfl, constructions_eq := rfl }
  exact hnew.records hkey hkey' hascii hascii' hsteps

/-- Two sessions with different keys and source texts, over a closing, whose answers are no JSON. -/
theorem secrets_reach_requests_only_over_closing :
    let config : ProviderConfig := { apiKey := none }
    let u : Outcomes := fun _ => .response .greeting
    let steps : List Step := [.report (text "x") (text "python"), .close, .report [] (text "c")]
    let steps' : List Step :=
      [.report (text "while") (text "python"), .close, .report (text "\n") (text "c")]
    (text "k" ≠ [] ∧ text "key" ≠ []) ∧
      ((∀ c ∈ text "k", c.val < 0x80) ∧ ∀ c ∈ text "key", c.val < 0x80) ∧
      List.Forall₂ Step.ApartFromCode steps steps' ∧
      List.Forall₂ Record.ApartFromSecrets
        (({ config := config.withKey (text "k") } : Reporter).session u steps)
        (({ config := config.withKey (text "key") } : Reporter).session u steps') := by
  intro config u steps steps'
  have hkey : text "k" ≠ [] := by decide
  have hkey' : text "key" ≠ [] := by decide
  have hascii : ∀ c ∈ text "k", c.val < 0x80 := by decide
  have hascii' : ∀ c ∈ text "key", c.val < 0x80 := by decide
  have hsteps : List.Forall₂ Step.ApartFromCode steps steps' :=
    .cons (.report (by decide) (by decide) _)
      (.cons .close (.cons (.report rfl (by decide) _) .nil))
  exact ⟨⟨hkey, hkey'⟩, ⟨hascii, hascii'⟩, hsteps,
    secrets_reach_requests_only config hkey hkey' hascii hascii' u hsteps⟩

end Reporter

end BigO
