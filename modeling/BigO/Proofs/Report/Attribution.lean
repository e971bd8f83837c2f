import BigO.Proofs.Validation
import BigO.Proofs.Report.Delivery
import BigO.Proofs.Report.Session

/-! Who wrote a report. A report names a model exactly when it is what a JSON object says, and this
object is the answer in the last outcome that the session read for it; the model is then the one
that was asked for this answer, whatever the object says of itself. All other reports are those that
the reporter writes in place of a model. -/

namespace BigO

/-! ### What a report says -/

namespace Report

/-- A report says what a JSON object says. An object may leave out the explanation and the
suggestions, and one that leaves out the language speaks of the language asked for. What it takes
for its model must be a text or nothing, and is not looked at otherwise. -/
structure Tells (report : Report) (language : Text) (members : List (Text × Json)) : Prop where
  language : Json.member? members (text "language") = some (.str report.language) ∨
    Json.member? members (text "language") = none ∧ report.language = language
  time : Json.member? members (text "time") = some (.str report.time)
  space : Json.member? members (text "space") = some (.str report.space)
  explanation : Json.member? members (text "explanation") = some (.str report.explanation) ∨
    Json.member? members (text "explanation") = none ∧ report.explanation = []
  suggestions :
    Json.member? members (text "suggestions") = some (.arr (report.suggestions.map .str)) ∨
      Json.member? members (text "suggestions") = none ∧ report.suggestions = []
  model : ∀ entry, Json.member? members (text "model") = some entry →
    entry = .null ∨ ∃ name, entry = .str name

/-- The fields of a report are read one by one. -/
theorem ofMembers_eq_valid {members : List (Text × Json)} {report : Report} :
    ofMembers members = .valid report ↔
      (Json.member? members (text "language") = some (.str report.language) ∨
        Json.member? members (text "language") = none ∧ report.language = []) ∧
      Json.member? members (text "time") = some (.str report.time) ∧
      Json.member? members (text "space") = some (.str report.space) ∧
      (Json.member? members (text "explanation") = some (.str report.explanation) ∨
        Json.member? members (text "explanation") = none ∧ report.explanation = []) ∧
      (Json.member? members (text "suggestions") = some (.arr (report.suggestions.map .str)) ∨
        Json.member? members (text "suggestions") = none ∧ report.suggestions = []) ∧
      (Json.member? members (text "model") = some (optionalText report.model) ∨
        Json.member? members (text "model") = none ∧ report.model = none) := by
  rw [ofMembers]
  simp only [Checked.seq_eq_valid, Checked.map_eq_valid, Check.required_eq_valid,
    Check.optional_eq_valid, Check.asText_eq_valid, Check.asTexts_eq_valid,
    Check.asOptionalText_eq_valid, exists_eq_right]
  constructor
  · rintro ⟨_, _, ⟨_, _, ⟨_, _, ⟨_, _, ⟨_, _, ⟨_, hlanguage, rfl⟩, htime, rfl⟩, hspace, rfl⟩,
      hexplanation, rfl⟩, hsuggestions, rfl⟩, hmodel, rfl⟩
    exact ⟨hlanguage, htime, hspace, hexplanation, hsuggestions, hmodel⟩
  · rintro ⟨hlanguage, htime, hspace, hexplanation, hsuggestions, hmodel⟩
    exact ⟨_, _, ⟨_, _, ⟨_, _, ⟨_, _, ⟨_, _, ⟨_, hlanguage, rfl⟩, htime, rfl⟩, hspace, rfl⟩,
      hexplanation, rfl⟩, hsuggestions, rfl⟩, hmodel, rfl⟩

end Report

namespace Json

variable {members : List (Text × Json)} {name other : Text}

theorem member?_append_of_ne (h : name ≠ other) (value : Json) :
    member? (members ++ [(name, value)]) other = member? members other := by
  rw [member?, member?, List.find?_append]
  simp [h]

theorem member?_append_of_none (h : member? members name = none) (value : Json) :
    member? (members ++ [(name, value)]) name = some value := by
  rw [member?, Option.map_eq_none_iff] at h
  rw [member?, List.find?_append, h]
  simp

end Json

namespace Reporter

/-- An object that names no language is taken for one that names the language asked for. -/
def withLanguage (language : Text) (members : List (Text × Json)) : List (Text × Json) :=
  if (Json.member? members (text "language")).isSome then members
  else members ++ [(text "language", .str language)]

variable {language model name : Text} {members : List (Text × Json)} {report : Report}

theorem member?_withLanguage_of_ne (h : text "language" ≠ name) :
    Json.member? (withLanguage language members) name = Json.member? members name := by
  rw [withLanguage]
  split
  · rfl
  · exact Json.member?_append_of_ne h _

theorem member?_withLanguage_language :
    Json.member? (withLanguage language members) (text "language") =
      some ((Json.member? members (text "language")).getD (.str language)) := by
  rw [withLanguage]
  cases hlanguage : Json.member? members (text "language") with
  | some value => exact hlanguage
  | none => exact Json.member?_append_of_none hlanguage _

/-- Reading an object gives a report that says what the object says, and the model entry as it is.
-/
theorem ofMembers_withLanguage_eq_valid :
    Report.ofMembers (withLanguage language members) = .valid report ↔
      report.Tells language members ∧
        (Json.member? members (text "model") = some (Report.optionalText report.model) ∨
          Json.member? members (text "model") = none ∧ report.model = none) := by
  rw [Report.ofMembers_eq_valid, member?_withLanguage_language]
  simp only [member?_withLanguage_of_ne (show text "language" ≠ text "time" by decide),
    member?_withLanguage_of_ne (show text "language" ≠ text "space" by decide),
    member?_withLanguage_of_ne (show text "language" ≠ text "explanation" by decide),
    member?_withLanguage_of_ne (show text "language" ≠ text "suggestions" by decide),
    member?_withLanguage_of_ne (show text "language" ≠ text "model" by decide)]
  have hlanguage : (some ((Json.member? members (text "language")).getD (.str language)) =
        some (.str report.language) ∨
        some ((Json.member? members (text "language")).getD (.str language)) = none ∧
          report.language = []) ↔
      (Json.member? members (text "language") = some (.str report.language) ∨
        Json.member? members (text "language") = none ∧ report.language = language) := by
    cases Json.member? members (text "language") <;> simp [eq_comm]
  rw [hlanguage]
  constructor
  · rintro ⟨hlanguage, htime, hspace, hexplanation, hsuggestions, hmodel⟩
    refine ⟨⟨hlanguage, htime, hspace, hexplanation, hsuggestions, fun entry hentry => ?_⟩, hmodel⟩
    obtain hsome | ⟨hnone, -⟩ := hmodel
    · obtain rfl := Option.some.inj (hentry.symm.trans hsome)
      cases report.model with
      | none => exact .inl rfl
      | some name => exact .inr ⟨name, rfl⟩
    · cases hentry.symm.trans hnone
  · rintro ⟨h, hmodel⟩
    exact ⟨h.language, h.time, h.space, h.explanation, h.suggestions, hmodel⟩

theorem reportFrom_obj_of_valid {written : Report}
    (h : Report.ofMembers (withLanguage language members) = .valid written) (model : Text) :
    reportFrom language (.obj members) model =
      .ok (.valid { written with model := some model }) := by
  rw [withLanguage] at h
  simp only [reportFrom, h]

theorem reportFrom_obj_of_flawed {flaws : List Flaw}
    (h : Report.ofMembers (withLanguage language members) = .flawed flaws) (model : Text) :
    reportFrom language (.obj members) model = .ok (.flawed flaws) := by
  rw [withLanguage] at h
  simp only [reportFrom, h]

/-- The report that an object holds is what it says, and it is of the model that was asked. -/
theorem reportFrom_obj_eq_valid :
    reportFrom language (.obj members) model = .ok (.valid report) ↔
      report.model = some model ∧ report.Tells language members := by
  constructor
  · intro h
    cases hwritten : Report.ofMembers (withLanguage language members) with
    | flawed flaws =>
      rw [reportFrom_obj_of_flawed hwritten] at h
      cases h
    | valid written =>
      rw [reportFrom_obj_of_valid hwritten] at h
      cases h
      obtain ⟨htells, -⟩ := ofMembers_withLanguage_eq_valid.mp hwritten
      exact ⟨rfl, { htells with }⟩
  · rintro ⟨hmodel, htells⟩
    -- What the object takes for its model is read and then given up.
    obtain ⟨own, hown⟩ : ∃ own,
        Json.member? members (text "model") = some (Report.optionalText own) ∨
          Json.member? members (text "model") = none ∧ own = none := by
      cases hentry : Json.member? members (text "model") with
      | none => exact ⟨none, .inr ⟨rfl, rfl⟩⟩
      | some entry =>
        obtain rfl | ⟨name, rfl⟩ := htells.model entry hentry
        · exact ⟨none, .inl rfl⟩
        · exact ⟨some name, .inl rfl⟩
    have hwritten : Report.ofMembers (withLanguage language members) =
        .valid { report with model := own } :=
      ofMembers_withLanguage_eq_valid.mpr ⟨{ htells with }, hown⟩
    rw [reportFrom_obj_of_valid hwritten, ← hmodel]

theorem checkedAnswer_eq_valid_iff {result : Except Failure Provider.Completion} :
    checkedAnswer language result = .ok (.valid report) ↔
      ∃ completion members, result = .ok completion ∧
        Provider.contentValue completion.content = .ok (.obj members) ∧
        report.model = some completion.model ∧ report.Tells language members := by
  constructor
  · intro h
    cases result with
    | error failure => cases h
    | ok completion =>
      simp only [checkedAnswer, Except.bind] at h
      cases hvalue : Provider.contentValue completion.content with
      | error failure => rw [hvalue] at h; cases h
      | ok value =>
        rw [hvalue] at h
        cases value with
        | obj members => exact ⟨completion, members, rfl, hvalue, reportFrom_obj_eq_valid.mp h⟩
        | _ => cases h
  · rintro ⟨completion, members, rfl, hvalue, hreport⟩
    simp only [checkedAnswer, Except.bind, hvalue]
    exact reportFrom_obj_eq_valid.mpr hreport

/-- The rail has an answer of this model, with an object that says what the report says. -/
def SaidBy (report : Report) (language : Text) (result : Except Failure Provider.Completion)
    (model : Text) : Prop :=
  ∃ completion members, result = .ok completion ∧ completion.model = model ∧
    Provider.contentValue completion.content = .ok (.obj members) ∧ report.Tells language members

theorem saidBy_iff {result : Except Failure Provider.Completion} :
    SaidBy report language result model ↔
      checkedAnswer language result = .ok (.valid { report with model := some model }) := by
  rw [checkedAnswer_eq_valid_iff, SaidBy]
  refine exists₂_congr fun completion members => ?_
  constructor
  · rintro ⟨hresult, rfl, hvalue, htells⟩
    exact ⟨hresult, hvalue, rfl, { htells with }⟩
  · rintro ⟨hresult, hvalue, hmodel, htells⟩
    exact ⟨hresult, (Option.some.inj hmodel).symm, hvalue, { htells with }⟩

/-- Where a report is handed back, it is the one that was read, or it tells why none was read. -/
theorem reportOf_eq_ok {checked : Except Failure (Checked Report)}
    (h : reportOf language checked = .ok report) :
    checked = .ok (.valid report) ∨
      (∀ written, checked ≠ .ok (.valid written)) ∧
        ∃ reason, report = Report.unavailable language reason := by
  cases checked with
  | ok checked =>
    cases checked with
    | valid written => exact .inl (by rw [Except.ok.inj h])
    | flawed flaws => exact .inr ⟨nofun, _, (Except.ok.inj h).symm⟩
  | error failure =>
    cases failure with
    | provider message status => exact .inr ⟨nofun, _, (Except.ok.inj h).symm⟩
    | _ => cases h

/-- A report has a model exactly when an object in the answer of this model says it. One without a
model tells why there is none. -/
theorem model_of_reportOf {result : Except Failure Provider.Completion}
    (h : reportOf language (checkedAnswer language result) = .ok report) :
    (∀ model, report.model = some model ↔ SaidBy report language result model) ∧
      (report.model = none → ∃ reason, report = Report.unavailable language reason) := by
  simp only [saidBy_iff]
  obtain hread | ⟨hunread, reason, rfl⟩ := reportOf_eq_ok h
  · obtain ⟨completion, -, -, -, hmodel, -⟩ := checkedAnswer_eq_valid_iff.mp hread
    refine ⟨fun model => ?_, fun hnone => ?_⟩
    · rw [hread, Except.ok.injEq, Checked.valid.injEq]
      constructor
      · intro hsome
        rw [← hsome]
      · intro hsame
        rw [hsame]
    · cases hnone.symm.trans hmodel
  · exact ⟨fun model => iff_of_false nofun (hunread _), fun _ => ⟨reason, rfl⟩⟩

end Reporter

/-! ### Who was asked -/

namespace Provider

variable {p : Provider} {messages : Json} {client : Client}

/-- The last request of some blocks is for the model of the last block. -/
theorem getLast?_requestsOf (p : Provider) (messages : Json) (passed : List Block) (b : Block) :
    ((passed ++ [b]).flatMap (p.requestsOf messages)).getLast? =
      some (p.requestOf messages b.model) := by
  rw [List.flatMap_append, List.flatMap_singleton, requestsOf, Block.size, List.replicate_succ',
    ← List.append_assoc, List.getLast?_concat]

/-- A request with a number that is not finite is not made. -/
theorem ask_run_notFinite {model : Text} (hserves : client.Serves p.authorization)
    (h : (p.body model messages).allFinite = false) (u : Outcomes) :
    ∃ failure left, failure.isOfModel = false ∧
      p.ask model messages client u =
        { result := .error failure, trace := {}, client := left } := by
  have honce : ∃ failure left, failure.isOfModel = false ∧
      p.askOnce model messages client u =
        { result := .error failure, trace := {}, client := left } := by
    cases hascii : Unencodable.inAscii p.authorization with
    | some what =>
      exact ⟨.unencodable what, client, rfl,
        Exchange.bind_run_error (hserves.connect_run_error hascii u) _⟩
    | none =>
      have hrequest : p.requestFor p.authorization model messages = .error .notFinite := by
        simp only [requestFor, h, Bool.not_false, if_true]
      refine ⟨.notFinite, .opened p.authorization, rfl, ?_⟩
      rw [askOnce, Exchange.bind_run_ok (hserves.connect_run_ok hascii u)]
      simp only [Exchange.ofExcept_bind_run_error hrequest, Trace.append_empty]
  obtain ⟨failure, left, hfailure, hrun⟩ := honce
  refine ⟨failure, left, hfailure, ?_⟩
  rw [ask, retryWaits, askAgain, Exchange.bind_run_error hrun]

/-- With such a number the walk fails at once. -/
theorem complete_run_notFinite (hserves : client.Serves p.authorization)
    (h : ¬ (messages.allFinite = true ∧ p.HasFiniteNumbers)) (u : Outcomes) :
    ∃ failure trace left, failure.isOfModel = false ∧
      p.complete messages client u =
        { result := .error failure, trace, client := left } := by
  -- The first model is enough: a failure that is not of the model ends the walk.
  obtain ⟨model, models, hmodels⟩ := List.exists_cons_of_ne_nil p.models_ne_nil
  have hbody : (p.body model messages).allFinite = false :=
    Bool.eq_false_iff.mpr fun hall => h (allFinite_body.mp hall)
  obtain ⟨failure, left, hfailure, hask⟩ := ask_run_notFinite hserves hbody u
  refine ⟨failure, { log := [.rail .info (text "Attempting model " ++ model)] }, left, hfailure, ?_⟩
  rw [complete, hmodels, walk]
  simp only [Exchange.log_bind_run, Exchange.attempt_bind_run hask]
  cases failure with
  | provider message status => cases hfailure
  | transport kind message =>
    simp only [show kind.isOfExchange = false from hfailure, Bool.false_eq_true, if_false,
      Exchange.fail_run, Trace.append_empty]
  | _ => simp only [Exchange.fail_run, Trace.append_empty]

/-- A walk that ends in an answer or in a failure of the models ends behind a last block. -/
theorem Walked.exists_endsAtAnswer {u : Outcomes} {models : List Text} {last : LastError}
    {blocks : List Block} {result : Except Failure Completion}
    (h : Walked u models last blocks result) (hne : models ≠ [])
    (htold : ∀ failure, result = .error failure → failure.isProvider = true) :
    ∃ passed block, blocks = passed ++ [block] ∧ WalkEnds models u result passed block ∧
      EndsAtAnswer models result passed block := by
  cases h with
  | exhausted hpassing =>
    -- All models are passed, and there is a last one because the rail is not empty.
    obtain rfl | ⟨passed, block, rfl⟩ := List.eq_nil_or_concat blocks
    · exact absurd hpassing.models_eq hne
    · rw [List.concat_eq_append] at *
      have hends := WalkEnds.of_exhausted hpassing
        (Blocks.lastError (passed ++ [block]) last).message
        (Blocks.lastError (passed ++ [block]) last).status
      have hpasses := hpassing.passes block (List.mem_append_right _ (List.mem_singleton_self _))
      exact ⟨passed, block, rfl, hends, hends.endsAtAnswer_iff.mpr hpasses.readable⟩
  | unencodable _ _ what => cases htold _ rfl
  | answered hpassing hmodel hanswer =>
    have hends := WalkEnds.of_answered hpassing hanswer
    exact ⟨_, _, rfl, hends,
      hends.endsAtAnswer_iff.mpr (Outcome.not_isUnreadable_of_answer? hanswer)⟩
  | unreadable _ _ _ hfailure =>
    have hprovider := Failure.isOfModel_of_isProvider (htold _ rfl)
    rw [hfailure] at hprovider
    cases hprovider

end Provider

/-- A model wrote the report. It is on the rail, the last request was for it, and what became of
this request is an answer with an object that says what the report says. -/
structure Report.WrittenBy (report : Report) (language : Text) (rail : List Text) (u : Outcomes)
    (requests : List CompletionRequest) (model : Text) : Prop where
  mem_rail : model ∈ rail
  last_request : requests.getLast?.map (·.model) = some model
  answer : ∃ outcome content members, (u.take requests.length).getLast? = some outcome ∧
    outcome.Answers content ∧ Provider.contentValue content = .ok (.obj members) ∧
    report.Tells language members

/-- A report names the model that wrote it. One that names none is written in place of a model. -/
structure Report.IsAttributed (report : Report) (language : Text) (rail : List Text) (u : Outcomes)
    (requests : List CompletionRequest) : Prop where
  model_eq_some_iff : ∀ model, report.model = some model ↔
    report.WrittenBy language rail u requests model
  of_model_eq_none : report.model = none →
    report = Report.keyMissing language ∨ ∃ reason, report = Report.unavailable language reason

namespace Reporter

variable {p : Provider} {code language : Text} {client left : Client} {u : Outcomes} {trace : Trace}
  {report : Report}

/-- Only a provider that can send its requests gives a report. -/
theorem canAsk_of_report (hserves : client.Serves p.authorization)
    (h : (reportWith p code language client u).result = .ok report) :
    p.CanAsk (messagesFor code language) client := by
  have hfinite : p.HasFiniteNumbers := by
    by_contra hnot
    have hbody : ¬ ((messagesFor code language).allFinite = true ∧ p.HasFiniteNumbers) :=
      fun hall => hnot hall.2
    obtain ⟨failure, trace, left, hfailure, hrun⟩ :=
      Provider.complete_run_notFinite hserves hbody u
    have hprovider : failure.isProvider = false := by
      rw [← Bool.not_eq_true]
      intro htold
      rw [Failure.isOfModel_of_isProvider htold] at hfailure
      cases hfailure
    exact not_exists_report_of_error hrun hprovider ⟨report, h⟩
  by_contra hnot
  refine not_exists_report_of_unsendable hserves hfinite (fun hall => hnot ?_) ⟨report, h⟩
  exact { serves := hserves, hasAsciiKey := hall.1, hasFiniteNumbers := hfinite
          isSendable := isSendable_messagesFor.mpr hall.2 }

/-- What is said in the answer of a walk is written by the model of its last block. -/
theorem saidBy_iff_writtenBy {passed : List Block} {block : Block}
    {result : Except Failure Provider.Completion} {requests : List CompletionRequest}
    (hwalk : WalkEnds p.models u result passed block)
    (hends : EndsAtAnswer p.models result passed block)
    (hrequests : requests = (passed ++ [block]).flatMap (p.requestsOf (messagesFor code language)))
    (model : Text) :
    SaidBy report language result model ↔
      report.WrittenBy language p.models u requests model := by
  have hmem : block.model ∈ p.models :=
    hwalk.models_prefix.subset
      (List.mem_map_of_mem (List.mem_append_right _ (List.mem_singleton_self _)))
  have hrequest : requests.getLast?.map (·.model) = some block.model := by
    rw [hrequests, Provider.getLast?_requestsOf]
    rfl
  have houtcome : (u.take requests.length).getLast? = some block.final := by
    have hlength : requests.length = Blocks.size (passed ++ [block]) := by
      rw [hrequests]
      exact p.length_requests_traceOf (messagesFor code language) _ []
    rw [hlength, hwalk.take_eq, List.flatMap_append, List.flatMap_singleton, Block.outcomes,
      ← List.append_assoc, List.getLast?_concat]
  constructor
  · rintro ⟨completion, members, hresult, rfl, hvalue, htells⟩
    obtain ⟨hanswers, hmodel⟩ := (hends.answer_iff completion).mp hresult
    rw [hmodel]
    exact { mem_rail := hmem, last_request := hrequest
            answer := ⟨_, _, members, houtcome, hanswers, hvalue, htells⟩ }
  · rintro ⟨-, hlast, outcome, content, members, hfinal, hanswers, hvalue, htells⟩
    obtain rfl : block.model = model := Option.some.inj (hrequest.symm.trans hlast)
    obtain rfl : block.final = outcome := Option.some.inj (houtcome.symm.trans hfinal)
    exact ⟨{ content, model := block.model }, members,
      (hends.answer_iff _).mpr ⟨hanswers, rfl⟩, rfl, hvalue, htells⟩

/-- A report of a provider that names no model tells why the service cannot deliver. -/
theorem exists_reason_of_model_eq_none
    (h : (reportWith p code language client u).result = .ok report) (hmodel : report.model = none) :
    ∃ reason, report = Report.unavailable language reason := by
  cases hrun : p.complete (messagesFor code language) client u with
  | mk result trace left =>
    obtain ⟨log, hreport⟩ := reportWith_run hrun
    rw [hreport] at h
    exact (model_of_reportOf h).2 hmodel

/-- The reports of a provider are attributed. -/
theorem reportWith_isAttributed (hserves : client.Serves p.authorization)
    (h : (reportWith p code language client u).result = .ok report) :
    report.IsAttributed language p.models u
      (reportWith p code language client u).trace.requests := by
  have hask := canAsk_of_report hserves h
  have hnone := exists_reason_of_model_eq_none h
  obtain ⟨blocks, result, log, left, hwalked, hrun⟩ := Provider.walk_run hask p.models {} u
  obtain ⟨more, hreport⟩ := reportWith_run hrun
  rw [hreport] at h ⊢
  have htold : ∀ failure, result = .error failure → failure.isProvider = true := by
    rintro failure rfl
    exact exists_report_of_error_iff.mp ⟨report, h⟩
  obtain ⟨passed, block, rfl, hwalk, hends⟩ := hwalked.exists_endsAtAnswer p.models_ne_nil htold
  obtain ⟨hmodel, -⟩ := model_of_reportOf h
  have hrequests : (p.traceOf (messagesFor code language) (passed ++ [block]) log ++
      ({ log := more } : Trace)).requests =
        (passed ++ [block]).flatMap (p.requestsOf (messagesFor code language)) :=
    List.append_nil _
  exact {
    model_eq_some_iff := fun model =>
      (hmodel model).trans (saidBy_iff_writtenBy hwalk hends hrequests model)
    of_model_eq_none := fun h => .inr (hnone h) }

/-- Without a request no model writes a report. -/
theorem isAttributed_keyMissing (language : Text) (rail : List Text) (u : Outcomes) :
    (Report.keyMissing language).IsAttributed language rail u [] where
  model_eq_some_iff model := by
    refine iff_of_false nofun fun hwritten => ?_
    cases hwritten.last_request
  of_model_eq_none _ := .inl rfl

/-- What the record of a report tells of the exchange with the provider. -/
theorem Standing.Keeps.record_report {now : Standing} {config : ProviderConfig}
    (h : now.Keeps config) (hbuild : Provider.build config = .ok p) (code language : Text) :
    ∃ client, client.Serves p.authorization ∧
      let ending := reportWith p code language client now.outcomes
      (now.record (.report code language)).result = ending.result.map .report ∧
        (now.record (.report code language)).trace = ending.trace := by
  obtain ⟨client, hserves, hstep⟩ := h.step_report_eq hbuild code language
  refine ⟨client, hserves, ?_⟩
  simp only [record, ending, hstep]
  cases hrun : reportWith p code language client now.outcomes with
  | mk result trace left =>
    cases result with
    | error failure =>
      rw [Exchange.bind_run_error hrun]
      exact ⟨rfl, rfl⟩
    | ok report =>
      rw [Exchange.bind_run_ok hrun]
      exact ⟨rfl, Trace.append_empty trace⟩

/-- The reports of a step are attributed. -/
theorem Standing.Keeps.isAttributed {now : Standing} {config : ProviderConfig}
    (h : now.Keeps config)
    (hresult : (now.record (.report code language)).result = .ok (.report report)) :
    report.IsAttributed language config.models now.outcomes
      (now.record (.report code language)).trace.requests := by
  cases hbuild : Provider.build config with
  | error fault =>
    simp only [record, ending, h.step_report_eq_of_build_error hbuild] at hresult ⊢
    cases hresult
    exact isAttributed_keyMissing language _ _
  | ok p =>
    obtain ⟨client, hserves, hrecord, htrace⟩ := h.record_report hbuild code language
    obtain ⟨-, hmodels, -⟩ := Provider.build_eq_ok hbuild
    rw [hrecord] at hresult
    rw [htrace, hmodels]
    refine reportWith_isAttributed hserves ?_
    cases hrun : (reportWith p code language client now.outcomes).result with
    | error failure => rw [hrun] at hresult; cases hresult
    | ok written => rw [hrun] at hresult; cases hresult; rfl

/-- All reports of a session are attributed. A report has a model exactly when it is written by this
model: when the model was asked last for it, and what the report says stands in an object in the
answer. All others tell that a key is missing or why the service cannot deliver. -/
theorem session_attributes_reports (config : ProviderConfig) (u : Outcomes) (steps : List Step)
    {i : Nat} {code language : Text} (hstep : steps[i]? = some (.report code language))
    {record : Record} (hrecord : (({ config } : Reporter).session u steps)[i]? = some record)
    {report : Report} (hreport : record.result = .ok (.report report)) :
    let records := ({ config } : Reporter).session u steps
    let left := u.drop ((records.take i).flatMap (·.trace.requests)).length
    report.IsAttributed language config.models left record.trace.requests := by
  intro records left
  have hkeeps := (Standing.keeps_new config u).after (steps.take i)
  have hget := (Standing.new config u).getElem?_records steps i
  rw [hstep] at hget
  obtain rfl : _ = record := Option.some.inj (hget.symm.trans hrecord)
  have hattributed := hkeeps.isAttributed hreport
  rwa [Standing.outcomes_after] at hattributed

/-- What a model says of its own name is not believed. -/
theorem session_attributes_reports_to_boaster :
    let said :=
      text "\x7b\\\"time\\\":\\\"N\\\",\\\"space\\\":\\\"1\\\",\\\"model\\\":\\\"c\\\"\x7d"
    let u : Outcomes := fun _ => .response (.saying said)
    let steps : List Step := [.report (text "x") (text "python")]
    let records := ({ config := Provider.pairConfig } : Reporter).session u steps
    let report : Report :=
      { language := text "python", time := text "N", space := text "1", explanation := []
        suggestions := [], model := some (text "a") }
    steps[0]? = some (.report (text "x") (text "python")) ∧
      ∃ record, records[0]? = some record ∧ record.result = .ok (.report report) ∧
        report.IsAttributed (text "python") [text "a", text "b"] u record.trace.requests := by
  intro said u steps records report
  have hread : ((u.firstBlock (text "a")).final.answer?.bind fun content =>
      (checkedAnswer (text "python") (.ok { content, model := text "a" })).toOption.bind
        Checked.value?) = some report := by decide +kernel
  obtain ⟨content, hanswer, hread⟩ := Option.bind_eq_some_iff.mp hread
  obtain ⟨checked, hchecked, hvalue⟩ := Option.bind_eq_some_iff.mp hread
  have hchecked : checkedAnswer (text "python") (.ok { content, model := text "a" }) =
      .ok (.valid report) := by
    cases hresult : checkedAnswer (text "python") (.ok { content, model := text "a" }) with
    | error failure =>
      rw [hresult] at hchecked
      cases hchecked
    | ok read =>
      rw [hresult] at hchecked
      cases hchecked
      rw [Checked.value?_eq_some.mp hvalue]
  obtain ⟨client, hserves, hrecord, -⟩ := (Standing.keeps_new Provider.pairConfig u).record_report
    Provider.build_pairConfig (text "x") (text "python")
  have hask : Provider.pair.CanAsk (messagesFor (text "x") (text "python")) client :=
    { Provider.canAsk_pair with
      serves := hserves
      isSendable := isSendable_messagesFor.mpr (by decide) }
  obtain ⟨log, hrun⟩ := Provider.walk_run_answers hask rfl hanswer {} [text "b"]
  obtain ⟨more, hend⟩ := reportWith_run hrun
  rw [hchecked] at hend
  let record := (Standing.new Provider.pairConfig u).record (.report (text "x") (text "python"))
  have hreport : record.result = .ok (.report report) := by
    rw [hrecord, show (Standing.new Provider.pairConfig u).outcomes = u from rfl, hend]
    rfl
  have hfirst : records[0]? = some record :=
    (Standing.new Provider.pairConfig u).getElem?_records steps 0
  have hattributed :=
    session_attributes_reports Provider.pairConfig u steps (i := 0) rfl hfirst hreport
  simp only [List.take_zero, List.flatMap_nil, List.length_nil, Outcomes.drop_zero] at hattributed
  exact ⟨rfl, record, hfirst, hreport, hattributed⟩

end Reporter

end BigO
