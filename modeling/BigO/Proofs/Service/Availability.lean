import BigO.Proofs.Settings
import BigO.Proofs.Report.Attribution
import BigO.Proofs.Service.Endpoint
import BigO.Proofs.Service.Layer

/-! What the service says of whether reports can be asked for. A report tells that a key is missing
exactly when no provider can be built, and that takes a key and a model. The answer about the health
of the service looks at the key alone, so that the two agree except over a rail without models. -/

namespace BigO

/-! ### A report of a new reporter -/

namespace Reporter

variable {config : ProviderConfig} {code language : Text} {client : Client} {u : Outcomes}
  {report : Report}

theorem report_new_eq {p : Provider} (hbuild : Provider.build config = .ok p)
    (code language : Text) :
    (({ config } : Reporter).report code language).1 = reportWith p code language := by
  obtain ⟨_, -, hreport⟩ := (kept_new config).report_eq hbuild code language
  rw [hreport]

theorem report_new_eq_of_build_error {fault : ConfigurationFault}
    (hbuild : Provider.build config = .error fault) (code language : Text) :
    (({ config } : Reporter).report code language).1 =
      (Exchange.log (.reporter .warning (text "AI provider not configured: " ++ fault.message))
        >>= fun _ => pure (Report.keyMissing language)) := by
  obtain ⟨-, hreport⟩ := (kept_new config).report_eq_of_build_error hbuild code language
  rw [hreport]

/-- Without a key or a model there is a fault in the way of the provider. -/
theorem exists_build_error (h : ¬ config.IsValid) :
    ∃ fault, Provider.build config = .error fault := by
  cases hbuild : Provider.build config with
  | ok p => exact absurd (Provider.build_isOk_iff.mp ⟨p, hbuild⟩) h
  | error fault => exact ⟨fault, rfl⟩

/-- Without a provider the report is that a key is missing. -/
theorem report_new_of_not_isValid (h : ¬ config.IsValid) (code language : Text) (client : Client)
    (u : Outcomes) :
    ((({ config } : Reporter).report code language).1 client u).result =
      .ok (Report.keyMissing language) := by
  obtain ⟨fault, hbuild⟩ := exists_build_error h
  rw [report_new_eq_of_build_error hbuild, Exchange.log_bind_run]
  rfl

/-- With one it has a model, or it tells why the service cannot deliver. -/
theorem report_new_of_isValid (h : config.IsValid)
    (hreport : ((({ config } : Reporter).report code language).1 client u).result = .ok report) :
    (∃ model, report.model = some model) ∨
      ∃ reason, report = Report.unavailable language reason := by
  obtain ⟨p, hbuild⟩ := Provider.build_isOk_iff.mpr h
  rw [report_new_eq hbuild] at hreport
  cases hmodel : report.model with
  | some model => exact .inl ⟨model, rfl⟩
  | none => exact .inr (exists_reason_of_model_eq_none hreport hmodel)

end Reporter

/-! ### Bodies -/

/-- Two texts that differ at a place still differ there when more comes behind them. -/
theorem Text.append_ne_append_of_getElem? {s t : Text} {i : Nat} {c d : CodePoint}
    (hs : s[i]? = some c) (ht : t[i]? = some d) (h : c ≠ d) (rest rest' : Text) :
    s ++ rest ≠ t ++ rest' := by
  intro heq
  have hc : (s ++ rest)[i]? = some c :=
    (List.getElem?_append_left (List.getElem?_eq_some_iff.mp hs).1).trans hs
  have hd : (t ++ rest')[i]? = some d :=
    (List.getElem?_append_left (List.getElem?_eq_some_iff.mp ht).1).trans ht
  rw [heq, hd] at hc
  exact h (Option.some.inj hc).symm

namespace Service

variable {language : Text}

/-- The answer with a report that has a model does not look like one that has none. -/
theorem write_reportAnswer_ne_of_model {report other : Report} {model : Text}
    (h : report.model = some model) (hother : other.model = none) :
    (reportAnswer report).write .compact ≠ (reportAnswer other).write .compact := by
  intro heq
  simp only [reportAnswer, h, hother, Report.optionalText, Option.map_some, Option.map_none,
    Option.getD_some, Option.getD_none, Json.write, Json.writeMembers, List.append_assoc,
    List.append_cancel_left_eq] at heq
  -- What is left begins with a quotation mark on one side and with a letter on the other.
  exact Text.append_ne_append_of_getElem? (i := 0) rfl rfl (by decide) _ _ heq

/-- The answer that a key is missing does not look like one that the service cannot deliver. -/
theorem write_reportAnswer_unavailable_ne (language reason : Text) :
    (reportAnswer (.unavailable language reason)).write .compact ≠
      (reportAnswer (.keyMissing language)).write .compact := by
  intro heq
  simp only [reportAnswer, Report.toJson, Report.unavailable, Report.keyMissing,
    Report.optionalText, Option.map_none, Option.getD_none, Json.write, Json.writeMembers,
    List.append_assoc, List.append_cancel_left_eq] at heq
  -- The languages are the same, and the times differ behind their quotation marks.
  exact Text.append_ne_append_of_getElem? (i := 1) rfl rfl (by decide) _ _ heq

/-- The JSON of the answer about the health of the service, with a word for whether reports can be
asked for. -/
def healthAnswer (word : String) (now : Text) : Json :=
  .obj [(text "status", .string "ok"), (text "version", .str version), (text "ai", .string word),
    (text "timestamp", .str now)]

theorem write_healthAnswer_ne (now : Text) :
    (healthAnswer "enabled" now).write .compact ≠ (healthAnswer "disabled" now).write .compact := by
  intro heq
  simp only [healthAnswer, Json.string, Json.write, Json.writeMembers, List.append_assoc,
    List.append_cancel_left_eq] at heq
  exact Text.append_ne_append_of_getElem? (i := 1) rfl rfl (by decide) _ _ heq

/-- There is a provider where there is a key and a rail. -/
theorem isValid_providerConfig_iff {s : Settings} :
    (providerConfig s).IsValid ↔ s.aiEnabled = true ∧ s.rail ≠ [] := by
  rw [Settings.aiEnabled_iff]
  rfl

/-- A report of the service, by what its answer looks like, is that a key is missing exactly where
no provider can be built. -/
theorem write_reportAnswer_eq_keyMissing_iff {s : Settings} {code : Text} {client : Client}
    {u : Outcomes} {report : Report}
    (h : ((({ config := providerConfig s } : Reporter).report code language).1 client u).result =
      .ok report) :
    (reportAnswer report).write .compact = (reportAnswer (.keyMissing language)).write .compact ↔
      ¬ (providerConfig s).IsValid := by
  by_cases hvalid : (providerConfig s).IsValid
  · refine iff_of_false ?_ (not_not_intro hvalid)
    obtain ⟨model, hmodel⟩ | ⟨reason, rfl⟩ := Reporter.report_new_of_isValid hvalid h
    · exact write_reportAnswer_ne_of_model hmodel rfl
    · exact write_reportAnswer_unavailable_ne language reason
  · rw [Reporter.report_new_of_not_isValid hvalid] at h
    exact iff_of_true (by rw [← Except.ok.inj h]) hvalid

/-- The answer about the health says that reports are disabled exactly where there is no key. -/
theorem write_health_eq_disabled_iff (s : Settings) (now : Text) :
    (health s now).body = (healthAnswer "disabled" now).write .compact ↔ s.aiEnabled = false := by
  have hbody : (health s now).body =
      (healthAnswer (if s.aiEnabled then "enabled" else "disabled") now).write .compact := rfl
  rw [hbody]
  cases s.aiEnabled with
  | true => exact iff_of_false (write_healthAnswer_ne now) nofun
  | false => exact iff_of_true rfl rfl

variable {s : Settings} {now : Text} {r : Request} {client : Client} {u : Outcomes}

/-! ### Requests -/

/-- The health of the service can always be asked for. -/
theorem handle_health (h : target r.method r.path = .endpoint .health) (s : Settings) (now : Text)
    (client : Client) (u : Outcomes) :
    ∃ reply, (handle s now r client u).result = .ok reply ∧ reply.response.status = 200 ∧
      reply.response.body = (health s now).body := by
  have hdispatch : (dispatch s now r client u).result = .ok (health s now) := by
    rw [dispatch_of_target h]
    rfl
  have hsize : r.IsWithin s.maxRequestSize := by
    intro hsized
    rw [method_of_target h] at hsized
    exact absurd hsized (by decide)
  exact ⟨_, handle_of_dispatch (not_isPreflight_of_target h) hsize hdispatch, rfl, rfl⟩

/-- A report that is answered is what a new reporter reports. -/
theorem exists_report_of_handle {request : AnalyzeRequest}
    (h : target r.method r.path = .endpoint .report)
    (hrequest : r.analyzeRequest? s.maxCodeLength = some (.valid request)) {reply : Reply}
    (hreply : (handle s now r client u).result = .ok reply)
    (hstatus : reply.response.status = 200) :
    ∃ report,
      ((({ config := providerConfig s } : Reporter).report request.code request.language).1
        .absent u).result = .ok report ∧
      reply.response.body = (reportAnswer report).write .compact := by
  have hhandled := handle_handled s now r client u
  generalize handle s now r client u = ending at hhandled hreply
  cases hhandled with
  | beforehand hpreflight => exact absurd hpreflight (not_isPreflight_of_target h)
  | oversized _ _ status hrefused =>
    cases hreply
    obtain rfl | rfl := hrefused <;> cases hstatus
  | @reached _ _ response _ _ hreached =>
    cases hreply
    have hanswer : (Service.report s request client u).result = .ok response := by
      rw [dispatch_of_target h, Endpoint.answer, answering_of_valid hrequest] at hreached
      rw [hreached]
    obtain ⟨report, hreport, rfl⟩ := report_result hanswer
    exact ⟨report, hreport, rfl⟩
  | failed =>
    cases hreply
    cases hstatus

/-- Without a provider every valid request for a report is answered, with the report that a key is
missing. -/
theorem handle_report_of_not_isValid {request : AnalyzeRequest}
    (h : target r.method r.path = .endpoint .report) (hsize : r.IsWithin s.maxRequestSize)
    (hrequest : r.analyzeRequest? s.maxCodeLength = some (.valid request))
    (hlanguage : request.language.wellFormed = true) (hinvalid : ¬ (providerConfig s).IsValid)
    (now : Text) (client : Client) (u : Outcomes) :
    ∃ reply, (handle s now r client u).result = .ok reply ∧ reply.response.status = 200 ∧
      reply.response.body = (reportAnswer (.keyMissing request.language)).write .compact := by
  have htexts : ∀ t ∈ reportTexts (.keyMissing request.language), t.wellFormed = true := by
    simp [reportTexts, Report.keyMissing, hlanguage]
  have hresponse := reportResponse_eq_ok_iff.mpr ⟨htexts, rfl⟩
  have hdispatch := (dispatch_result_of_report h hrequest (Reporter.report_new_of_not_isValid
    hinvalid request.code request.language .absent u) now client).trans hresponse
  exact ⟨_, handle_of_dispatch (not_isPreflight_of_target h) hsize hdispatch, rfl, rfl⟩

/-- What the service says of whether reports can be asked for: where a report is answered, it is
that a key is missing exactly when the answer about the health says that reports are disabled, or
when the list of the models has nothing but commas and blanks. -/
theorem availability_told (s : Settings) {r asked : Request} {request : AnalyzeRequest}
    (hr : target r.method r.path = .endpoint .report)
    (hrequest : r.analyzeRequest? s.maxCodeLength = some (.valid request))
    (hasked : target asked.method asked.path = .endpoint .health) (now now' : Text)
    (client client' : Client) (u u' : Outcomes) {reply : Reply}
    (hreply : (handle s now r client u).result = .ok reply)
    (hstatus : reply.response.status = 200) :
    ∃ told, (handle s now' asked client' u').result = .ok told ∧ told.response.status = 200 ∧
      (reply.response.body =
          (reportAnswer (.keyMissing request.language)).write .compact ↔
        told.response.body = (healthAnswer "disabled" now').write .compact ∨
          ∀ c ∈ s.models, c = CodePoint.ofChar ',' ∨ c.isBlank = true) := by
  obtain ⟨told, htold, hok, hhealth⟩ := handle_health hasked s now' client' u'
  obtain ⟨report, hreport, hbody⟩ := exists_report_of_handle hr hrequest hreply hstatus
  refine ⟨told, htold, hok, ?_⟩
  rw [hbody, hhealth, write_reportAnswer_eq_keyMissing_iff hreport,
    write_health_eq_disabled_iff, ← Settings.rail_eq_nil_iff, isValid_providerConfig_iff,
    Classical.not_and_iff_not_or_not, Classical.not_not, Bool.not_eq_true]

/-- A request for a report about the text `x`. -/
def reportRequest : Request where
  method := text "POST"
  path := text "/analyze/ai"
  query := []
  headers := [(text "content-type", text "application/json"), (text "content-length", text "12")]
  body := "\x7b\"code\":\"x\"\x7d".toUTF8.toList

/-- A request for the health of the service. -/
def healthRequest : Request where
  method := text "GET"
  path := text "/health"
  query := []
  headers := []
  body := []

theorem isWithin_reportRequest : reportRequest.IsWithin 1048576 := fun _ =>
  ⟨12, by decide +kernel, by decide⟩

/-- What the request for a report carries. -/
theorem analyzeRequest?_reportRequest :
    reportRequest.analyzeRequest? 50000 =
      some (.valid { code := text "x", language := text "javascript" }) := by
  have hread : (reportRequest.analyzeRequest? 50000).bind Checked.value? =
      some { code := text "x", language := text "javascript" } := by decide +kernel
  obtain ⟨checked, hchecked, hvalue⟩ := Option.bind_eq_some_iff.mp hread
  rw [hchecked, Checked.value?_eq_some.mp hvalue]

/-- Without a key, and with the models of the unchanged settings, both answers tell so. -/
theorem availability_told_without_key :
    let s : Settings := {}
    let u : Outcomes := fun _ => .response { status := 200, headers := [], body := [] }
    target reportRequest.method reportRequest.path = .endpoint .report ∧
      reportRequest.analyzeRequest? s.maxCodeLength =
        some (.valid { code := text "x", language := text "javascript" }) ∧
      target healthRequest.method healthRequest.path = .endpoint .health ∧
      ∃ reply, (handle s [] reportRequest .absent u).result = .ok reply ∧
        reply.response.status = 200 ∧
        ∃ told, (handle s [] healthRequest .absent u).result = .ok told ∧
          told.response.status = 200 ∧
          (reply.response.body = (reportAnswer (.keyMissing (text "javascript"))).write .compact ↔
            told.response.body = (healthAnswer "disabled" []).write .compact ∨
              ∀ c ∈ s.models, c = CodePoint.ofChar ',' ∨ c.isBlank = true) := by
  intro s u
  have hr : target reportRequest.method reportRequest.path = .endpoint .report := by decide +kernel
  have hasked : target healthRequest.method healthRequest.path = .endpoint .health := by
    decide +kernel
  have hinvalid : ¬ (providerConfig s).IsValid := fun h => nomatch h.1
  obtain ⟨reply, hreply, hstatus, -⟩ :=
    handle_report_of_not_isValid (s := s) hr isWithin_reportRequest
      analyzeRequest?_reportRequest (by decide) hinvalid [] .absent u
  exact ⟨hr, analyzeRequest?_reportRequest, hasked, reply, hreply, hstatus,
    availability_told s hr analyzeRequest?_reportRequest hasked [] [] .absent .absent u u hreply
      hstatus⟩

/-- With a key and without a model, reports are said to be enabled, and a report tells that a key is
missing. -/
theorem availability_contradicted_without_models :
    let s : Settings := { apiKey := some (text "key"), models := text " , " }
    let u : Outcomes := fun _ => .response { status := 200, headers := [], body := [] }
    ∃ reply told, (handle s [] reportRequest .absent u).result = .ok reply ∧
      reply.response.status = 200 ∧
      reply.response.body = (reportAnswer (.keyMissing (text "javascript"))).write .compact ∧
      (handle s [] healthRequest .absent u).result = .ok told ∧
      told.response.body = (healthAnswer "enabled" []).write .compact ∧
      told.response.body ≠ (healthAnswer "disabled" []).write .compact := by
  intro s u
  have hr : target reportRequest.method reportRequest.path = .endpoint .report := by decide +kernel
  have hasked : target healthRequest.method healthRequest.path = .endpoint .health := by
    decide +kernel
  have hinvalid : ¬ (providerConfig s).IsValid := fun h => h.2 (by decide)
  obtain ⟨reply, hreply, hstatus, hbody⟩ :=
    handle_report_of_not_isValid (s := s) hr isWithin_reportRequest
      analyzeRequest?_reportRequest (by decide) hinvalid [] .absent u
  obtain ⟨told, htold, -, hhealth⟩ := handle_health hasked s [] .absent u
  refine ⟨reply, told, hreply, hstatus, hbody, htold, hhealth, ?_⟩
  rw [hhealth]
  exact write_healthAnswer_ne []

end Service

end BigO
