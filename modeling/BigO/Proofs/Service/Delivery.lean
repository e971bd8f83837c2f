import BigO.Proofs.Json.Reading
import BigO.Proofs.Provider.Completion
import BigO.Proofs.Service.Availability

/-! What becomes of a report that the service obtains. Its answer can be read back to the very
report, whatever the language model wrote. But an answer needs an encoding, and the texts of a
report need not have one: a language model may escape half of a surrogate pair. Then nothing of the
report is delivered, and the answer tells of an error inside the service. -/

namespace BigO

namespace Report

/-- The JSON of a report is read back as the report. -/
theorem ofJson_toJson (report : Report) : ofJson report.toJson = .valid report :=
  ofMembers_eq_valid.mpr ⟨.inl rfl, rfl, rfl, .inl rfl, .inl rfl, .inl rfl⟩

theorem isTextual_optionalText (t : Option Text) {room : Nat} :
    Json.IsTextual room (optionalText t) := by
  cases t with
  | none => exact .null
  | some t => exact .str t

theorem isTextual_toJson (report : Report) (room : Nat) :
    Json.IsTextual (room + 2) report.toJson := by
  have hnames : (["language", "time", "space", "explanation", "suggestions", "model"].map
      text).Nodup := by decide
  have hsuggestions : Json.IsTextual (room + 1) (.arr (report.suggestions.map .str)) := by
    apply Json.IsTextual.arr
    intro item hitem
    obtain ⟨t, -, rfl⟩ := List.mem_map.mp hitem
    exact .str t
  apply Json.IsTextual.obj
  · exact hnames
  · simp only [List.forall_mem_cons, List.not_mem_nil, false_imp_iff, implies_true, and_true]
    exact ⟨.str _, .str _, .str _, .str _, hsuggestions, isTextual_optionalText _⟩

end Report

namespace Reporter

/-- Where the first model answers with a report, this is the report. -/
theorem reportWith_of_answer {p : Provider} {code language model : Text} {rest : List Text}
    {client : Client} {u : Outcomes} {report : Report}
    (h : p.CanAsk (messagesFor code language) client) (hmodels : p.models = model :: rest)
    (hmodel : model.wellFormed = true)
    (hread : ((u.firstBlock model).final.answer?.bind fun content =>
      (checkedAnswer language (.ok { content, model })).toOption.bind Checked.value?) =
        some report) : (reportWith p code language client u).result = .ok report := by
  obtain ⟨content, hanswer, hread⟩ := Option.bind_eq_some_iff.mp hread
  obtain ⟨checked, hchecked, hvalue⟩ := Option.bind_eq_some_iff.mp hread
  obtain ⟨log, hrun⟩ := Provider.walk_run_answers h hmodel hanswer {} rest
  rw [← hmodels] at hrun
  obtain ⟨more, hend⟩ := reportWith_run hrun
  have hok : checkedAnswer language (.ok { content, model }) = .ok checked := by
    cases hresult : checkedAnswer language (.ok { content, model }) with
    | error failure =>
      rw [hresult] at hchecked
      cases hchecked
    | ok read =>
      rw [hresult] at hchecked
      exact congrArg Except.ok (Option.some.inj hchecked)
  rw [hend, hok, Checked.value?_eq_some.mp hvalue]
  rfl

end Reporter

namespace Service

theorem isTextual_reportAnswer (report : Report) (room : Nat) :
    Json.IsTextual (room + 3) (reportAnswer report) := by
  have hnames : (["success", "model", "result"].map text).Nodup := by decide
  apply Json.IsTextual.obj
  · exact hnames
  · simp only [List.forall_mem_cons, List.not_mem_nil, false_imp_iff, implies_true, and_true]
    exact ⟨.bool _, Report.isTextual_optionalText _, report.isTextual_toJson room⟩

/-- A response delivers a report: what it carries is JSON that names the model of the report and
holds the report itself. -/
structure Response.Delivers (response : Response) (report : Report) : Prop where
  status : response.status = 200
  body : ∃ answer, Json.readBytes (Text.toUtf8 response.body) = .ok answer ∧
    answer.get? (text "model") = some (Report.optionalText report.model) ∧
    ∃ result, answer.get? (text "result") = some result ∧ Report.ofJson result = .valid report

/-- The answer with a report delivers it. -/
theorem delivers_reportAnswer {response : Response} {report : Report}
    (hstatus : response.status = 200)
    (hbody : response.body = (reportAnswer report).write .compact) :
    response.Delivers report where
  status := hstatus
  body := by
    refine ⟨reportAnswer report, ?_, rfl, report.toJson, rfl, report.ofJson_toJson⟩
    rw [hbody]
    exact Json.readBytes_write_obj (isTextual_reportAnswer report 957)

variable {s : Settings} {r : Request} {u : Outcomes}

section Obtained

variable {request : AnalyzeRequest} {report : Report}
  (hr : target r.method r.path = .endpoint .report) (hsize : r.IsWithin s.maxRequestSize)
  (hrequest : r.analyzeRequest? s.maxCodeLength = some (.valid request))
  (hreport : ((({ config := providerConfig s } : Reporter).report request.code
    request.language).1 .absent u).result = .ok report)

include hr hsize hrequest hreport

/-- A report whose texts all have an encoding is delivered. -/
theorem handle_of_wellFormed (htexts : ∀ t ∈ reportTexts report, t.wellFormed = true) (now : Text)
    (client : Client) :
    ∃ reply, (handle s now r client u).result = .ok reply ∧ reply.response.Delivers report := by
  have hdispatch := dispatch_result_of_report hr hrequest hreport now client
  rw [reportResponse_eq_ok_iff.mpr ⟨htexts, rfl⟩] at hdispatch
  exact ⟨_, handle_of_dispatch (not_isPreflight_of_target hr) hsize hdispatch,
    delivers_reportAnswer rfl rfl⟩

/-- Any other is not, and the answer is that of an error inside the service. -/
theorem handle_of_not_wellFormed (htexts : ¬ ∀ t ∈ reportTexts report, t.wellFormed = true)
    (now : Text) (client : Client) :
    ∃ reply, (handle s now r client u).result = .ok reply ∧ ¬ reply.response.Delivers report ∧
      reply.response = .refusal 500 "Internal server error" none ∧
      ∃ what, reply.failure = some (.unserializable what) := by
  obtain ⟨what, hwhat⟩ := reportResponse_eq_error htexts
  have hdispatch := dispatch_result_of_report hr hrequest hreport now client
  rw [hwhat] at hdispatch
  have hstatus : (500 : Nat) ≠ 200 := by decide
  exact ⟨_, handle_of_dispatch_error (not_isPreflight_of_target hr) hsize hdispatch,
    fun hdelivers => hstatus hdelivers.status, rfl, what, rfl⟩

/-- What becomes of a report that is obtained for a valid request: it is delivered exactly when all
of its texts have an encoding. Where one has none, the answer is that of an error inside the
service. -/
theorem obtained_report_delivered_iff (now : Text) (client : Client) :
    ∃ reply, (handle s now r client u).result = .ok reply ∧
      (reply.response.Delivers report ↔ ∀ t ∈ reportTexts report, t.wellFormed = true) ∧
      (¬ (∀ t ∈ reportTexts report, t.wellFormed = true) →
        reply.response = .refusal 500 "Internal server error" none ∧
          ∃ what, reply.failure = some (.unserializable what)) := by
  by_cases htexts : ∀ t ∈ reportTexts report, t.wellFormed = true
  · obtain ⟨reply, hreply, hdelivers⟩ :=
      handle_of_wellFormed hr hsize hrequest hreport htexts now client
    exact ⟨reply, hreply, iff_of_true hdelivers htexts, fun hnone => absurd htexts hnone⟩
  · obtain ⟨reply, hreply, hlost, htold⟩ :=
      handle_of_not_wellFormed hr hsize hrequest hreport htexts now client
    exact ⟨reply, hreply, iff_of_false hlost htexts, fun _ => htold⟩

end Obtained

/-- Settings with a key and one model. -/
def keyedSettings : Settings := { apiKey := some (text "key"), models := text "a" }

/-- The provider that these settings describe. -/
def keyedProvider : Provider :=
  { Provider.pair with
    models := [text "a"]
    temperature := keyedSettings.temperature
    models_ne_nil := List.cons_ne_nil _ _ }

theorem canAsk_keyedProvider :
    keyedProvider.CanAsk (Reporter.messagesFor (text "x") (text "javascript")) .absent where
  serves := Client.serves_absent _
  hasAsciiKey := by unfold Provider.HasAsciiKey; decide
  hasFiniteNumbers := by unfold Provider.HasFiniteNumbers; decide +kernel
  isSendable := Reporter.isSendable_messagesFor.mpr (by decide)

/-- What is reported of the text `x` where the model answers with a report. -/
theorem report_of_saying {said : Text} {report : Report}
    (hread : ((Outcomes.firstBlock (fun _ => .response (.saying said))
      (text "a")).final.answer?.bind fun content =>
        (Reporter.checkedAnswer (text "javascript")
          (.ok { content, model := text "a" })).toOption.bind Checked.value?) = some report) :
    ((({ config := providerConfig keyedSettings } : Reporter).report (text "x")
      (text "javascript")).1 .absent fun _ => .response (.saying said)).result = .ok report := by
  have hbuild : Provider.build (providerConfig keyedSettings) = .ok keyedProvider := rfl
  rw [Reporter.report_new_eq hbuild]
  exact Reporter.reportWith_of_answer canAsk_keyedProvider rfl (by decide) hread

/-- What a report says beyond ASCII is delivered, also where the model escapes it. -/
theorem obtained_report_delivered_at_pair :
    let s := keyedSettings
    let said := text
      "\x7b\\\"time\\\":\\\"\\\\ud83d\\\\ude00\\\",\\\"space\\\":\\\"é\\\"\x7d"
    let u : Outcomes := fun _ => .response (.saying said)
    let report : Report :=
      { language := text "javascript", time := [{ val := 0x1F600 }], space := text "é"
        explanation := [], suggestions := [], model := some (text "a") }
    target reportRequest.method reportRequest.path = .endpoint .report ∧
      reportRequest.IsWithin s.maxRequestSize ∧
      reportRequest.analyzeRequest? s.maxCodeLength =
        some (.valid { code := text "x", language := text "javascript" }) ∧
      ((({ config := providerConfig s } : Reporter).report (text "x")
        (text "javascript")).1 .absent u).result = .ok report ∧
      ∃ reply, (handle s [] reportRequest .absent u).result = .ok reply ∧
        reply.response.Delivers report := by
  intro s said u report
  have hr : target reportRequest.method reportRequest.path = .endpoint .report := by decide +kernel
  have hreport : ((({ config := providerConfig s } : Reporter).report (text "x")
      (text "javascript")).1 .absent u).result = .ok report :=
    report_of_saying (by decide +kernel)
  obtain ⟨reply, hreply, hdelivers, -⟩ := obtained_report_delivered_iff (s := s) hr
    isWithin_reportRequest analyzeRequest?_reportRequest hreport [] .absent
  exact ⟨hr, isWithin_reportRequest, analyzeRequest?_reportRequest, hreport, reply, hreply,
    hdelivers.mpr (by decide)⟩

/-- A model that escapes half of a pair gets a report, of which nothing is delivered. -/
theorem obtained_report_lost_at_half_pair :
    let s := keyedSettings
    let said := text "\x7b\\\"time\\\":\\\"\\\\ud83d\\\",\\\"space\\\":\\\"x\\\"\x7d"
    let u : Outcomes := fun _ => .response (.saying said)
    let report : Report :=
      { language := text "javascript", time := [{ val := 0xD83D }], space := text "x"
        explanation := [], suggestions := [], model := some (text "a") }
    target reportRequest.method reportRequest.path = .endpoint .report ∧
      reportRequest.IsWithin s.maxRequestSize ∧
      reportRequest.analyzeRequest? s.maxCodeLength =
        some (.valid { code := text "x", language := text "javascript" }) ∧
      ((({ config := providerConfig s } : Reporter).report (text "x")
        (text "javascript")).1 .absent u).result = .ok report ∧
      ∃ reply, (handle s [] reportRequest .absent u).result = .ok reply ∧
        reply.response.status = 500 ∧ ¬ reply.response.Delivers report := by
  intro s said u report
  have hr : target reportRequest.method reportRequest.path = .endpoint .report := by decide +kernel
  have hreport : ((({ config := providerConfig s } : Reporter).report (text "x")
      (text "javascript")).1 .absent u).result = .ok report :=
    report_of_saying (by decide +kernel)
  have htexts : ¬ ∀ t ∈ reportTexts report, t.wellFormed = true := by decide
  obtain ⟨reply, hreply, hlost, hrefused, -⟩ := handle_of_not_wellFormed (s := s) hr
    isWithin_reportRequest analyzeRequest?_reportRequest hreport htexts [] .absent
  exact ⟨hr, isWithin_reportRequest, analyzeRequest?_reportRequest, hreport, reply, hreply,
    by rw [hrefused]; rfl, hlost⟩

end Service

end BigO
