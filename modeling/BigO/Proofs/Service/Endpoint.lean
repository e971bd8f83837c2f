import BigO.Proofs.Provider.Exchange
import BigO.Proofs.Provider.Request
import BigO.Service.Endpoint

/-! What the endpoints answer. The endpoint of a request settles its method, and what a request for
an analysis carries settles whether it is answered or refused. -/

namespace BigO.Service

/-- The method with which an endpoint is asked. -/
def Endpoint.method : Endpoint → Text
  | .overview | .health => text "GET"
  | .analyze | .report => text "POST"

/-- A request that comes to an endpoint has its method. -/
theorem method_of_target {method path : Text} {e : Endpoint}
    (h : target method path = .endpoint e) : method = e.method := by
  have hroutes : ∀ way ∈ routes, way.method = way.endpoint.method := by decide
  rw [target] at h
  cases hway : route? path with
  | none =>
    simp only [hway] at h
    split at h <;> cases h
  | some way =>
    simp only [hway] at h
    split at h
    case isTrue hmethod =>
      cases h
      rw [← hmethod, hroutes way (List.mem_of_find?_eq_some hway)]
    case isFalse => cases h

variable {s : Settings} {now : Text} {r : Request} {client : Client} {u : Outcomes}
  {response : Response}

theorem dispatch_of_target {e : Endpoint} (h : target r.method r.path = .endpoint e) (s : Settings)
    (now : Text) : dispatch s now r = e.answer s now r := by
  rw [dispatch, h]

theorem answering_of_valid {request : AnalyzeRequest}
    (h : r.analyzeRequest? s.maxCodeLength = some (.valid request))
    (answer : AnalyzeRequest → Exchange Response) : answering s r answer = answer request := by
  rw [answering, h]

/-- A request for an analysis is refused for what it carries, or it is answered. -/
theorem answering_result {answer : AnalyzeRequest → Exchange Response}
    (h : (answering s r answer client u).result = .ok response) :
    (∃ error, response = .detail 400 error) ∨
      (∃ error details, response = .refusal 422 error details) ∨
      ∃ request, r.analyzeRequest? s.maxCodeLength = some (.valid request) ∧
        (answer request client u).result = .ok response := by
  cases hcarried : r.analyzeRequest? s.maxCodeLength with
  | none =>
    simp only [answering, hcarried] at h
    exact .inl ⟨_, (Except.ok.inj h).symm⟩
  | some checked =>
    cases checked with
    | flawed flaws =>
      simp only [answering, hcarried] at h
      obtain ⟨_, _, _, -, hrefused⟩ := Exchange.exists_of_bind_result_ok h
      exact .inr (.inl ⟨_, _, (Except.ok.inj hrefused).symm⟩)
    | valid request =>
      rw [answering_of_valid hcarried] at h
      exact .inr (.inr ⟨request, rfl, h⟩)

/-- The JSON of the answer with a report. -/
def reportAnswer (report : Report) : Json :=
  .obj [(text "success", .bool true), (text "model", Report.optionalText report.model),
    (text "result", report.toJson)]

/-- A report can be answered when all of its texts have an encoding. -/
theorem reportResponse_eq_ok_iff {report : Report} :
    reportResponse report = .ok response ↔
      (∀ t ∈ reportTexts report, t.wellFormed = true) ∧
        response = .ofJson 200 (reportAnswer report) := by
  simp only [← Unencodable.inUtf8_eq_none_iff]
  rw [reportResponse, ← List.findSome?_eq_none_iff]
  cases (reportTexts report).findSome? Unencodable.inUtf8 with
  | some what => exact iff_of_false nofun nofun
  | none => exact ⟨fun h => ⟨rfl, (Except.ok.inj h).symm⟩, fun h => congrArg Except.ok h.2.symm⟩

/-- Where a text of the report has no encoding, there is no answer with it. -/
theorem reportResponse_eq_error {report : Report}
    (h : ¬ ∀ t ∈ reportTexts report, t.wellFormed = true) :
    ∃ what, reportResponse report = .error (.unserializable what) := by
  simp only [← Unencodable.inUtf8_eq_none_iff] at h
  rw [← List.findSome?_eq_none_iff] at h
  obtain ⟨what, hwhat⟩ := Option.ne_none_iff_exists'.mp h
  exact ⟨what, by rw [reportResponse, hwhat]⟩

/-- The answer with a report holds what a reporter of its own reports. -/
theorem report_result {request : AnalyzeRequest}
    (h : (report s request client u).result = .ok response) :
    ∃ written,
      ((({ config := providerConfig s } : Reporter).report request.code request.language).1
        .absent u).result = .ok written ∧ response = .ofJson 200 (reportAnswer written) := by
  obtain ⟨written, hwritten, hresponse⟩ : ∃ written,
      ((({ config := providerConfig s } : Reporter).report request.code request.language).1.apart
        client u).result = .ok written ∧ reportResponse written = .ok response := by
    obtain ⟨written, _, _, hwritten, hresponse⟩ := Exchange.exists_of_bind_result_ok h
    exact ⟨written, hwritten, hresponse⟩
  exact ⟨written, hwritten, (reportResponse_eq_ok_iff.mp hresponse).2⟩

/-- What becomes of what a reporter of its own reports for a valid request. -/
theorem dispatch_result_of_report {request : AnalyzeRequest} {written : Report}
    (hr : target r.method r.path = .endpoint .report)
    (hrequest : r.analyzeRequest? s.maxCodeLength = some (.valid request))
    (hreport : ((({ config := providerConfig s } : Reporter).report request.code
      request.language).1 .absent u).result = .ok written) (now : Text) (client : Client) :
    (dispatch s now r client u).result = reportResponse written := by
  have happart : ((({ config := providerConfig s } : Reporter).report request.code
      request.language).1.apart client u).result = .ok written := hreport
  obtain ⟨_, _, hresult⟩ := Exchange.bind_result_of_ok happart fun written =>
    Exchange.ofExcept (reportResponse written)
  rw [dispatch_of_target hr, Endpoint.answer, answering_of_valid hrequest]
  exact hresult

end BigO.Service
