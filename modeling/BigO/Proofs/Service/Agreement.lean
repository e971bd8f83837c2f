import BigO.Proofs.Json.Reading
import BigO.Proofs.Request
import BigO.Proofs.Service.Endpoint
import BigO.Proofs.Service.Layer

/-! The endpoint for an analysis answers with the estimate for the source text and the tag that were
sent. It names the tag in its normal form, which is what the analysis gets to see, and this form
asks for the same reading as the tag that was sent. -/

namespace BigO

namespace Service

variable {s : Settings} {r : Request} {members : List (Text × Json)}

theorem isEmpty_body (h : Json.readBytes r.body ≠ Json.readBytes []) : r.body.isEmpty = false := by
  cases hbody : r.body with
  | nil =>
    rw [hbody] at h
    exact absurd rfl h
  | cons b rest => rfl

/-- An object that is sent as JSON is the payload. -/
theorem payload_of_readBytes (htype : (r.header? "content-type").any namesJson = true)
    (hbody : Json.readBytes r.body = .ok (.obj members)) :
    r.payload = .ok (.value (.obj members)) := by
  have hfull : r.body.isEmpty = false := isEmpty_body (by rw [hbody]; exact nofun)
  rw [Request.payload, hfull, htype, hbody]
  rfl

/-- The language that an answer names: the tag without the blanks at its ends and in lower case, or
`javascript` where no tag is sent or a blank one. -/
def namedLanguage : Option Text → Text
  | none => text "javascript"
  | some tag => if tag.strip = [] then text "javascript" else tag.strip.lower

theorem getD_normalLanguage_eq (tag : Option Text) :
    (tag.map AnalyzeRequest.normalLanguage).getD AnalyzeRequest.defaultLanguage =
      namedLanguage tag := by
  cases tag with
  | none => rfl
  | some tag =>
    rw [Option.map_some, Option.getD_some, namedLanguage]
    rcases AnalyzeRequest.normalLanguage_cases tag with ⟨hlower, hnormal⟩ | ⟨hlower, hnormal⟩
    · rw [hnormal, if_pos (Text.lower_eq_nil_iff.mp hlower)]
      rfl
    · rw [hnormal, if_neg (mt Text.lower_eq_nil_iff.mpr hlower)]

/-- The JSON of the answer with an estimate. -/
def analysisAnswer (language : Text) (estimate : Estimate) : Json :=
  .obj [(text "success", .bool true), (text "language", .str language),
    (text "result", estimate.toJson)]

/-- What the reader of JSON does not take is refused. -/
theorem handle_of_tooManyDigits {count : Nat} (hr : target r.method r.path = .endpoint .analyze)
    (htype : (r.header? "content-type").any namesJson = true) (hsize : r.IsWithin s.maxRequestSize)
    (hbody : Json.readBytes r.body = .error (.unreadable (.tooManyDigits count))) (now : Text)
    (client : Client) (u : Outcomes) :
    ∃ reply, (handle s now r client u).result = .ok reply ∧ reply.response.status = 400 := by
  have hfull : r.body.isEmpty = false := isEmpty_body (by rw [hbody]; exact nofun)
  have hpayload : r.payload = .error .unreadable := by
    rw [Request.payload, hfull, htype, hbody]
    rfl
  have hdispatch : (dispatch s now r client u).result =
      .ok (.detail 400 "There was an error parsing the body") := by
    rw [dispatch_of_target hr, Endpoint.answer, answering, Request.analyzeRequest?, hpayload]
    rfl
  exact ⟨_, handle_of_dispatch (not_isPreflight_of_target hr) hsize hdispatch, rfl⟩

/-- A request for an analysis that carries JSON and declares a length. -/
def jsonRequest (body length : Text) : Request where
  method := text "POST"
  path := text "/analyze"
  query := []
  headers := [(text "content-type", text "application/json"), (text "content-length", length)]
  body := Text.toUtf8 body

theorem target_jsonRequest (body length : Text) :
    target (jsonRequest body length).method (jsonRequest body length).path =
      .endpoint .analyze := by
  have hroute : target (text "POST") (text "/analyze") = .endpoint .analyze := by decide +kernel
  exact hroute

theorem namesJson_jsonRequest (body length : Text) :
    ((jsonRequest body length).header? "content-type").any namesJson = true := by
  have htype : (jsonRequest body length).header? "content-type" = some (text "application/json") :=
    rfl
  rw [htype]
  decide +kernel

/-- An object with an integer of more digits than the reader takes. -/
def longIntegerBody : Text :=
  text "\x7b\"code\":\"\",\"n\":" ++
    List.replicate (Json.digitLimit + 1) (CodePoint.ofChar '1') ++ text "\x7d"

theorem readBytes_longIntegerBody :
    Json.readBytes (Text.toUtf8 longIntegerBody) =
      .error (.unreadable (.tooManyDigits (Json.digitLimit + 1))) := by
  have hfront : ∃ rest, longIntegerBody = .openBrace :: .doubleQuote :: rest := ⟨_, rfl⟩
  have hread : (match Json.readWhole longIntegerBody with
      | .error failure => some failure
      | .ok _ => none) = some (.tooManyDigits (Json.digitLimit + 1)) := by decide +kernel
  obtain ⟨rest, hrest⟩ := hfront
  rw [Json.readBytes, hrest, Json.decode_toUtf8 (by decide) (by decide), ← hrest]
  cases hwhole : Json.readWhole longIntegerBody with
  | error failure =>
    rw [hwhole] at hread
    simp only [hwhole, Option.some.inj hread, Except.mapError]
  | ok value =>
    rw [hwhole] at hread
    cases hread

/-- A source text and a tag that are sent within the limits are answered with the estimate for this
source text and this tag, and with the language that the tag names. -/
theorem endpoint_agrees_with_analyze {code : Text} {tag : Option Text}
    (hmethod : r.method = text "POST")
    (hpath : r.path = text "/analyze" ∨ r.path = text "/api/v1/analyze")
    (htype : (r.header? "content-type").any namesJson = true)
    (hsize : ∃ size, r.declaredSize? = some size ∧ size ≤ s.maxRequestSize)
    (hbody : Json.readBytes r.body = .ok (.obj members))
    (hcode : Json.member? members (text "code") = some (.str code))
    (hlength : code.length ≤ s.maxCodeLength)
    (hlanguage : Json.member? members (text "language") = tag.map Json.str)
    (htag : ∀ t ∈ tag, t.wellFormed = true ∧ t.length ≤ 50) (now : Text) (client : Client)
    (u : Outcomes) :
    ∃ reply, (handle s now r client u).result = .ok reply ∧ reply.response.status = 200 ∧
      reply.response.body = (analysisAnswer (namedLanguage tag)
        (analyze code (tag.getD (text "javascript")))).write .compact := by
  have hr : target r.method r.path = .endpoint .analyze := by
    rw [hmethod]
    rcases hpath with hpath | hpath <;> rw [hpath] <;> decide +kernel
  have hrequest : r.analyzeRequest? s.maxCodeLength =
      some (.valid { code, language := namedLanguage tag }) := by
    have hmembers := AnalyzeRequest.ofMembers_of_members hcode hlength hlanguage htag
    rw [getD_normalLanguage_eq] at hmembers
    rw [Request.analyzeRequest?, payload_of_readBytes htype hbody]
    simp only [Payload.analyzeRequest, hmembers, Checked.under]
  have hestimate : analyze code (namedLanguage tag) =
      analyze code (tag.getD (text "javascript")) := by
    cases tag with
    | none => rfl
    | some tag =>
      rw [← getD_normalLanguage_eq]
      exact analyze_normalLanguage code tag
  have hdispatch : (dispatch s now r client u).result =
      .ok (.ofJson 200 (analysisAnswer (namedLanguage tag)
        (analyze code (tag.getD (text "javascript"))))) := by
    rw [dispatch_of_target hr, Endpoint.answer, answering_of_valid hrequest, ← hestimate]
    rfl
  exact ⟨_, handle_of_dispatch (not_isPreflight_of_target hr) (fun _ => hsize) hdispatch, rfl, rfl⟩

/-- The tag `PYTHON` between blanks of all kinds is `python` to the endpoint and to the analysis. -/
theorem endpoint_agrees_with_analyze_on_padded_tag :
    let s : Settings := {}
    let code := text "while True:\n  pass"
    let tag : Text := { val := 0x3000 } :: text "\tPYTHON "
    let members := [(text "code", Json.str code), (text "language", Json.str tag)]
    let r := jsonRequest ((Json.obj members).write .compact) (text "61")
    let u : Outcomes := fun _ => .fault .timeout []
    r.method = text "POST" ∧ r.path = text "/analyze" ∧
      (r.header? "content-type").any namesJson = true ∧
      (∃ size, r.declaredSize? = some size ∧ size ≤ s.maxRequestSize) ∧
      Json.readBytes r.body = .ok (.obj members) ∧
      Json.member? members (text "code") = some (.str code) ∧ code.length ≤ s.maxCodeLength ∧
      Json.member? members (text "language") = (some tag).map Json.str ∧
      (∀ t ∈ some tag, t.wellFormed = true ∧ t.length ≤ 50) ∧
      ∃ reply, (handle s [] r .absent u).result = .ok reply ∧ reply.response.status = 200 ∧
        reply.response.body =
          (analysisAnswer (text "python") (analyze code tag)).write .compact := by
  intro s code tag members r u
  have hsize : ∃ size, r.declaredSize? = some size ∧ size ≤ s.maxRequestSize :=
    ⟨61, by decide +kernel, by decide⟩
  have htextual : ∀ m ∈ members, Json.IsTextual 959 m.2 := by
    simp only [members, List.forall_mem_cons, List.not_mem_nil, false_imp_iff, implies_true,
      and_true]
    exact ⟨.str _, .str _⟩
  have hbody : Json.readBytes r.body = .ok (.obj members) :=
    Json.readBytes_write_obj (.obj (by decide) htextual)
  have hlanguage : namedLanguage (some tag) = text "python" := by decide +kernel
  have htag : ∀ t ∈ some tag, t.wellFormed = true ∧ t.length ≤ 50 := by decide
  have hcarried : Json.member? members (text "language") = (some tag).map Json.str := rfl
  obtain ⟨reply, hreply, hstatus, hanswer⟩ := endpoint_agrees_with_analyze rfl (.inl rfl)
    (namesJson_jsonRequest _ _) hsize hbody rfl (by decide) hcarried htag [] .absent u
  rw [hlanguage] at hanswer
  exact ⟨rfl, rfl, namesJson_jsonRequest _ _, hsize, hbody, rfl, by decide, hcarried, htag, reply,
    hreply, hstatus, hanswer⟩

/-- An object with such an integer is refused, although nothing looks at the integer. -/
theorem endpoint_refuses_long_integer :
    let s : Settings := {}
    let r := jsonRequest longIntegerBody (text "4317")
    let u : Outcomes := fun _ => .fault .timeout []
    r.method = text "POST" ∧ r.path = text "/analyze" ∧
      (r.header? "content-type").any namesJson = true ∧
      (∃ size, r.declaredSize? = some size ∧ size ≤ s.maxRequestSize) ∧
      ∃ reply, (handle s [] r .absent u).result = .ok reply ∧ reply.response.status = 400 := by
  intro s r u
  have hsize : ∃ size, r.declaredSize? = some size ∧ size ≤ s.maxRequestSize :=
    ⟨4317, by decide +kernel, by decide⟩
  exact ⟨rfl, rfl, namesJson_jsonRequest _ _, hsize,
    handle_of_tooManyDigits (target_jsonRequest _ _) (namesJson_jsonRequest _ _) (fun _ => hsize)
      readBytes_longIntegerBody [] .absent u⟩

end Service

end BigO
