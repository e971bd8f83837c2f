import BigO.Proofs.Text.Part
import BigO.Provider.Rail

/-! What the rail makes of the last outcome of a model's requests. A model may answer, it may fail in
a way that sends the rail on to the next model, or the outcome cannot be read at all. For the last
of these there are four causes, and a response has one of them exactly when it cannot be read. -/

namespace BigO

/-- The failure is one of a model, behind which the rail goes on with the next one. -/
def Failure.isOfModel : Failure → Bool
  | .provider .. => true
  | .transport fault _ => fault.isOfExchange
  | _ => false

namespace CompletionResponse

variable {r received : CompletionResponse} {failure : Failure}

/-- The response sends the client on to an address that the client cannot go to. -/
def Misdirected (r : CompletionResponse) : Prop :=
  ∃ message, r.received = .error (.transport .invalidUrl message)

/-- The text of the body is needed, for an error message, and the charset gives none. -/
def Undecodable (r : CompletionResponse) : Prop :=
  ∃ received failure, r.received = .ok received ∧
    (r.status ≠ 200 ∨ received.json? = .ok none) ∧ received.text = .error failure

/-- The body is nested too deep. -/
def TooDeep (r : CompletionResponse) : Prop :=
  ∃ received container, r.received = .ok received ∧ received.json? = .error (.tooDeep container)

/-! ### Receiving -/

theorem content_eq_error (h : r.content = .error failure) :
    ∃ message, failure = .transport .decodingError message := by
  rw [content, Except.mapError.eq_def] at h
  split at h
  case h_1 what _ => exact ⟨_, (Except.error.inj h).symm⟩
  case h_2 => cases h

/-- A response sends the client on to no address, to one that the protocol does not know, or to one
that the client cannot go to. -/
theorem checkRedirection_eq_error (h : r.checkRedirection = .error failure) :
    ∃ fault message, failure = .transport fault message ∧
      (fault = .remoteProtocolError ∨ fault = .invalidUrl) := by
  rw [checkRedirection] at h
  simp only [bind, Except.bind, pure, Except.pure] at h
  split at h
  case isTrue => cases h
  case isFalse =>
    cases hlocation : r.header? "location" with
    | none => rw [hlocation] at h; cases h
    | some location =>
      simp only [hlocation] at h
      cases hread : Address.read location with
      | error fault =>
        simp only [hread, Except.mapError] at h
        exact ⟨_, _, (Except.error.inj h).symm, .inl rfl⟩
      | ok address =>
        simp only [hread, Except.mapError] at h
        split at h
        case isFalse => cases h
        case isTrue =>
          cases hhost : address.addHost CompletionRequest.host with
          | error fault =>
            simp only [hhost] at h
            exact ⟨_, _, (Except.error.inj h).symm, .inr rfl⟩
          | ok whole => simp only [hhost] at h; cases h

theorem received_eq_ok (h : r.received = .ok received) :
    received.status = r.status ∧ r.unencodableHeader? = none := by
  rw [CompletionResponse.received] at h
  cases hheader : r.unencodableHeader? with
  | some what => rw [hheader] at h; cases h
  | none =>
    rw [hheader] at h
    simp only [bind, Except.bind, pure, Except.pure] at h
    cases hcontent : r.content with
    | error failure => rw [hcontent] at h; cases h
    | ok body =>
      cases hredirection : r.checkRedirection with
      | error failure => rw [hcontent, hredirection] at h; cases h
      | ok checked =>
        rw [hcontent, hredirection] at h
        cases h
        exact ⟨rfl, rfl⟩

theorem received_of_unencodable {what : Unencodable} (h : r.unencodableHeader? = some what) :
    r.received = .error (.unencodable what) := by
  rw [CompletionResponse.received, h]
  rfl

/-- A response that is not received is one with a header field outside ASCII, or the exchange with
the model fails, or there is an address that the client cannot go to. -/
theorem received_eq_error (h : r.received = .error failure) :
    (∃ what, r.unencodableHeader? = some what ∧ failure = .unencodable what) ∨
      (r.unencodableHeader? = none ∧ ∃ fault message, failure = .transport fault message ∧
        (fault.isOfExchange = true ∨ fault = .invalidUrl)) := by
  rw [CompletionResponse.received] at h
  cases hheader : r.unencodableHeader? with
  | some what =>
    rw [hheader] at h
    exact .inl ⟨what, rfl, (Except.error.inj h).symm⟩
  | none =>
    rw [hheader] at h
    simp only [bind, Except.bind, pure, Except.pure] at h
    refine .inr ⟨rfl, ?_⟩
    cases hcontent : r.content with
    | error other =>
      rw [hcontent] at h
      cases h
      obtain ⟨message, rfl⟩ := content_eq_error hcontent
      exact ⟨_, message, rfl, .inl rfl⟩
    | ok body =>
      cases hredirection : r.checkRedirection with
      | ok checked => rw [hcontent, hredirection] at h; cases h
      | error other =>
        rw [hcontent, hredirection] at h
        cases h
        obtain ⟨fault, message, rfl, rfl | rfl⟩ := checkRedirection_eq_error hredirection
        · exact ⟨_, message, rfl, .inl rfl⟩
        · exact ⟨_, message, rfl, .inr rfl⟩

/-! ### Values -/

theorem json?_eq_error (h : r.json? = .error failure) :
    ∃ container, failure = .tooDeep container := by
  rw [json?] at h
  split at h
  case h_1 => cases h
  case h_2 container _ => exact ⟨container, (Except.error.inj h).symm⟩
  case h_3 => cases h

/-- A text that cannot be told is no failure of the model. -/
theorem isOfModel_of_text_eq_error (h : r.text = .error failure) : failure.isOfModel = false := by
  rw [CompletionResponse.text] at h
  simp only [bind, Except.bind, pure, Except.pure] at h
  split at h
  case isTrue => cases h
  case isFalse =>
    cases hcharset : r.charset with
    | error fault =>
      simp only [hcharset, Except.mapError] at h
      cases h
      rfl
    | ok charset =>
      simp only [hcharset, Except.mapError] at h
      split at h
      case h_1 => cases h; rfl
      case h_2 => cases h

/-- The failure of an error message is that of the text, which is read first, or else that of the
JSON value. -/
theorem errorDetail_eq_error_iff :
    r.errorDetail = .error failure ↔
      r.text = .error failure ∨ (∃ body, r.text = .ok body) ∧ r.json? = .error failure := by
  rw [errorDetail]
  simp only [bind, Except.bind, pure, Except.pure]
  cases htext : r.text with
  | error other => simp
  | ok body =>
    cases hjson : r.json? with
    | error other => simp
    | ok value? =>
      simp only [reduceCtorEq, and_false, or_false, iff_false]
      split
      case h_1 => split <;> exact nofun
      case h_2 => exact nofun

theorem value_of_received_error (h : r.received = .error failure) : r.value = .error failure := by
  rw [value, h]
  rfl

/-- The value of a response with an error status is a failure with the message in the response. -/
theorem value_of_status_ne (h : r.received = .ok received) (hstatus : r.status ≠ 200) :
    r.value = received.errorDetail.bind fun detail => .error (.provider
      (BigO.text "API error (" ++ Text.ofInt r.status ++ BigO.text "): " ++ detail)
      (some r.status)) := by
  rw [← (received_eq_ok h).1] at hstatus ⊢
  rw [value, h]
  simp only [bind, Except.bind, hstatus, ne_eq, not_false_eq_true, if_true]
  cases received.errorDetail <;> rfl

/-- The value of another response is that in its body, or a failure with the front of the body. -/
theorem value_of_status_eq (h : r.received = .ok received) (hstatus : r.status = 200) :
    r.value = received.json?.bind fun
      | some value => .ok value
      | none => received.text.bind fun body => .error (.provider
          (BigO.text "Non-JSON response body: " ++ body.take quoteLimit) (some r.status)) := by
  rw [← (received_eq_ok h).1] at hstatus ⊢
  rw [value, h]
  simp only [bind, Except.bind, hstatus, ne_eq, not_true_eq_false, if_false]
  cases received.json? with
  | error failure => rfl
  | ok value? => cases value? <;> rfl

/-- A response has a value when it is received with status 200 and its body is JSON. -/
theorem value_eq_ok_iff {v : Json} :
    r.value = .ok v ↔
      ∃ received, r.received = .ok received ∧ r.status = 200 ∧ received.json? = .ok (some v) := by
  cases hreceived : r.received with
  | error failure => simp [value_of_received_error hreceived]
  | ok received =>
    by_cases hstatus : r.status = 200
    · rw [value_of_status_eq hreceived hstatus]
      cases hjson : received.json? with
      | error failure => simp [Except.bind, hstatus, hjson]
      | ok value? =>
        cases value? with
        | some value => simp [Except.bind, hstatus, hjson]
        | none => cases received.text <;> simp [Except.bind, hstatus, hjson]
    · rw [value_of_status_ne hreceived hstatus]
      cases received.errorDetail <;> simp [Except.bind, hstatus]

/-- Nothing can be made of the response: its value is a failure that ends the walk along the rail. -/
def IsUnreadable (r : CompletionResponse) : Prop :=
  ∃ failure, r.value = .error failure ∧ failure.isOfModel = false

theorem Undecodable.isUnreadable (h : r.Undecodable) : r.IsUnreadable := by
  obtain ⟨received, failure, hreceived, hneeded, htext⟩ := h
  refine ⟨failure, ?_, isOfModel_of_text_eq_error htext⟩
  by_cases hstatus : r.status = 200
  · have hjson := hneeded.resolve_left fun hne => hne hstatus
    rw [value_of_status_eq hreceived hstatus, hjson]
    simp only [Except.bind, htext]
  · have hdetail : received.errorDetail = .error failure :=
      errorDetail_eq_error_iff.mpr (.inl htext)
    rw [value_of_status_ne hreceived hstatus, hdetail]
    rfl

theorem TooDeep.isUnreadable (h : r.TooDeep) : r.IsUnreadable := by
  obtain ⟨received, container, hreceived, hjson⟩ := h
  by_cases hstatus : r.status = 200
  · refine ⟨.tooDeep container, ?_, rfl⟩
    rw [value_of_status_eq hreceived hstatus, hjson]
    rfl
  · cases htext : received.text with
    | error failure =>
      exact Undecodable.isUnreadable ⟨received, failure, hreceived, .inl hstatus, htext⟩
    | ok body =>
      have hdetail : received.errorDetail = .error (.tooDeep container) :=
        errorDetail_eq_error_iff.mpr (.inr ⟨⟨body, htext⟩, hjson⟩)
      refine ⟨.tooDeep container, ?_, rfl⟩
      rw [value_of_status_ne hreceived hstatus, hdetail]
      rfl

/-- The causes for which a received response cannot be read. -/
theorem undecodable_or_tooDeep (hreceived : r.received = .ok received) (h : r.IsUnreadable) :
    r.Undecodable ∨ r.TooDeep := by
  obtain ⟨failure, hvalue, hfailure⟩ := h
  by_cases hstatus : r.status = 200
  · rw [value_of_status_eq hreceived hstatus] at hvalue
    cases hjson : received.json? with
    | error other =>
      obtain ⟨container, rfl⟩ := json?_eq_error hjson
      exact .inr ⟨received, container, hreceived, hjson⟩
    | ok value? =>
      rw [hjson] at hvalue
      cases value? with
      | some value => cases hvalue
      | none =>
        cases htext : received.text with
        | error other => exact .inl ⟨received, other, hreceived, .inr hjson, htext⟩
        | ok body =>
          simp only [Except.bind, htext, Except.error.injEq] at hvalue
          rw [← hvalue] at hfailure
          cases hfailure
  · rw [value_of_status_ne hreceived hstatus] at hvalue
    cases hdetail : received.errorDetail with
    | ok detail =>
      simp only [Except.bind, hdetail, Except.error.injEq] at hvalue
      rw [← hvalue] at hfailure
      cases hfailure
    | error other =>
      obtain htext | ⟨-, hjson⟩ := errorDetail_eq_error_iff.mp hdetail
      · exact .inl ⟨received, other, hreceived, .inl hstatus, htext⟩
      · obtain ⟨container, rfl⟩ := json?_eq_error hjson
        exact .inr ⟨received, container, hreceived, hjson⟩

/-- The four causes for which a response cannot be read: a header field outside ASCII, an address
that the client cannot go to, a text that cannot be told, and a body that is nested too deep. -/
theorem isUnreadable_iff :
    r.IsUnreadable ↔
      (∃ what, r.unencodableHeader? = some what) ∨ r.Misdirected ∨ r.Undecodable ∨ r.TooDeep := by
  constructor
  · intro h
    cases hreceived : r.received with
    | ok received => exact .inr (.inr (undecodable_or_tooDeep hreceived h))
    | error other =>
      obtain ⟨failure, hvalue, hfailure⟩ := h
      rw [value_of_received_error hreceived] at hvalue
      cases hvalue
      obtain ⟨what, hheader, -⟩ | ⟨-, fault, message, rfl, hfault | rfl⟩ :=
        received_eq_error hreceived
      · exact .inl ⟨what, hheader⟩
      · exact absurd hfault (Bool.eq_false_iff.mp hfailure)
      · exact .inr (.inl ⟨message, hreceived⟩)
  · rintro (⟨what, hheader⟩ | ⟨message, hreceived⟩ | hundecodable | htooDeep)
    · exact ⟨_, value_of_received_error (received_of_unencodable hheader), rfl⟩
    · exact ⟨_, value_of_received_error hreceived, rfl⟩
    · exact hundecodable.isUnreadable
    · exact htooDeep.isUnreadable

end CompletionResponse

/-! ### Contents -/

namespace Provider

/-- The JSON value is a completion: the first of its choices has a message with this content. -/
def IsCompletionOf (v : Json) (content : Text) : Prop :=
  ∃ completion choice message choices, v = .obj completion ∧
    Json.member? completion (text "choices") = some (.arr (.obj choice :: choices)) ∧
    Json.member? choice (text "message") = some (.obj message) ∧
    Json.member? message (text "content") = some (.str content)

theorem content?_eq_some_iff {v : Json} {content : Text} :
    content? v = some content ↔ IsCompletionOf v content := by
  constructor
  · intro h
    unfold content? at h
    split at h
    case h_2 => cases h
    case h_1 completion =>
      split at h
      case h_2 => cases h
      case h_1 choice choices hchoices =>
        split at h
        case h_2 => cases h
        case h_1 message hmessage =>
          split at h
          case h_2 => cases h
          case h_1 said hsaid =>
            cases h
            exact ⟨completion, choice, message, choices, rfl, hchoices, hmessage, hsaid⟩
  · rintro ⟨completion, choice, message, choices, rfl, hchoices, hmessage, hcontent⟩
    simp only [content?, hchoices, hmessage, hcontent]

end Provider

namespace Outcome

variable {o : Outcome}

/-- The request fails in passing, so it is made again. -/
def isTransient : Outcome → Bool
  | .response _ => false
  | .fault kind _ => kind.isTransient

/-- What asking a model gives when this is the last outcome. -/
def value : Outcome → Except Failure Json
  | .response r => r.value
  | .fault kind message => .error (.transport kind message)

/-- The usable answer in an outcome: what the first choice says, without the blanks around it. -/
def answer? (o : Outcome) : Option Text :=
  match o.value with
  | .ok v => ((Provider.content? v).map Text.strip).filter (· ≠ [])
  | .error _ => none

/-- The outcome is a response with status 200, its body is a completion, what its first choice says
is more than blanks, and `answer` is that without the blanks around it. -/
def Answers (o : Outcome) (answer : Text) : Prop :=
  ∃ r received v said, o = .response r ∧ r.received = .ok received ∧ r.status = 200 ∧
    received.json? = .ok (some v) ∧ Provider.IsCompletionOf v said ∧
    (∃ c ∈ said, c.isBlank = false) ∧ answer = said.strip

theorem value_eq_ok_iff {v : Json} :
    o.value = .ok v ↔
      ∃ r received, o = .response r ∧ r.received = .ok received ∧ r.status = 200 ∧
        received.json? = .ok (some v) := by
  cases o with
  | fault kind message => simp [value]
  | response r => simp [value, CompletionResponse.value_eq_ok_iff]

theorem answer?_eq_some_iff {answer : Text} : o.answer? = some answer ↔ o.Answers answer := by
  constructor
  · intro h
    rw [answer?] at h
    cases hvalue : o.value with
    | error failure => rw [hvalue] at h; cases h
    | ok v =>
      rw [hvalue] at h
      obtain ⟨hcontent, hanswer⟩ := Option.filter_eq_some_iff.mp h
      obtain ⟨said, hsaid, rfl⟩ := Option.map_eq_some_iff.mp hcontent
      obtain ⟨r, received, rfl, hreceived, hstatus, hjson⟩ := value_eq_ok_iff.mp hvalue
      exact ⟨r, received, v, said, rfl, hreceived, hstatus, hjson,
        Provider.content?_eq_some_iff.mp hsaid,
        Text.strip_ne_nil_iff.mp (of_decide_eq_true hanswer), rfl⟩
  · rintro ⟨r, received, v, said, rfl, hreceived, hstatus, hjson, hsaid, hblank, rfl⟩
    have hvalue := value_eq_ok_iff.mpr ⟨r, received, rfl, hreceived, hstatus, hjson⟩
    rw [answer?, hvalue]
    simp only [Provider.content?_eq_some_iff.mpr hsaid, Option.map_some]
    exact Option.filter_eq_some_iff.mpr ⟨rfl, decide_eq_true (Text.strip_ne_nil_iff.mpr hblank)⟩

/-- Nothing can be made of the outcome: it is a failure that ends the walk along the rail. -/
def IsUnreadable (o : Outcome) : Prop :=
  ∃ failure, o.value = .error failure ∧ failure.isOfModel = false

theorem not_isUnreadable_of_answer? {answer : Text} (h : o.answer? = some answer) :
    ¬ o.IsUnreadable := by
  rintro ⟨failure, hvalue, -⟩
  rw [answer?, hvalue] at h
  cases h

/-- What a completion service gives: a response with ASCII header fields, or a fault of the
exchange with one model. -/
def IsOrdinary : Outcome → Prop
  | .response r => r.unencodableHeader? = none
  | .fault kind _ => kind.isOfExchange = true

/-- An ordinary outcome that cannot be read is a response. -/
theorem IsOrdinary.isUnreadable_iff (h : o.IsOrdinary) :
    o.IsUnreadable ↔ ∃ r, o = .response r ∧ (r.Misdirected ∨ r.Undecodable ∨ r.TooDeep) := by
  cases o with
  | response r =>
    have hheader : r.unencodableHeader? = none := h
    have := r.isUnreadable_iff
    simp only [hheader, reduceCtorEq, exists_false, false_or] at this
    simpa [IsUnreadable, value, CompletionResponse.IsUnreadable] using this
  | fault kind message =>
    have hkind : kind.isOfExchange = true := h
    simp [IsUnreadable, value, Failure.isOfModel, hkind]

end Outcome

end BigO
