import Mathlib.Data.List.Induction
import BigO.Proofs.Provider.Completion

/-! The error of a rail on which no model answers. It is what is told of the last model whose
requests ended in an error: models that say nothing behind that one leave it in place. Only where
all models say nothing, the error is that all of them did. -/

namespace BigO

open Provider

/-- A fault of the exchange is told in its own words. -/
theorem TransportFault.wording_eq {fault : TransportFault} (h : fault.isOfExchange = true)
    (message : Text) : fault.wording message = message := by
  cases fault with
  | keyError => cases h
  | _ => rfl

namespace CompletionResponse

variable {r received : CompletionResponse} {failure : Failure}

/-- With status 200 it is the model that fails only where the body holds no JSON. -/
theorem exists_body_of_value (hreceived : r.received = .ok received) (hstatus : r.status = 200)
    (hvalue : r.value = .error failure) (hfailure : failure.isOfModel = true) :
    ∃ body, received.json? = .ok none ∧ received.text = .ok body ∧
      failure = .provider (BigO.text "Non-JSON response body: " ++ body.take 200) (some 200) := by
  rw [value_of_status_eq hreceived hstatus, hstatus] at hvalue
  cases hjson : received.json? with
  | error other =>
    obtain ⟨container, rfl⟩ := json?_eq_error hjson
    rw [hjson] at hvalue
    cases hvalue
    cases hfailure
  | ok value? =>
    rw [hjson] at hvalue
    cases value? with
    | some v => cases hvalue
    | none =>
      cases hbody : received.text with
      | error other =>
        simp only [Except.bind, hbody, Except.error.injEq] at hvalue
        rw [← hvalue, isOfModel_of_text_eq_error hbody] at hfailure
        cases hfailure
      | ok body =>
        simp only [Except.bind, hbody, Except.error.injEq] at hvalue
        exact ⟨body, rfl, rfl, hvalue.symm⟩

/-- With another status the model fails with what the response says. -/
theorem exists_detail_of_value (hreceived : r.received = .ok received) (hstatus : r.status ≠ 200)
    (hvalue : r.value = .error failure) (hfailure : failure.isOfModel = true) :
    ∃ detail, received.errorDetail = .ok detail ∧
      failure = .provider (BigO.text "API error (" ++ Text.ofInt r.status ++ BigO.text "): " ++
        detail) (some r.status) := by
  rw [value_of_status_ne hreceived hstatus] at hvalue
  cases hdetail : received.errorDetail with
  | ok detail =>
    simp only [Except.bind, hdetail, Except.error.injEq] at hvalue
    exact ⟨detail, rfl, hvalue.symm⟩
  | error other =>
    simp only [Except.bind, hdetail, Except.error.injEq] at hvalue
    rw [← hvalue] at hfailure
    rcases errorDetail_eq_error_iff.mp hdetail with htext | ⟨-, hjson⟩
    · rw [isOfModel_of_text_eq_error htext] at hfailure
      cases hfailure
    · obtain ⟨container, rfl⟩ := json?_eq_error hjson
      cases hfailure

end CompletionResponse

namespace Outcome

/-- The outcome is an error of the model, and this is what is told of it: of a response with another
status than 200 its status and what it says, of a response that holds no JSON its status and the
front of its body, and of a request that failed how it did. A response that cannot be received is a
request that failed. -/
inductive EndsInError : Outcome → LastError → Prop
  | status {r received : CompletionResponse} {detail : Text} (hreceived : r.received = .ok received)
      (hstatus : r.status ≠ 200) (hdetail : received.errorDetail = .ok detail) :
      EndsInError (.response r)
        { message := text "API error (" ++ Text.ofInt r.status ++ text "): " ++ detail
          status := some r.status }
  | noJson {r received : CompletionResponse} {body : Text} (hreceived : r.received = .ok received)
      (hstatus : r.status = 200) (hjson : received.json? = .ok none)
      (hbody : received.text = .ok body) :
      EndsInError (.response r)
        { message := text "Non-JSON response body: " ++ body.take 200, status := some 200 }
  | unreceived {r : CompletionResponse} {fault : TransportFault} {message : Text}
      (hreceived : r.received = .error (.transport fault message))
      (hfault : fault.isOfExchange = true) :
      EndsInError (.response r) { message, status := none }
  | failed {fault : TransportFault} {message : Text} (hfault : fault.isOfExchange = true) :
      EndsInError (.fault fault message) { message, status := none }

/-- The outcome is a response with status 200 and JSON, without a text in the first choice that is
more than blanks. -/
def SaysNothing (o : Outcome) : Prop :=
  ∃ r received v, o = .response r ∧ r.received = .ok received ∧ r.status = 200 ∧
    received.json? = .ok (some v) ∧
    ∀ content, IsCompletionOf v content → ∀ c ∈ content, c.isBlank = true

variable {o : Outcome}

/-- Where there is a value and no answer, nothing is said. -/
theorem saysNothing_of_value {v : Json} (hvalue : o.value = .ok v) (hanswer : o.answer? = none) :
    o.SaysNothing := by
  obtain ⟨r, received, rfl, hreceived, hstatus, hjson⟩ := value_eq_ok_iff.mp hvalue
  refine ⟨r, received, v, rfl, hreceived, hstatus, hjson, ?_⟩
  intro content hcontent c hc
  by_contra hblank
  have hsaid : (Outcome.response r).Answers content.strip :=
    ⟨r, received, v, content, rfl, hreceived, hstatus, hjson, hcontent,
      ⟨c, hc, Bool.eq_false_iff.mpr hblank⟩, rfl⟩
  rw [answer?_eq_some_iff.mpr hsaid] at hanswer
  cases hanswer

/-- Where there is a failure of the model in place of a value, that is told. -/
theorem endsInError_of_value {failure : Failure} (hvalue : o.value = .error failure)
    (hfailure : failure.isOfModel = true) (last : LastError) :
    o.EndsInError (o.lastError last) := by
  rw [lastError, hvalue]
  cases o with
  | fault kind message =>
    cases hvalue
    have hkind : kind.isOfExchange = true := hfailure
    simp only [TransportFault.wording_eq hkind]
    exact .failed hkind
  | response r =>
    have hvalue : r.value = .error failure := hvalue
    cases hreceived : r.received with
    | error other =>
      rw [CompletionResponse.value_of_received_error hreceived] at hvalue
      cases hvalue
      rcases CompletionResponse.received_eq_error hreceived with
        ⟨what, -, rfl⟩ | ⟨-, fault, message, rfl, -⟩
      · cases hfailure
      · have hfault : fault.isOfExchange = true := hfailure
        simp only [TransportFault.wording_eq hfault]
        exact .unreceived hreceived hfault
    | ok received =>
      by_cases hstatus : r.status = 200
      · obtain ⟨body, hjson, hbody, rfl⟩ :=
          CompletionResponse.exists_body_of_value hreceived hstatus hvalue hfailure
        exact .noJson hreceived hstatus hjson hbody
      · obtain ⟨detail, hdetail, rfl⟩ :=
          CompletionResponse.exists_detail_of_value hreceived hstatus hvalue hfailure
        exact .status hreceived hstatus hdetail

end Outcome

/-- A model that the rail passes ended in an error, which is then the last one, or it said nothing
and leaves the last error in place. -/
theorem Block.Passes.endsInError_or_saysNothing {b : Block} (h : b.Passes) (last : LastError) :
    b.final.EndsInError (b.final.lastError last) ∨
      b.final.SaysNothing ∧ b.final.lastError last = last := by
  cases hvalue : b.final.value with
  | error failure =>
    apply Or.inl
    apply Outcome.endsInError_of_value hvalue
    exact Bool.not_eq_false _ ▸ fun hfalse => h.readable ⟨failure, hvalue, hfalse⟩
  | ok v =>
    apply Or.inr
    refine ⟨Outcome.saysNothing_of_value hvalue h.unanswered, ?_⟩
    rw [Outcome.lastError, hvalue]

namespace Blocks

/-- `error` is what is told of the last of these models that ended in an error, behind which all
others said nothing. Where all of them said nothing, it is what stood there before. -/
def TellsLast (blocks : List Block) (before error : LastError) : Prop :=
  (∃ front b back, blocks = front ++ b :: back ∧ b.final.EndsInError error ∧
    ∀ other ∈ back, other.final.SaysNothing) ∨
  (∀ b ∈ blocks, b.final.SaysNothing) ∧ error = before

theorem lastError_concat (blocks : List Block) (b : Block) (last : LastError) :
    lastError (blocks ++ [b]) last = b.final.lastError (lastError blocks last) :=
  List.foldl_append

/-- The error to end with is the last one that can be told. The induction goes from the end, where
the last model is. -/
theorem tellsLast_lastError {blocks : List Block} (h : ∀ b ∈ blocks, b.Passes)
    (before : LastError) : TellsLast blocks before (lastError blocks before) := by
  induction blocks using List.reverseRecOn with
  | nil => exact Or.inr ⟨nofun, rfl⟩
  | append_singleton blocks b ih =>
    obtain ⟨hblocks, hb⟩ := List.forall_mem_append.mp h
    have hpasses : b.Passes := hb b (List.mem_singleton_self b)
    rw [lastError_concat]
    rcases hpasses.endsInError_or_saysNothing (lastError blocks before) with
      herror | ⟨hnothing, hlast⟩
    · exact Or.inl ⟨blocks, b, [], rfl, herror, nofun⟩
    · rw [hlast]
      rcases ih hblocks with ⟨front, b', back, rfl, herror, hback⟩ | ⟨hall, hbefore⟩
      · refine Or.inl ⟨front, b', back ++ [b], ?_, herror, ?_⟩
        · rw [List.append_assoc, List.cons_append]
        · exact List.forall_mem_append.mpr ⟨hback, List.forall_mem_singleton.mpr hnothing⟩
      · exact Or.inr
          ⟨List.forall_mem_append.mpr ⟨hall, List.forall_mem_singleton.mpr hnothing⟩, hbefore⟩

end Blocks

variable {p : Provider} {messages : Json} {client : Client} {u : Outcomes}

/-- A walk that ends with an error of the models has passed the whole rail. -/
theorem Provider.Walked.exists_passing {models : List Text} {last : LastError}
    {blocks : List Block} {message : Text} {status : Option Int}
    (h : Walked u models last blocks (.error (.provider message status))) :
    (∃ v, Passing u models blocks v []) ∧
      Blocks.lastError blocks last = { message, status } := by
  cases h with
  | exhausted hpassing => exact ⟨⟨_, hpassing⟩, rfl⟩
  | unreadable _ _ _ hfailure => cases hfailure

/-- The error of an exhausted rail. Each model was asked a block of times in the order of the rail,
and the error is what is told of the last one of them that ended in an error; where none did, it is
that all models said nothing. -/
theorem exhausted_rail_tells_last_error (h : p.CanAsk messages client) {message : Text}
    {status : Option Int}
    (hfailed : (p.complete messages client u).result = .error (.provider message status)) :
    ∃ blocks, blocks.map Block.model = p.models ∧
      InOrder p.models u (p.complete messages client u).trace.requests blocks ∧
      Blocks.TellsLast blocks
        { message := text "All models returned empty response", status := none }
        { message, status } := by
  obtain ⟨blocks, result, log, left, hwalked, hrun⟩ := Provider.walk_run h p.models {} u
  have hcomplete : p.complete messages client u =
      { result, trace := p.traceOf messages blocks log, client := left } := hrun
  rw [hcomplete] at hfailed ⊢
  cases hfailed
  obtain ⟨⟨v, hpassing⟩, hlast⟩ := hwalked.exists_passing
  have hmodels : blocks.map Block.model = p.models := by
    rw [hpassing.models_eq, List.append_nil]
  refine ⟨blocks, hmodels, ?_, ?_⟩
  · exact Provider.inOrder_traceOf hpassing.map_model_prefix hpassing.take_eq log
  · rw [← hlast]
    exact Blocks.tellsLast_lastError hpassing.passes _

/-- The first model answers with an error status. The second one says nothing but blanks, and the
error is still that of the first one. -/
theorem exhausted_rail_tells_error_before_blanks :
    let u : Outcomes := fun i => .response
      (if i = 0 then { status := 500, headers := [], body := (text "oops").flatMap Text.utf8Bytes }
      else .saying (text " "))
    let ending := Provider.pair.complete (.arr []) .absent u
    ending.result = .error (.provider (text "API error (500): oops") (some 500)) ∧
      ∃ blocks, blocks.map Block.model = [text "a", text "b"] ∧
        InOrder Provider.pair.models u ending.trace.requests blocks ∧
        Blocks.TellsLast blocks
          { message := text "All models returned empty response", status := none }
          { message := text "API error (500): oops", status := some 500 } := by
  intro u ending
  have hfailed : ending.result =
      .error (.provider (text "API error (500): oops") (some 500)) := by
    decide +kernel
  exact ⟨hfailed, exhausted_rail_tells_last_error Provider.canAsk_pair hfailed⟩

end BigO
