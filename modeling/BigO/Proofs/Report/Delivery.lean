import BigO.Proofs.Provider.Completion
import BigO.Proofs.Report.Reporter

/-! When a report is handed back. A failure of the models is told in a report, and so is an answer
that holds none. What is left are the causes that keep a report from being delivered: a key, a source
text, a tag or a model that cannot be sent, an outcome that cannot be read, and an answer with a value
beyond the limits of the reader. A report fails exactly when there is one of them. -/

namespace BigO

/-- The failure is told in a report. -/
def Failure.isProvider : Failure → Bool
  | .provider .. => true
  | _ => false

theorem Failure.isOfModel_of_isProvider {failure : Failure} (h : failure.isProvider = true) :
    failure.isOfModel = true := by
  cases failure <;> first | rfl | cases h

namespace Provider

/-- The answer has an integer with too many digits, or it is nested too deep. -/
def IsBeyondLimits (content : Text) : Prop :=
  (∃ count, contentValue content = .error (.tooManyDigits count)) ∨
    ∃ container, contentValue content = .error (.tooDeep container)

/-- An answer that gives no value is no JSON, or it is beyond the limits. -/
theorem contentValue_eq_error {content : Text} {failure : Failure}
    (h : contentValue content = .error failure) :
    failure.isProvider = true ∨ (∃ count, failure = .tooManyDigits count) ∨
      ∃ container, failure = .tooDeep container := by
  rw [contentValue] at h
  split at h
  case h_1 => cases h
  case h_2 count _ => exact .inr (.inl ⟨count, (Except.error.inj h).symm⟩)
  case h_3 container _ => exact .inr (.inr ⟨container, (Except.error.inj h).symm⟩)
  case h_4 =>
    split at h
    case h_1 => cases h; exact .inl rfl
    case h_2 =>
      split at h
      case h_1 => cases h
      case h_2 count _ => exact .inr (.inl ⟨count, (Except.error.inj h).symm⟩)
      case h_3 container _ => exact .inr (.inr ⟨container, (Except.error.inj h).symm⟩)
      case h_4 => cases h; exact .inl rfl

theorem isBeyondLimits_iff {content : Text} :
    IsBeyondLimits content ↔
      ∃ failure, contentValue content = .error failure ∧ failure.isProvider = false := by
  constructor
  · rintro (⟨count, h⟩ | ⟨container, h⟩)
    · exact ⟨_, h, rfl⟩
    · exact ⟨_, h, rfl⟩
  · rintro ⟨failure, h, hfailure⟩
    obtain hprovider | ⟨count, rfl⟩ | ⟨container, rfl⟩ := contentValue_eq_error h
    · rw [hprovider] at hfailure
      cases hfailure
    · exact .inl ⟨count, h⟩
    · exact .inr ⟨container, h⟩

end Provider

namespace Reporter

/-- The answer of the rail, read and checked. -/
def checkedAnswer (language : Text) (result : Except Failure Provider.Completion) :
    Except Failure (Checked Report) :=
  result.bind fun completion => (Provider.contentValue completion.content).bind fun value =>
    reportFrom language value completion.model

/-- The report for an answer that was read and checked. A failure of the models is told. -/
def reportOf (language : Text) : Except Failure (Checked Report) → Except Failure Report
  | .ok (.valid report) => .ok report
  | .ok (.flawed _) =>
    .ok (Report.unavailable language (text "response did not match the report schema"))
  | .error (.provider message _) => .ok (Report.unavailable language message)
  | .error failure => .error failure

/-- The messages of a question about a source text. -/
def messagesFor (code language : Text) : Json :=
  Provider.chat (Prompt.instructions language) (Prompt.question code)

variable {p : Provider} {code language : Text} {client left : Client} {u : Outcomes} {trace : Trace}
  {result : Except Failure Provider.Completion}

/-- The rail is asked, and what it gives is read and checked. -/
theorem completeJson_bind_run
    (h : p.complete (messagesFor code language) client u = { result, trace, client := left }) :
    (p.completeJson (Prompt.question code) (Prompt.instructions language) >>= fun answer =>
        Exchange.ofExcept (reportFrom language answer.1 answer.2)) client u =
      { result := checkedAnswer language result, trace, client := left } := by
  rw [checkedAnswer]
  cases result with
  | error failure =>
    have hjson := Exchange.bind_run_error h fun completion =>
      Exchange.ofExcept (Provider.contentValue completion.content) >>= fun value =>
        pure (value, completion.model)
    exact Exchange.bind_run_error hjson _
  | ok completion =>
    have hjson := Exchange.bind_run_ok h fun completion =>
      Exchange.ofExcept (Provider.contentValue completion.content) >>= fun value =>
        pure (value, completion.model)
    simp only [Except.bind]
    cases hvalue : Provider.contentValue completion.content with
    | error failure =>
      simp only [Exchange.ofExcept_bind_run_error hvalue, Trace.append_empty] at hjson
      exact Exchange.bind_run_error hjson _
    | ok value =>
      simp only [Exchange.ofExcept_bind_run_ok hvalue, Exchange.pure_run, Trace.append_empty]
        at hjson
      have hchecked := Exchange.bind_run_ok hjson fun answer =>
        Exchange.ofExcept (reportFrom language answer.1 answer.2)
      simp only [Exchange.ofExcept, Trace.append_empty] at hchecked
      exact hchecked

/-- Asking for a report is a walk along the rail, and the report is about what the walk gives. -/
theorem reportWith_run
    (h : p.complete (messagesFor code language) client u = { result, trace, client := left }) :
    ∃ log, reportWith p code language client u =
      { result := reportOf language (checkedAnswer language result)
        trace := trace ++ { log }
        client := left } := by
  have hasked := completeJson_bind_run h
  cases hchecked : checkedAnswer language result with
  | ok checked =>
    rw [hchecked] at hasked
    cases checked with
    | valid report => exact ⟨[], (Exchange.attempt_bind_run hasked _).trans rfl⟩
    | flawed flaws => exact ⟨[_], (Exchange.attempt_bind_run hasked _).trans rfl⟩
  | error failure =>
    rw [hchecked] at hasked
    cases failure with
    | provider message status => exact ⟨[_], (Exchange.attempt_bind_run hasked _).trans rfl⟩
    | _ => exact ⟨[], (Exchange.attempt_bind_run hasked _).trans rfl⟩

theorem reportFrom_eq_error {value : Json} {model : Text} {failure : Failure}
    (h : reportFrom language value model = .error failure) : failure.isProvider = true := by
  rw [reportFrom.eq_def] at h
  split at h
  case h_1 =>
    simp only at h
    split at h <;> cases h
  case h_2 =>
    cases h
    rfl

/-- There is a report unless a failure is left that none can tell. -/
theorem exists_reportOf_iff {checked : Except Failure (Checked Report)} :
    (∃ report, reportOf language checked = .ok report) ↔
      ∀ failure, checked = .error failure → failure.isProvider = true := by
  cases checked with
  | ok checked => cases checked <;> simp [reportOf]
  | error failure => cases failure <;> simp [reportOf, Failure.isProvider]

/-- A failure of the rail is told if it is one of the models. -/
theorem exists_report_of_error_iff {failure : Failure} :
    (∃ report, reportOf language (checkedAnswer language (.error failure)) = .ok report) ↔
      failure.isProvider = true := by
  rw [exists_reportOf_iff]
  simp [checkedAnswer, Except.bind]

/-- An answer is told unless it is beyond the limits. -/
theorem exists_report_of_answer_iff {completion : Provider.Completion} :
    (∃ report, reportOf language (checkedAnswer language (.ok completion)) = .ok report) ↔
      ¬ Provider.IsBeyondLimits completion.content := by
  rw [exists_reportOf_iff, Provider.isBeyondLimits_iff]
  simp only [checkedAnswer, Except.bind]
  cases hvalue : Provider.contentValue completion.content with
  | error failure => simp
  | ok value =>
    simp only [reduceCtorEq, false_and, exists_false, not_false_eq_true, iff_true]
    exact fun failure h => reportFrom_eq_error h

end Reporter

/-- The causes for which no report about a source text is handed back. Behind the models that are
passed comes one that cannot be sent, or whose last response cannot be read, or whose answer is
beyond the limits. -/
inductive Undelivered (p : Provider) (code language : Text) (u : Outcomes) : Prop
  | key (h : ¬ p.HasAsciiKey)
  | texts (h : ¬ (code.wellFormed = true ∧ language.wellFormed = true))
  | model {passed : List Block} {v : Outcomes} {model : Text} {rest : List Text}
      (h : Passing u p.models passed v (model :: rest)) (hmodel : model.wellFormed = false)
  | response {passed : List Block} {v : Outcomes} {model : Text} {rest : List Text}
      (h : Passing u p.models passed v (model :: rest)) (hmodel : model.wellFormed = true)
      {r : CompletionResponse} (hresponse : (v.firstBlock model).final = .response r)
      (hcause : r.Misdirected ∨ r.Undecodable ∨ r.TooDeep)
  | answer {passed : List Block} {v : Outcomes} {model : Text} {rest : List Text}
      (h : Passing u p.models passed v (model :: rest)) (hmodel : model.wellFormed = true)
      {content : Text} (hanswer : (v.firstBlock model).final.Answers content)
      (hlimits : Provider.IsBeyondLimits content)

namespace Reporter

variable {p : Provider} {code language : Text} {client left : Client} {u v : Outcomes}

theorem isSendable_messagesFor :
    Provider.IsSendable (messagesFor code language) ↔
      code.wellFormed = true ∧ language.wellFormed = true := by
  rw [Provider.IsSendable, messagesFor, Provider.wellFormed_write_chat,
    Prompt.wellFormed_instructions, Prompt.wellFormed_question, Bool.and_eq_true,
    and_iff_right (Provider.allFinite_chat _ _), and_comm]

/-- Whether a report is handed back is told by what the rail gives. -/
theorem exists_report_iff_of_run {result : Except Failure Provider.Completion} {trace : Trace}
    (h : p.complete (messagesFor code language) client u = { result, trace, client := left }) :
    (∃ report, (reportWith p code language client u).result = .ok report) ↔
      ∃ report, reportOf language (checkedAnswer language result) = .ok report := by
  obtain ⟨log, hrun⟩ := reportWith_run h
  rw [hrun]

/-- There is no report where the rail ends in a failure that is none of the models. -/
theorem not_exists_report_of_error {failure : Failure} {trace : Trace}
    (h : p.complete (messagesFor code language) client u =
      { result := .error failure, trace, client := left })
    (hfailure : failure.isProvider = false) :
    ¬ ∃ report, (reportWith p code language client u).result = .ok report := by
  rw [exists_report_iff_of_run h, exists_report_of_error_iff, hfailure]
  exact Bool.false_ne_true

/-- A provider that cannot send its key or the texts delivers no report. -/
theorem not_exists_report_of_unsendable (hserves : client.Serves p.authorization)
    (hfinite : p.HasFiniteNumbers)
    (h : ¬ (p.HasAsciiKey ∧ code.wellFormed = true ∧ language.wellFormed = true)) :
    ¬ ∃ report, (reportWith p code language client u).result = .ok report := by
  obtain ⟨model, models, hmodels⟩ := List.exists_cons_of_ne_nil p.models_ne_nil
  have hunsendable : ¬ (p.HasAsciiKey ∧ model.wellFormed = true ∧
      ((messagesFor code language).write .compact).wellFormed = true) := fun hall =>
    h ⟨hall.1, isSendable_messagesFor.mp ⟨Provider.allFinite_chat _ _, hall.2.2⟩⟩
  obtain ⟨what, log, left, hrun⟩ := Provider.walk_run_unencodable hserves hfinite
    (Provider.allFinite_chat _ _) hunsendable u {} models
  rw [← hmodels] at hrun
  exact not_exists_report_of_error hrun rfl

variable (h : p.CanAsk (messagesFor code language) client)

include h in
/-- With a key and texts that can be sent, each of the other causes keeps the report from being
delivered. -/
theorem not_exists_report_of_undelivered (hcause : Undelivered p code language u) :
    ¬ ∃ report, (reportWith p code language client u).result = .ok report := by
  cases hcause with
  | key hkey => exact absurd h.hasAsciiKey hkey
  | texts htexts => exact absurd (isSendable_messagesFor.mp h.isSendable) htexts
  | model hpassing hmodel =>
    obtain ⟨_, left, hleft, hbehind⟩ := Provider.walk_run_passing hpassing h {}
    obtain ⟨what, log, left', hend⟩ := Provider.walk_run_unencodable hleft.serves
      hleft.hasFiniteNumbers hleft.isSendable.1
      (fun hall => Bool.eq_false_iff.mp hmodel hall.2.1) _ _ _
    exact not_exists_report_of_error (hbehind hend) rfl
  | response hpassing hmodel hresponse hcause =>
    obtain ⟨_, left, hleft, hbehind⟩ := Provider.walk_run_passing hpassing h {}
    obtain ⟨failure, hvalue, hfailure⟩ :=
      CompletionResponse.isUnreadable_iff.mpr (.inr hcause)
    obtain ⟨log, hend⟩ := Provider.walk_run_unreadable hleft hmodel
      ((congrArg Outcome.value hresponse).trans hvalue) hfailure _ _
    refine not_exists_report_of_error (hbehind hend) ?_
    exact Bool.eq_false_iff.mpr fun hprovider =>
      Bool.eq_false_iff.mp hfailure (Failure.isOfModel_of_isProvider hprovider)
  | answer hpassing hmodel hanswer hlimits =>
    obtain ⟨_, left, hleft, hbehind⟩ := Provider.walk_run_passing hpassing h {}
    obtain ⟨log, hend⟩ := Provider.walk_run_answers hleft hmodel
      (Outcome.answer?_eq_some_iff.mpr hanswer) _ _
    rw [exists_report_iff_of_run (hbehind hend), exists_report_of_answer_iff]
    exact not_not_intro hlimits

include h in
/-- Without a cause the report is delivered. -/
theorem exists_report_of_not_undelivered (hordinary : ∀ i, (u i).IsOrdinary)
    (hnone : ¬ Undelivered p code language u) :
    ∃ report, (reportWith p code language client u).result = .ok report := by
  obtain ⟨blocks, result, log, left, hwalked, hrun⟩ := Provider.walk_run h p.models {} u
  rw [exists_report_iff_of_run hrun]
  cases hwalked with
  | exhausted hpassing => exact exists_report_of_error_iff.mpr rfl
  | unencodable hpassing hmodel what => exact absurd (.model hpassing hmodel) hnone
  | answered hpassing hmodel hanswer =>
    rw [exists_report_of_answer_iff]
    exact fun hlimits => hnone
      (.answer hpassing hmodel (Outcome.answer?_eq_some_iff.mp hanswer) hlimits)
  | @unreadable passed v model rest hpassing hmodel failure hvalue hfailure =>
    have hfinal : (v.firstBlock model).final.IsOrdinary := by
      rw [hpassing.drop_eq]
      exact hordinary _
    obtain ⟨r, hresponse, hcause⟩ :=
      hfinal.isUnreadable_iff.mp ⟨failure, hvalue, hfailure⟩
    exact absurd (.response hpassing hmodel hresponse hcause) hnone

omit h in
/-- A provider delivers a report exactly where none of the causes is there. -/
theorem exists_report_iff (hserves : client.Serves p.authorization)
    (hfinite : p.HasFiniteNumbers) (hordinary : ∀ i, (u i).IsOrdinary) :
    (∃ report, (reportWith p code language client u).result = .ok report) ↔
      ¬ Undelivered p code language u := by
  by_cases hsendable : p.HasAsciiKey ∧ code.wellFormed = true ∧ language.wellFormed = true
  · have h : p.CanAsk (messagesFor code language) client :=
      { serves := hserves, hasAsciiKey := hsendable.1, hasFiniteNumbers := hfinite
        isSendable := isSendable_messagesFor.mpr hsendable.2 }
    exact ⟨fun hreport hcause => not_exists_report_of_undelivered h hcause hreport,
      exists_report_of_not_undelivered h hordinary⟩
  · have hcause : Undelivered p code language u := by
      by_cases hkey : p.HasAsciiKey
      · exact .texts fun htexts => hsendable ⟨hkey, htexts⟩
      · exact .key hkey
    exact iff_of_false (not_exists_report_of_unsendable hserves hfinite hsendable)
      (not_not_intro hcause)

omit h in
/-- Reports are handed back exactly where none of the causes is there, in particular wherever no
provider can be built. The numbers of the configuration are finite, and the outcomes are those of a
completion service. -/
theorem report_delivered_iff {r : Reporter} (hkept : r.Kept)
    (hnumbers : r.config.maxTokens.isFinite = true ∧ r.config.temperature.isFinite = true)
    (hordinary : ∀ i, (u i).IsOrdinary) (code language : Text) :
    (∃ report, ((r.report code language).1 (r.report code language).2.client u).result =
        .ok report) ↔
      ∀ p, Provider.build r.config = .ok p → ¬ Undelivered p code language u := by
  cases hbuild : Provider.build r.config with
  | error fault =>
    obtain ⟨-, hreport⟩ := hkept.report_eq_of_build_error hbuild code language
    simp only [hreport, Exchange.log_bind_run, Exchange.pure_run, reduceCtorEq, false_imp_iff,
      implies_true, iff_true]
    exact ⟨_, rfl⟩
  | ok p =>
    obtain ⟨client, hserves, hreport⟩ := hkept.report_eq hbuild code language
    obtain ⟨-, -, hmaxTokens, htemperature⟩ := Provider.build_eq_ok hbuild
    have hfinite : p.HasFiniteNumbers := by
      rwa [hmaxTokens, htemperature] at hnumbers
    simp only [hreport, Except.ok.injEq, forall_eq']
    exact exists_report_iff hserves hfinite hordinary

/-- A service that never answers in time is told in the report. -/
theorem report_delivered_iff_at_timeouts :
    let r : Reporter := { config := Provider.pairConfig }
    let u : Outcomes := fun _ => .fault .timeout []
    (r.config.maxTokens.isFinite = true ∧ r.config.temperature.isFinite = true) ∧
      (∀ i, (u i).IsOrdinary) ∧
      (∀ p, Provider.build r.config = .ok p → ¬ Undelivered p (text "x") (text "python") u) ∧
      ∃ report, ((r.report (text "x") (text "python")).1
        (r.report (text "x") (text "python")).2.client u).result = .ok report := by
  intro r u
  have hnumbers : r.config.maxTokens.isFinite = true ∧ r.config.temperature.isFinite = true := by
    decide
  have hordinary : ∀ i, (u i).IsOrdinary := fun _ => rfl
  have hnone : ∀ p, Provider.build r.config = .ok p →
      ¬ Undelivered p (text "x") (text "python") u := by
    intro p hp hcause
    have hpair : p = Provider.pair := (Except.ok.inj (Provider.build_pairConfig.symm.trans hp)).symm
    subst hpair
    have hfinal {passed : List Block} {v : Outcomes} {model : Text} {rest : List Text}
        (h : Passing u Provider.pair.models passed v (model :: rest)) :
        (v.firstBlock model).final = .fault .timeout [] := by
      rw [h.drop_eq]
      rfl
    cases hcause with
    | key h => exact h Provider.canAsk_pair.hasAsciiKey
    | texts h => exact h (by decide)
    | model h hmodel =>
      have hall : ∀ model ∈ Provider.pair.models, model.wellFormed = true := by decide
      have hmem := h.models_eq ▸ List.mem_append_right _ List.mem_cons_self
      exact Bool.eq_false_iff.mp hmodel (hall _ hmem)
    | response h _ hresponse => cases (hfinal h).symm.trans hresponse
    | answer h _ hanswer =>
      rw [hfinal h] at hanswer
      obtain ⟨_, _, _, _, hresponse, -⟩ := hanswer
      cases hresponse
  exact ⟨hnumbers, hordinary, hnone,
    (report_delivered_iff (kept_new _) hnumbers hordinary _ _).mpr hnone⟩

/-- An answer that is an integer with one digit more than the reader takes. -/
theorem report_lost_to_long_integer :
    let digits := List.replicate (Json.digitLimit + 1) (CodePoint.ofChar '1')
    let r : Reporter := { config := Provider.pairConfig }
    let u : Outcomes := fun _ => .response (.saying digits)
    (∀ i, (u i).IsOrdinary) ∧
      ((r.report (text "x") (text "python")).1
        (r.report (text "x") (text "python")).2.client u).result =
          .error (.tooManyDigits (Json.digitLimit + 1)) := by
  intro digits r u
  refine ⟨fun _ => rfl, ?_⟩
  -- The answer itself is not compared, since it is long.
  have hread : ((u.firstBlock (text "a")).final.answer?.bind fun content =>
      match Provider.contentValue content with
      | .error failure => some failure
      | .ok _ => none) = some (.tooManyDigits (Json.digitLimit + 1)) := by decide +kernel
  obtain ⟨content, hanswer, hfailure⟩ := Option.bind_eq_some_iff.mp hread
  have hvalue : Provider.contentValue content =
      .error (.tooManyDigits (Json.digitLimit + 1)) := by
    split at hfailure
    case h_1 failure hvalue => rw [hvalue, Option.some.inj hfailure]
    case h_2 => cases hfailure
  obtain ⟨client, hserves, hreport⟩ :=
    (kept_new Provider.pairConfig).report_eq Provider.build_pairConfig (text "x") (text "python")
  have h : Provider.pair.CanAsk (messagesFor (text "x") (text "python")) client :=
    { Provider.canAsk_pair with
      serves := hserves
      isSendable := isSendable_messagesFor.mpr (by decide) }
  obtain ⟨log, hrun⟩ := Provider.walk_run_answers h rfl hanswer {} [text "b"]
  obtain ⟨more, hend⟩ := reportWith_run hrun
  simp only [r, hreport, hend, checkedAnswer, Except.bind, hvalue, reportOf]

end Reporter

end BigO
