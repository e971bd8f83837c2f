import BigO.Proofs.Json.Limits
import BigO.Proofs.Json.Reading
import BigO.Proofs.Provider.Completion
import BigO.Proofs.Text.Part

/-! JSON among prose. What a model says is first read as a whole, without the blanks around it, be
they blanks of JSON or not. If that is no JSON, the part from the first opening brace to the last
closing one is read instead, wherever braces stand in the strings of that part. Only when this is no
JSON either, or no such part is there, the answer is lost. -/

namespace BigO

namespace Provider

variable {content part : Text}

/-! ### The part between the outermost braces -/

/-- The part stands in the content, from the first opening brace to the last closing one. -/
def IsBracedPart (content part : Text) : Prop :=
  ∃ before behind, content = before ++ (part ++ behind) ∧
    CodePoint.openBrace ∉ before ∧ CodePoint.closeBrace ∉ behind ∧
    part.head? = some .openBrace ∧ part.getLast? = some .closeBrace

theorem IsBracedPart.ne_nil (h : IsBracedPart content part) : part ≠ [] := by
  obtain ⟨_, _, _, _, _, hfirst, _⟩ := h
  rintro rfl
  cases hfirst

theorem IsBracedPart.isInfix (h : IsBracedPart content part) : part <:+: content := by
  obtain ⟨before, behind, rfl, -⟩ := h
  exact ⟨before, behind, List.append_assoc _ _ _⟩

theorem bracedPart?_eq_some_iff : bracedPart? content = some part ↔ IsBracedPart content part := by
  have hdropped {brace c : CodePoint} : decide (c ≠ brace) = false ↔ c = brace := by
    rw [decide_eq_false_iff_not, not_not]
  constructor
  · intro h
    obtain ⟨before, behind, hcontent, hbefore, hbehind⟩ :=
      Text.exists_eq_trimmed (· ≠ .openBrace) (· ≠ .closeBrace) content
    rw [bracedPart?] at h
    split at h
    · cases h
    · next hne =>
      obtain rfl := Option.some.inj h
      rw [List.isEmpty_iff] at hne
      refine ⟨before, behind, by rw [← List.append_assoc]; exact hcontent,
        fun hmem => of_decide_eq_true (hbefore _ hmem) rfl,
        fun hmem => of_decide_eq_true (hbehind _ hmem) rfl, ?_, ?_⟩
      · rw [List.head?_eq_some_head hne]
        exact congrArg some (hdropped.mp
          (Text.not_of_mem_head?_trimmed (List.head?_eq_some_head hne)))
      · rw [List.getLast?_eq_some_getLast hne]
        exact congrArg some (hdropped.mp
          (Text.not_of_mem_getLast?_trimmed (List.getLast?_eq_some_getLast hne)))
  · intro h
    have hne := h.ne_nil
    obtain ⟨before, behind, rfl, hbefore, hbehind, hfirst, hlast⟩ := h
    have hfront : ∀ c ∈ before, decide (c ≠ .openBrace) = true :=
      fun c hc => decide_eq_true (ne_of_mem_of_not_mem hc hbefore)
    have hback : ∀ c ∈ behind, decide (c ≠ .closeBrace) = true :=
      fun c hc => decide_eq_true (ne_of_mem_of_not_mem hc hbehind)
    have htrimmed := Text.trimmed_eq hfront hback hne
      (fun c hc => hdropped.mpr (Option.some.inj (hc.symm.trans hfirst)))
      (fun c hc => hdropped.mpr (Option.some.inj (hc.symm.trans hlast)))
    rw [List.append_assoc] at htrimmed
    rw [bracedPart?]
    simp only [htrimmed]
    rw [if_neg (mt List.isEmpty_iff.mp hne)]

/-- The blanks around the content are none of that part, as braces are no blanks. -/
theorem isBracedPart_strip_iff : IsBracedPart content.strip part ↔ IsBracedPart content part := by
  constructor
  · rintro ⟨before, behind, hstrip, hbefore, hbehind, hfirst, hlast⟩
    obtain ⟨front, back, hcontent, hfront, hback⟩ :=
      Text.exists_eq_trimmed CodePoint.isBlank CodePoint.isBlank content
    refine ⟨front ++ before, behind ++ back, ?_, ?_, ?_, hfirst, hlast⟩
    · change content = front ++ content.strip ++ back at hcontent
      rw [hcontent, hstrip]
      simp only [List.append_assoc]
    · exact List.not_mem_append (fun hmem => absurd (hfront _ hmem) (by decide)) hbefore
    · exact List.not_mem_append hbehind (fun hmem => absurd (hback _ hmem) (by decide))
  · intro h
    have hne := h.ne_nil
    obtain ⟨before, behind, rfl, hbefore, hbehind, hfirst, hlast⟩ := h
    refine ⟨before.stripLeft, behind.stripRight, Text.strip_append hne ?_ ?_, ?_, ?_, hfirst,
      hlast⟩
    · intro c hc
      rw [hfirst] at hc
      cases hc
      decide
    · intro c hc
      rw [hlast] at hc
      cases hc
      decide
    · exact fun hmem => hbefore ((List.dropWhile_suffix _).subset hmem)
    · exact fun hmem => hbehind ((List.rdropWhile_prefix _ behind).subset hmem)

/-! ### The value of a content -/

/-- The content is within the limits of the reader: it has no run of too many digits, and neither
the whole nor the part between its outermost braces is nested too deep. -/
structure WithinLimits (content : Text) : Prop where
  digits : Json.HasShortDigits content
  nesting : ¬ Json.NestsTooDeep content.strip
  partNesting : ∀ part, IsBracedPart content part → ¬ Json.NestsTooDeep part

namespace WithinLimits

variable {value : Json}

/-- Few enough code points and opening marks are within the limits. -/
theorem of_le (hlength : content.length ≤ Json.digitLimit)
    (hopenings : Json.openings content ≤ Json.depthLimit) : WithinLimits content where
  digits := Json.hasShortDigits_of_length_le hlength
  nesting := Json.not_nestsTooDeep_of_openings_le
    ((Text.strip_isInfix content).sublist.countP_le.trans hopenings)
  partNesting _ hpart := Json.not_nestsTooDeep_of_openings_le
    (hpart.isInfix.sublist.countP_le.trans hopenings)

/-- An answer that is no JSON has the value of the part between its outermost braces. -/
theorem contentValue_of_part (h : WithinLimits content)
    (hnone : ∀ value, Json.read content.strip ≠ .ok value) (hpart : IsBracedPart content part)
    (hvalue : Json.read part = .ok value) : contentValue content.strip = .ok value := by
  obtain ⟨fault, position, hread⟩ :=
    Json.read_eq_malformed (h.digits.of_isInfix (Text.strip_isInfix content)) h.nesting hnone
  have hfound := bracedPart?_eq_some_iff.mpr (isBracedPart_strip_iff.mpr hpart)
  simp only [contentValue, hread, hfound, hvalue]

/-- An answer without JSON has no value. -/
theorem contentValue_of_none (h : WithinLimits content)
    (hnone : ∀ value, Json.read content.strip ≠ .ok value)
    (hnonePart : ∀ part value, IsBracedPart content part → Json.read part ≠ .ok value) :
    contentValue content.strip = .error (unparsed content.strip) := by
  obtain ⟨fault, position, hread⟩ :=
    Json.read_eq_malformed (h.digits.of_isInfix (Text.strip_isInfix content)) h.nesting hnone
  simp only [contentValue, hread]
  cases hfound : bracedPart? content.strip with
  | none => rfl
  | some part =>
    have hpart := isBracedPart_strip_iff.mp (bracedPart?_eq_some_iff.mp hfound)
    obtain ⟨fault, position, hreadPart⟩ := Json.read_eq_malformed (h.digits.of_isInfix hpart.isInfix)
      (h.partNesting part hpart) fun value => hnonePart part value hpart
    simp only [hreadPart]

end WithinLimits

theorem contentValue_of_read {value : Json} (h : Json.read content = .ok value) :
    contentValue content = .ok value := by
  simp only [contentValue, h]

end Provider

/-! ### What the rail says last -/

/-- The outcome is a completion, and its first choice says `content`. -/
def Outcome.Says (o : Outcome) (content : Text) : Prop :=
  ∃ v, o.value = .ok v ∧ Provider.IsCompletionOf v content

theorem Outcome.says_iff {o : Outcome} {content : Text} :
    o.Says content ↔ o.value.toOption.bind Provider.content? = some content := by
  simp only [Says, ← Provider.content?_eq_some_iff]
  cases o.value <;> simp [Except.toOption]

theorem Outcome.Says.answer?_eq {o : Outcome} {content : Text} (h : o.Says content) :
    o.answer? = if content.strip = [] then none else some content.strip := by
  obtain ⟨v, hvalue, hcontent⟩ := h
  rw [answer?, hvalue]
  simp only [Provider.content?_eq_some_iff.mpr hcontent, Option.map_some, Option.filter_some,
    decide_eq_true_iff, ne_eq, ite_not]

theorem Outcome.Says.not_isUnreadable {o : Outcome} {content : Text} (h : o.Says content) :
    ¬ o.IsUnreadable := by
  rintro ⟨failure, herror, -⟩
  obtain ⟨v, hvalue, -⟩ := h
  cases hvalue.symm.trans herror

/-- The walk along a rail ends at a model that says `content`: this is more than blanks, or there is
no other model. -/
inductive LastSaid (u : Outcomes) (models : List Text) (model content : Text) : Prop
  | intro {passed : List Block} {v : Outcomes} {rest : List Text}
      (hpassing : Passing u models passed v (model :: rest)) (hmodel : model.wellFormed = true)
      (hsaid : (v.firstBlock model).final.Says content) (hrest : content.strip = [] → rest = [])

namespace LastSaid

variable {p : Provider} {messages : Json} {client : Client} {u : Outcomes} {model content : Text}

/-- More than blanks is an answer. -/
theorem complete_result (h : LastSaid u p.models model content) (hask : p.CanAsk messages client)
    (hfull : content.strip ≠ []) :
    (p.complete messages client u).result = .ok { content := content.strip, model } := by
  cases h with
  | intro hpassing hmodel hsaid _ =>
    obtain ⟨_, left, hleft, hbehind⟩ := Provider.walk_run_passing hpassing hask {}
    have hanswer := hsaid.answer?_eq
    rw [if_neg hfull] at hanswer
    obtain ⟨log, hend⟩ := Provider.walk_run_answers hleft hmodel hanswer _ _
    rw [Provider.complete, hbehind hend]

/-- Blanks from the last model leave the rail without an answer. -/
theorem complete_result_of_blank (h : LastSaid u p.models model content)
    (hask : p.CanAsk messages client) (hblank : content.strip = []) :
    ∃ message status,
      (p.complete messages client u).result = .error (.provider message status) := by
  cases h with
  | @intro passed v rest hpassing hmodel hsaid hrest =>
    obtain rfl := hrest hblank
    obtain ⟨_, left, hleft, hbehind⟩ := Provider.walk_run_passing hpassing hask {}
    have hunanswered := hsaid.answer?_eq
    rw [if_pos hblank] at hunanswered
    obtain ⟨log, hend⟩ := Provider.walk_run_passes hleft hmodel
      ⟨hunanswered, hsaid.not_isUnreadable⟩ (Blocks.lastError passed {}) []
    rw [Provider.complete, hbehind hend]
    exact ⟨_, _, rfl⟩

end LastSaid

namespace Provider

variable {p : Provider} {instructions question : Text} {client : Client} {u : Outcomes}
  {model content : Text}

/-- The value of an answer, with the model that gave it. -/
theorem completeJson_result_of_ok {completion : Completion}
    (h : (p.complete (chat instructions question) client u).result = .ok completion) :
    (p.completeJson question instructions client u).result =
      (contentValue completion.content).map fun value => (value, completion.model) := by
  obtain ⟨left, rest, hresult⟩ := Exchange.bind_result_of_ok h fun completion =>
    Exchange.ofExcept (contentValue completion.content) >>= fun value =>
      pure (value, completion.model)
  rw [completeJson, hresult]
  cases hvalue : contentValue completion.content with
  | error failure => rw [Exchange.ofExcept_bind_run_error rfl]; rfl
  | ok value => rw [Exchange.ofExcept_bind_run_ok rfl]; rfl

theorem completeJson_result_of_error {failure : Failure}
    (h : (p.complete (chat instructions question) client u).result = .error failure) :
    (p.completeJson question instructions client u).result = .error failure := by
  have hrun : p.complete (chat instructions question) client u =
      { p.complete (chat instructions question) client u with result := .error failure } := by
    rw [← h]
  rw [completeJson, Exchange.bind_run_error hrun]

/-- The result for more than blanks is the value of what is said, with the model that says it. -/
theorem completeJson_result_of_lastSaid (hask : p.CanAsk (chat instructions question) client)
    (hsaid : LastSaid u p.models model content) (hfull : content.strip ≠ []) :
    (p.completeJson question instructions client u).result =
      (contentValue content.strip).map fun value => (value, model) :=
  completeJson_result_of_ok (hsaid.complete_result hask hfull)

/-- **JSON is recovered from the prose around it.** What a model says is read without the blanks
around it; if that is no JSON, the part between its outermost braces is read. Where neither is JSON,
the failure quotes what was said; for blanks it is the one with which the rail ends. -/
theorem json_recovered (hask : p.CanAsk (chat instructions question) client)
    (hsaid : LastSaid u p.models model content) (hlimits : WithinLimits content) :
    let result := (p.completeJson question instructions client u).result
    (∀ value, Json.read content.strip = .ok value → result = .ok (value, model)) ∧
      ((∀ value, Json.read content.strip ≠ .ok value) →
        (∀ part value, IsBracedPart content part → Json.read part = .ok value →
          result = .ok (value, model)) ∧
        ((∀ part value, IsBracedPart content part → Json.read part ≠ .ok value) →
          (∃ message status, result = .error (.provider message status)) ∧
          (content.strip ≠ [] → result = .error (unparsed content.strip)))) := by
  intro result
  have hanswered := completeJson_result_of_lastSaid hask hsaid
  refine ⟨?_, fun hnone => ⟨?_, fun hnonePart => ?_⟩⟩
  · intro value hvalue
    have hfull : content.strip ≠ [] := by
      intro hblank
      rw [hblank] at hvalue
      cases hvalue
    calc result = (contentValue content.strip).map fun value => (value, model) := hanswered hfull
      _ = .ok (value, model) := by rw [contentValue_of_read hvalue]; rfl
  · intro part value hpart hvalue
    have hfull : content.strip ≠ [] := by
      intro hblank
      have hnil := (isBracedPart_strip_iff.mpr hpart).isInfix
      rw [hblank] at hnil
      exact hpart.ne_nil (List.infix_nil.mp hnil)
    calc result = (contentValue content.strip).map fun value => (value, model) := hanswered hfull
      _ = .ok (value, model) := by rw [hlimits.contentValue_of_part hnone hpart hvalue]; rfl
  · have hunparsed (hfull : content.strip ≠ []) : result = .error (unparsed content.strip) := by
      calc result = (contentValue content.strip).map fun value => (value, model) := hanswered hfull
        _ = .error (unparsed content.strip) := by
          rw [hlimits.contentValue_of_none hnone hnonePart]; rfl
    refine ⟨?_, hunparsed⟩
    by_cases hblank : content.strip = []
    · obtain ⟨message, status, hfailed⟩ := hsaid.complete_result_of_blank hask hblank
      exact ⟨message, status, completeJson_result_of_error hfailed⟩
    · exact ⟨_, _, hunparsed hblank⟩

theorem read_ne_ok_of_isOk {t : Text} (h : (Json.read t).isOk = false) (value : Json) :
    Json.read t ≠ .ok value := by
  intro hvalue
  rw [hvalue] at h
  cases h

theorem canAsk_pair_chat : pair.CanAsk (chat (text "i") (text "q")) .absent :=
  { canAsk_pair with isSendable := ⟨allFinite_chat _ _, (wellFormed_write_chat _ _).trans rfl⟩ }

/-- An object with a closing brace in a string, between two words. -/
theorem json_recovered_from_prose :
    let u : Outcomes := fun _ =>
      .response (.saying (text "So \x7b\\\"a\\\":\\\"\x7d\\\"\x7d ok"))
    let content := text "So \x7b\"a\":\"\x7d\"\x7d ok"
    pair.CanAsk (chat (text "i") (text "q")) .absent ∧ LastSaid u pair.models (text "a") content ∧
      WithinLimits content ∧ (pair.completeJson (text "q") (text "i") .absent u).result =
        .ok (.obj [(text "a", .string "\x7d")], text "a") := by
  intro u content
  have hsaid : LastSaid u pair.models (text "a") content :=
    .intro (.start u pair.models) (by decide) (Outcome.says_iff.mpr (by decide +kernel))
      (fun hblank => absurd hblank (by decide +kernel))
  have hlimits : WithinLimits content := .of_le (by decide) (by decide)
  have hpart : IsBracedPart content (Json.write .compact (.obj [(text "a", .string "\x7d")])) :=
    ⟨text "So ", text " ok", by decide +kernel, by decide, by decide, by decide +kernel,
      by decide +kernel⟩
  have hobject : Json.IsTextual Json.depthLimit (.obj [(text "a", .string "\x7d")]) :=
    .obj (by decide) (List.forall_mem_singleton.mpr (.str _))
  have hnone := read_ne_ok_of_isOk (t := content.strip) (by decide +kernel)
  exact ⟨canAsk_pair_chat, hsaid, hlimits,
    ((json_recovered canAsk_pair_chat hsaid hlimits).2 hnone).1 _ _ hpart
      (Json.readWhole_write hobject)⟩

/-- A blank that JSON does not know, and an array: with the blank it is no JSON, and there is no brace
in it, but the blank is taken off. -/
theorem array_kept_behind_blank :
    let u : Outcomes := fun _ => .response (.saying (text "\\u00a0[]"))
    let content := text "\u00a0[]"
    pair.CanAsk (chat (text "i") (text "q")) .absent ∧ LastSaid u pair.models (text "a") content ∧
      WithinLimits content ∧ (∀ value, Json.read content ≠ .ok value) ∧
      (∀ part, ¬ IsBracedPart content part) ∧
      (pair.completeJson (text "q") (text "i") .absent u).result = .ok (.arr [], text "a") := by
  intro u content
  have hfull : content.strip ≠ [] := by decide +kernel
  have hsaid : LastSaid u pair.models (text "a") content :=
    .intro (.start u pair.models) (by decide) (Outcome.says_iff.mpr (by decide +kernel))
      (fun hblank => absurd hblank hfull)
  have hunbraced : bracedPart? content = none := by decide +kernel
  have hstrip : content.strip = Json.write .compact (.arr []) := by decide +kernel
  have hread : Json.read content.strip = .ok (.arr []) := by
    rw [hstrip]
    exact Json.readWhole_write (.arr (List.forall_mem_nil _))
  have hlimits : WithinLimits content := .of_le (by decide) (by decide)
  have hnone := read_ne_ok_of_isOk (t := content) (by decide +kernel)
  refine ⟨canAsk_pair_chat, hsaid, hlimits, hnone, fun part hpart => ?_, ?_⟩
  · cases hunbraced.symm.trans (bracedPart?_eq_some_iff.mpr hpart)
  · exact (completeJson_result_of_lastSaid canAsk_pair_chat hsaid hfull).trans
      (congrArg _ (contentValue_of_read hread))

end Provider

end BigO
