import BigO.Proofs.Provider.Rail

/-! Completions. The rail is walked in order and without skips, each model is asked a block of times,
and the walk ends at the first block with an answer, or at the end of the rail. The exception is a
last outcome that cannot be read: it ends the walk with a failure of its own, though a later model
might have answered. -/

namespace BigO

open Provider

/-- Requests go along a rail in order and without skips, a block of them to each model, and the
blocks are what became of them. -/
structure InOrder (models : List Text) (u : Outcomes) (requests : List CompletionRequest)
    (blocks : List Block) : Prop where
  models_prefix : blocks.map Block.model <+: models
  requests_eq : requests.map (·.model) = blocks.flatMap fun b => List.replicate b.size b.model
  outcomes_eq : u.take requests.length = blocks.flatMap Block.outcomes
  length_le : requests.length ≤ 3 * models.length

/-- A walk that ends in some block ends with the answer in it. Where there is none the rail is at its
end, and the failure is one of its models. -/
structure EndsAtAnswer (models : List Text) (result : Except Failure Completion)
    (passed : List Block) (last : Block) : Prop where
  answer_iff : ∀ completion, result = .ok completion ↔
    last.final.Answers completion.content ∧ completion.model = last.model
  exhausted : (∀ content, ¬ last.final.Answers content) →
    passed.length + 1 = models.length ∧ ∃ message status, result = .error (.provider message status)

/-- The requests of the blocks of a walk go along the rail. -/
theorem Provider.inOrder_traceOf {p : Provider} {messages : Json} {models : List Text}
    {u : Outcomes} {blocks : List Block} (hmodels : blocks.map Block.model <+: models)
    (houtcomes : u.take (Blocks.size blocks) = blocks.flatMap Block.outcomes)
    (log : List LogEntry) :
    InOrder models u (p.traceOf messages blocks log).requests blocks where
  models_prefix := hmodels
  requests_eq := by
    simp only [traceOf, List.map_flatMap, requestsOf, List.map_replicate, requestOf]
  outcomes_eq := by rw [length_requests_traceOf, houtcomes]
  length_le := by
    have hlength := hmodels.length_le
    have hsize := Blocks.size_le blocks
    rw [List.length_map] at hlength
    rw [length_requests_traceOf]
    omega

namespace Passing

variable {u v : Outcomes} {models rest : List Text} {passed : List Block} {model : Text}

theorem map_model_prefix (h : Passing u models passed v rest) :
    passed.map Block.model <+: models := ⟨rest, h.models_eq.symm⟩

theorem map_model_append_prefix (h : Passing u models passed v (model :: rest)) :
    (passed ++ [v.firstBlock model]).map Block.model <+: models :=
  ⟨rest, by rw [h.models_eq, List.map_append, List.append_assoc]; rfl⟩

theorem take_append_eq (h : Passing u models passed v rest) (model : Text) :
    u.take (Blocks.size (passed ++ [v.firstBlock model])) =
      (passed ++ [v.firstBlock model]).flatMap Block.outcomes := by
  have hsize : Blocks.size [v.firstBlock model] = (v.firstBlock model).size := rfl
  rw [Blocks.size_append, Outcomes.take_add, h.take_eq, ← h.drop_eq, hsize,
    ← Outcomes.outcomes_firstBlock, List.flatMap_append, List.flatMap_singleton]

theorem not_answers (h : Passing u models passed v rest) :
    ∀ b ∈ passed, ∀ content, ¬ b.final.Answers content := by
  intro b hb content hanswer
  have hnone := (h.passes b hb).unanswered
  rw [Outcome.answer?_eq_some_iff.mpr hanswer] at hnone
  cases hnone

end Passing

/-- A block that answers is one to end with. -/
theorem endsAtAnswer_of_answer? {models : List Text} {passed : List Block} {last : Block}
    {answer : Text} (hanswer : last.final.answer? = some answer) :
    EndsAtAnswer models (.ok { content := answer, model := last.model }) passed last where
  answer_iff completion := by
    rw [← Outcome.answer?_eq_some_iff, hanswer, Except.ok.injEq, Option.some.injEq]
    constructor
    · rintro rfl
      exact ⟨rfl, rfl⟩
    · rintro ⟨hcontent, hmodel⟩
      rw [hcontent, ← hmodel]
  exhausted hnone := absurd (Outcome.answer?_eq_some_iff.mp hanswer) (hnone answer)

/-- So is the last block of a rail where no model answers. -/
theorem endsAtAnswer_of_passes {models : List Text} {passed : List Block} {last : Block}
    (hpasses : last.Passes) (hlength : passed.length + 1 = models.length) (message : Text)
    (status : Option Int) :
    EndsAtAnswer models (.error (.provider message status)) passed last where
  answer_iff completion := by
    rw [← Outcome.answer?_eq_some_iff, hpasses.unanswered]
    simp
  exhausted _ := ⟨hlength, message, status, rfl⟩

/-- A failure that is none of a model is no such end. -/
theorem not_endsAtAnswer_of_isOfModel {models : List Text} {passed : List Block} {last : Block}
    {failure : Failure} (hfailure : failure.isOfModel = false) :
    ¬ EndsAtAnswer models (.error failure) passed last := by
  intro h
  have hnone : ∀ content, ¬ last.final.Answers content := by
    intro content hcontent
    cases (h.answer_iff { content, model := last.model }).mpr ⟨hcontent, rfl⟩
  obtain ⟨-, message, status, hprovider⟩ := h.exhausted hnone
  cases hprovider
  cases hfailure

/-- The walk along a rail whose models can all be asked. -/
structure WalkEnds (models : List Text) (u : Outcomes) (result : Except Failure Completion)
    (passed : List Block) (last : Block) : Prop where
  models_prefix : (passed ++ [last]).map Block.model <+: models
  take_eq : u.take (Blocks.size (passed ++ [last])) = (passed ++ [last]).flatMap Block.outcomes
  not_answers : ∀ b ∈ passed, ∀ content, ¬ b.final.Answers content
  endsAtAnswer_iff : EndsAtAnswer models result passed last ↔ ¬ last.final.IsUnreadable
  result_eq : ∀ failure, last.final.value = .error failure → failure.isOfModel = false →
    result = .error failure

namespace WalkEnds

variable {u v : Outcomes} {models rest : List Text} {passed : List Block} {model : Text}
  {result : Except Failure Completion}

/-- The end of the rail, with the last model that was passed. -/
theorem of_exhausted {last : Block} (h : Passing u models (passed ++ [last]) v []) (message : Text)
    (status : Option Int) : WalkEnds models u (.error (.provider message status)) passed last := by
  have hpasses := h.passes last (List.mem_append_right _ (List.mem_singleton_self _))
  have hlength : passed.length + 1 = models.length := by
    rw [h.models_eq, List.append_nil, List.length_map, List.length_append, List.length_singleton]
  exact {
    models_prefix := h.map_model_prefix
    take_eq := h.take_eq
    not_answers := fun b hb => h.not_answers b (List.mem_append_left _ hb)
    endsAtAnswer_iff := iff_of_true (endsAtAnswer_of_passes hpasses hlength _ _) hpasses.readable
    result_eq := fun failure hvalue hfailure =>
      absurd ⟨failure, hvalue, hfailure⟩ hpasses.readable }

theorem of_answered (h : Passing u models passed v (model :: rest)) {answer : Text}
    (hanswer : (v.firstBlock model).final.answer? = some answer) :
    WalkEnds models u (.ok { content := answer, model }) passed (v.firstBlock model) where
  models_prefix := h.map_model_append_prefix
  take_eq := h.take_append_eq model
  not_answers := h.not_answers
  endsAtAnswer_iff := iff_of_true (endsAtAnswer_of_answer? hanswer)
    (Outcome.not_isUnreadable_of_answer? hanswer)
  result_eq failure hvalue hfailure :=
    absurd ⟨failure, hvalue, hfailure⟩ (Outcome.not_isUnreadable_of_answer? hanswer)

theorem of_unreadable (h : Passing u models passed v (model :: rest)) {failure : Failure}
    (hvalue : (v.firstBlock model).final.value = .error failure)
    (hfailure : failure.isOfModel = false) :
    WalkEnds models u (.error failure) passed (v.firstBlock model) where
  models_prefix := h.map_model_append_prefix
  take_eq := h.take_append_eq model
  not_answers := h.not_answers
  endsAtAnswer_iff := iff_of_false (not_endsAtAnswer_of_isOfModel hfailure)
    (not_not_intro ⟨failure, hvalue, hfailure⟩)
  result_eq other hother _ := by
    rw [hvalue] at hother
    cases hother
    rfl

end WalkEnds

variable {u : Outcomes}

/-- Where all models can be asked and there is one, the walk asks at least one. -/
theorem Provider.Walked.exists_walkEnds {models : List Text} {last : LastError}
    {blocks : List Block} {result : Except Failure Completion}
    (h : Walked u models last blocks result) (hne : models ≠ [])
    (hmodels : ∀ model ∈ models, model.wellFormed = true) :
    ∃ passed last, blocks = passed ++ [last] ∧ WalkEnds models u result passed last := by
  cases h with
  | exhausted hpassing =>
    obtain rfl | ⟨passed, last, rfl⟩ := List.eq_nil_or_concat blocks
    · exact absurd hpassing.models_eq hne
    · rw [List.concat_eq_append] at *
      exact ⟨passed, last, rfl, .of_exhausted hpassing _ _⟩
  | unencodable hpassing hmodel what =>
    have hmem := hpassing.models_eq ▸ List.mem_append_right _ List.mem_cons_self
    rw [hmodels _ hmem] at hmodel
    cases hmodel
  | answered hpassing hmodel hanswer => exact ⟨_, _, rfl, .of_answered hpassing hanswer⟩
  | unreadable hpassing hmodel hvalue hfailure =>
    exact ⟨_, _, rfl, .of_unreadable hpassing hvalue hfailure⟩

theorem exists_eq_final {blocks : List Block} {n : Nat}
    (houtcomes : u.take n = blocks.flatMap Block.outcomes) {b : Block} (hb : b ∈ blocks) :
    ∃ i, u i = b.final := by
  have hfinal : b.final ∈ u.take n := by
    rw [houtcomes]
    exact List.mem_flatMap_of_mem hb (List.mem_append_right _ (List.mem_singleton_self _))
  obtain ⟨i, -, hi⟩ := Outcomes.mem_take.mp hfinal
  exact ⟨i, hi⟩

/-- A block whose outcomes come from the service can be read unless its last response sends the
client on to an address that it cannot go to, or its text is needed and cannot be told. -/
theorem isUnreadable_final_iff (hordinary : ∀ i, (u i).IsOrdinary)
    (hdepth : ∀ i r, u i = .response r → ¬ r.TooDeep) {blocks : List Block} {n : Nat}
    (houtcomes : u.take n = blocks.flatMap Block.outcomes) {b : Block} (hb : b ∈ blocks) :
    b.final.IsUnreadable ↔ ∃ r, b.final = .response r ∧ (r.Misdirected ∨ r.Undecodable) := by
  obtain ⟨i, hi⟩ := exists_eq_final houtcomes hb
  rw [← hi, (hordinary i).isUnreadable_iff]
  refine exists_congr fun r => and_congr_right fun hr => ?_
  rw [← or_assoc, or_iff_left (hdepth i r hr)]

variable {p : Provider} {messages : Json} {client : Client}

/-- The law of the rail, for outcomes as they come from the service. All of it holds exactly when the
last outcome can be read: when its response is neither one that sends the client on to an address
that it cannot go to, nor one whose text is needed and cannot be told. -/
theorem rail_walked_in_order (h : p.CanAsk messages client)
    (hmodels : ∀ model ∈ p.models, model.wellFormed = true)
    (hordinary : ∀ i, (u i).IsOrdinary) (hdepth : ∀ i r, u i = .response r → ¬ r.TooDeep) :
    let ending := p.complete messages client u
    ∃ passed last, InOrder p.models u ending.trace.requests (passed ++ [last]) ∧
      (∀ b ∈ passed, ∀ content, ¬ b.final.Answers content) ∧
      (EndsAtAnswer p.models ending.result passed last ↔
        ¬ ∃ r, last.final = .response r ∧ (r.Misdirected ∨ r.Undecodable)) ∧
      (∀ failure, last.final.value = .error failure → failure.isOfModel = false →
        ending.result = .error failure) := by
  obtain ⟨blocks, result, log, left, hwalked, hrun⟩ := Provider.walk_run h p.models {} u
  rw [Provider.complete, hrun]
  obtain ⟨passed, last, rfl, hends⟩ := hwalked.exists_walkEnds p.models_ne_nil hmodels
  have hlast : last ∈ passed ++ [last] := List.mem_append_right _ (List.mem_singleton_self _)
  refine ⟨passed, last, Provider.inOrder_traceOf hends.models_prefix hends.take_eq log,
    hends.not_answers, ?_, hends.result_eq⟩
  rw [← isUnreadable_final_iff hordinary hdepth hends.take_eq hlast]
  exact hends.endsAtAnswer_iff

/-- A response with an error status and a body in UTF-16 that does not say in which order its bytes
are. -/
def CompletionResponse.unmarked : CompletionResponse :=
  { status := 500
    headers := [(BigO.text "content-type", BigO.text "text/plain; charset=utf-16")]
    body := (BigO.text "oops").flatMap Text.utf8Bytes }

/-- A response with a completion, whose first choice says `content`. -/
def CompletionResponse.saying (content : Text) : CompletionResponse :=
  { status := 200, headers := []
    body := (BigO.text "\x7b\"choices\": [\x7b\"message\": \x7b\"content\": \"" ++ content ++
      BigO.text "\"\x7d\x7d]\x7d").flatMap Text.utf8Bytes }

/-- A response with an answer. -/
def CompletionResponse.greeting : CompletionResponse := saying (BigO.text "hi")

/-- The configuration of a provider with two models. -/
def Provider.pairConfig : ProviderConfig :=
  { apiKey := some (text "key"), models := [text "a", text "b"], maxTokens := .int 1024
    temperature := .int 0 }

/-- A provider with two models. -/
def Provider.pair : Provider :=
  { apiKey := text "key", models := [text "a", text "b"], maxTokens := .int 1024
    temperature := .int 0, apiKey_ne_nil := by decide, models_ne_nil := by decide }

theorem Provider.build_pairConfig : Provider.build Provider.pairConfig = .ok Provider.pair := rfl

theorem CompletionResponse.not_tooDeep_of_isOk {r : CompletionResponse}
    (h : (r.received.bind json?).isOk = true) : ¬ r.TooDeep := by
  rintro ⟨received, container, hreceived, hjson⟩
  rw [hreceived, Except.bind, hjson] at h
  cases h

theorem CompletionResponse.not_tooDeep_greeting : ¬ greeting.TooDeep :=
  not_tooDeep_of_isOk (by decide +kernel)

theorem CompletionResponse.not_tooDeep_unmarked : ¬ unmarked.TooDeep :=
  not_tooDeep_of_isOk (by decide +kernel)

theorem Provider.canAsk_pair : Provider.pair.CanAsk (.arr []) .absent where
  serves := Client.serves_absent _
  hasAsciiKey := by unfold HasAsciiKey; decide
  hasFiniteNumbers := by unfold HasFiniteNumbers; decide
  isSendable := by unfold IsSendable; decide

/-- The first model is asked again behind a timeout, and answers. -/
theorem rail_walked_in_order_behind_timeout :
    let u : Outcomes := fun i => if i = 0 then .fault .timeout [] else .response .greeting
    let ending := Provider.pair.complete (.arr []) .absent u
    (∀ model ∈ Provider.pair.models, model.wellFormed = true) ∧ (∀ i, (u i).IsOrdinary) ∧
      (∀ i r, u i = .response r → ¬ r.TooDeep) ∧
      ∃ passed last, InOrder Provider.pair.models u ending.trace.requests (passed ++ [last]) ∧
        EndsAtAnswer Provider.pair.models ending.result passed last := by
  intro u ending
  have hmodels : ∀ model ∈ Provider.pair.models, model.wellFormed = true := by decide
  have hvalue : CompletionResponse.greeting.value.isOk = true := by decide +kernel
  have hreadable : ¬ CompletionResponse.greeting.IsUnreadable := by
    rintro ⟨failure, hfailure, -⟩
    rw [hfailure] at hvalue
    cases hvalue
  have hgreeting : ∀ i r, u i = .response r → r = .greeting := by
    intro i r hi
    simp only [u] at hi
    split at hi
    · cases hi
    · exact (Outcome.response.inj hi).symm
  have hordinary : ∀ i, (u i).IsOrdinary := by
    intro i
    simp only [u]
    split <;> rfl
  have hdepth : ∀ i r, u i = .response r → ¬ r.TooDeep := by
    intro i r hi
    rw [hgreeting i r hi]
    exact CompletionResponse.not_tooDeep_greeting
  obtain ⟨passed, last, hinOrder, -, hends, -⟩ :=
    rail_walked_in_order Provider.canAsk_pair hmodels hordinary hdepth
  refine ⟨hmodels, hordinary, hdepth, passed, last, hinOrder, hends.mpr ?_⟩
  rintro ⟨r, hr, hcause⟩
  have hlast : last ∈ passed ++ [last] := List.mem_append_right _ (List.mem_singleton_self _)
  obtain ⟨i, hi⟩ := exists_eq_final hinOrder.outcomes_eq hlast
  have hunreadable := CompletionResponse.isUnreadable_iff.mpr
    (.inr (hcause.imp_right Or.inl))
  rw [hgreeting i r (hi.trans hr)] at hunreadable
  exact hreadable hunreadable

/-- The first model answers with an unmarked text, and the second one, which would greet, is not
asked. -/
theorem rail_left_at_unmarked_text :
    let u : Outcomes := fun i => .response (if i = 0 then .unmarked else .greeting)
    let ending := Provider.pair.complete (.arr []) .absent u
    (∀ i, (u i).IsOrdinary) ∧ (∀ i r, u i = .response r → ¬ r.TooDeep) ∧
      ending.trace.requests.map (·.model) = [text "a"] ∧
      ending.result = .error (.charset (.noOrderMark 16)) ∧
      (u 1).answer? = some (text "hi") ∧
      ∀ passed last, ¬ EndsAtAnswer Provider.pair.models ending.result passed last := by
  intro u ending
  have hordinary : ∀ i, (u i).IsOrdinary := by
    intro i
    simp only [u]
    split <;> rfl
  have hdepth : ∀ i r, u i = .response r → ¬ r.TooDeep := by
    rintro i r ⟨⟩
    split
    · exact CompletionResponse.not_tooDeep_unmarked
    · exact CompletionResponse.not_tooDeep_greeting
  have hresult : ending.result = .error (.charset (.noOrderMark 16)) := by decide +kernel
  refine ⟨hordinary, hdepth, by decide +kernel, hresult, by decide +kernel, fun passed last => ?_⟩
  rw [hresult]
  exact not_endsAtAnswer_of_isOfModel rfl

end BigO
