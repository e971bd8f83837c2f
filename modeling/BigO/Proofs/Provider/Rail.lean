import BigO.Proofs.Provider.Block

/-! The walk along the rail. It passes the blocks of models that fail or say nothing, one behind the
other, and it ends where the rail ends, before a model whose request cannot be written, or behind
a block that gives an answer or cannot be read. -/

namespace BigO

/-- The error to end with behind the last outcome of a model. A model that says nothing leaves an
earlier error in place. -/
def Outcome.lastError (o : Outcome) (last : Provider.LastError) : Provider.LastError :=
  match o.value with
  | .error (.provider message status) => { message, status }
  | .error (.transport kind message) => { message := kind.wording message, status := none }
  | _ => last

namespace Block

/-- The rail goes on with the next model. -/
structure Passes (b : Block) : Prop where
  unanswered : b.final.answer? = none
  readable : ¬ b.final.IsUnreadable

/-- The waits between the requests. -/
def waits (b : Block) : List Nat := Provider.retryWaits.take b.passing.length

end Block

namespace Blocks

/-- How many outcomes some blocks take. -/
def size : List Block → Nat
  | [] => 0
  | b :: blocks => b.size + size blocks

/-- The error to end with behind some blocks. -/
def lastError (blocks : List Block) (last : Provider.LastError) : Provider.LastError :=
  blocks.foldl (fun last b => b.final.lastError last) last

theorem size_append (a b : List Block) : size (a ++ b) = size a + size b := by
  induction a with
  | nil => exact (Nat.zero_add _).symm
  | cons block a ih => rw [List.cons_append, size, ih, size, Nat.add_assoc]

theorem size_le (blocks : List Block) : size blocks ≤ 3 * blocks.length := by
  induction blocks with
  | nil => exact le_rfl
  | cons b blocks ih =>
    have hblock := b.size_le
    rw [size, List.length_cons]
    omega

end Blocks

/-- A walk passes some blocks: it begins with the outcomes `u` and the models `models`, and arrives
with the outcomes `v` at the models `rest`. -/
inductive Passing : Outcomes → List Text → List Block → Outcomes → List Text → Prop
  | start (u : Outcomes) (models : List Text) : Passing u models [] u models
  | next {u v : Outcomes} {model : Text} {models rest : List Text} {passed : List Block}
      (hmodel : model.wellFormed = true) (hpasses : (u.firstBlock model).Passes)
      (hrest : Passing (u.drop (u.firstBlock model).size) models passed v rest) :
      Passing u (model :: models) (u.firstBlock model :: passed) v rest

namespace Passing

variable {u v : Outcomes} {models rest : List Text} {passed : List Block}

theorem models_eq (h : Passing u models passed v rest) :
    models = passed.map Block.model ++ rest := by
  induction h with
  | start => rfl
  | next _ _ _ ih => rw [ih]; rfl

theorem passes (h : Passing u models passed v rest) : ∀ b ∈ passed, b.Passes := by
  induction h with
  | start => exact nofun
  | next _ hpasses _ ih => exact List.forall_mem_cons.mpr ⟨hpasses, ih⟩

theorem drop_eq (h : Passing u models passed v rest) : v = u.drop (Blocks.size passed) := by
  induction h with
  | start => exact (Outcomes.drop_zero _).symm
  | next _ _ _ ih => rw [ih, Outcomes.drop_drop]; rfl

theorem take_eq (h : Passing u models passed v rest) :
    u.take (Blocks.size passed) = passed.flatMap Block.outcomes := by
  induction h with
  | start => rfl
  | @next u v model models rest passed _ _ _ ih =>
    rw [Blocks.size, Outcomes.take_add, ih, ← Outcomes.outcomes_firstBlock, List.flatMap_cons]

/-- A walk goes on until no model is left, or one whose request cannot be written or whose block
does not pass. -/
theorem exists_stop (u : Outcomes) (models : List Text) :
    ∃ passed v rest, Passing u models passed v rest ∧
      ∀ model ∈ rest.head?, model.wellFormed = true → ¬ (v.firstBlock model).Passes := by
  induction models generalizing u with
  | nil => exact ⟨[], u, [], .start u [], nofun⟩
  | cons model models ih =>
    by_cases hnext : model.wellFormed = true ∧ (u.firstBlock model).Passes
    · obtain ⟨passed, v, rest, hrest, hstop⟩ := ih (u.drop (u.firstBlock model).size)
      exact ⟨_, v, rest, .next hnext.1 hnext.2 hrest, hstop⟩
    · refine ⟨[], u, model :: models, .start u _, ?_⟩
      rintro _ ⟨⟩ hmodel hpasses
      exact hnext ⟨hmodel, hpasses⟩

end Passing

namespace Provider

variable {p : Provider} {messages : Json} {client : Client} {u v : Outcomes} {model : Text}
  {models rest : List Text} {passed : List Block} {last : LastError}

/-- The requests of a block. -/
def requestsOf (p : Provider) (messages : Json) (b : Block) : List CompletionRequest :=
  List.replicate b.size (p.requestOf messages b.model)

/-- What the blocks of a walk leave behind. -/
def traceOf (p : Provider) (messages : Json) (blocks : List Block) (log : List LogEntry) : Trace :=
  { requests := blocks.flatMap (p.requestsOf messages), waits := blocks.flatMap Block.waits, log }

theorem length_requests_traceOf (p : Provider) (messages : Json) (blocks : List Block)
    (log : List LogEntry) :
    (p.traceOf messages blocks log).requests.length = Blocks.size blocks := by
  induction blocks with
  | nil => rfl
  | cons b blocks ih =>
    have hfirst : (p.requestsOf messages b).length = b.size := List.length_replicate
    rw [Blocks.size, ← ih, ← hfirst]
    exact List.length_append

theorem log_append_traceOf (entries more : List LogEntry) :
    ({ log := entries } : Trace) ++ p.traceOf messages passed more =
      p.traceOf messages passed (entries ++ more) := rfl

theorem traceOf_append_log (entries more : List LogEntry) :
    p.traceOf messages passed entries ++ ({ log := more } : Trace) =
      p.traceOf messages passed (entries ++ more) := by
  ext1 <;> simp [traceOf]

theorem traceOf_append (a b : List Block) (entries more : List LogEntry) :
    p.traceOf messages a entries ++ p.traceOf messages b more =
      p.traceOf messages (a ++ b) (entries ++ more) := by
  ext1 <;> simp [traceOf]

theorem ask_run_block (h : p.CanAsk messages client) (hmodel : model.wellFormed = true)
    (u : Outcomes) :
    p.ask model messages client u =
      { result := (u.firstBlock model).final.value
        trace := p.traceOf messages [u.firstBlock model] []
        client := .opened p.authorization } := by
  rw [ask_run h hmodel]
  simp only [traceOf, List.flatMap_cons, List.flatMap_nil, List.append_nil]
  rfl

/-- The walk passes the block of a model. -/
theorem walk_run_passes (h : p.CanAsk messages client) (hmodel : model.wellFormed = true)
    (hpasses : (u.firstBlock model).Passes) (last : LastError) (models : List Text) :
    ∃ log, p.walk messages last (model :: models) client u =
      let ending := p.walk messages ((u.firstBlock model).final.lastError last) models
        (.opened p.authorization) (u.drop (u.firstBlock model).size)
      { ending with trace := p.traceOf messages [u.firstBlock model] log ++ ending.trace } := by
  obtain ⟨hunanswered, hreadable⟩ := hpasses
  rw [walk]
  simp only [Exchange.log_bind_run, Exchange.attempt_bind_run (ask_run_block h hmodel u),
    length_requests_traceOf]
  rw [Outcome.answer?] at hunanswered
  rw [Outcome.lastError]
  cases hvalue : (u.firstBlock model).final.value with
  | error failure =>
    -- Of the failures only those of the model go on; the others would make the block unreadable.
    have hfailure : failure.isOfModel = true :=
      Bool.not_eq_false _ ▸ fun hfalse => hreadable ⟨failure, hvalue, hfalse⟩
    cases failure with
    | provider message status =>
      simp only [Exchange.log_bind_run]
      exact ⟨[_, _], rfl⟩
    | transport kind message =>
      simp only [show kind.isOfExchange = true from hfailure, if_true, Exchange.log_bind_run]
      exact ⟨[_, _], rfl⟩
    | _ => cases hfailure
  | ok value =>
    rw [hvalue] at hunanswered
    cases hcontent : content? value with
    | none =>
      simp only [hcontent, Exchange.log_bind_run]
      exact ⟨[_, _], rfl⟩
    | some content =>
      have hblank : content.strip.isEmpty = true := by
        simpa [hcontent, Option.filter] using hunanswered
      simp only [hcontent, hblank, if_true]
      exact ⟨[_], rfl⟩

/-- The walk ends with the answer in the block of a model. -/
theorem walk_run_answers (h : p.CanAsk messages client) (hmodel : model.wellFormed = true)
    {answer : Text} (hanswer : (u.firstBlock model).final.answer? = some answer)
    (last : LastError) (models : List Text) :
    ∃ log, p.walk messages last (model :: models) client u =
      { result := .ok { content := answer, model }
        trace := p.traceOf messages [u.firstBlock model] log
        client := .opened p.authorization } := by
  rw [walk]
  simp only [Exchange.log_bind_run, Exchange.attempt_bind_run (ask_run_block h hmodel u),
    length_requests_traceOf]
  rw [Outcome.answer?] at hanswer
  cases hvalue : (u.firstBlock model).final.value with
  | error failure => rw [hvalue] at hanswer; cases hanswer
  | ok value =>
    rw [hvalue] at hanswer
    obtain ⟨hcontent, hne⟩ := Option.filter_eq_some_iff.mp hanswer
    obtain ⟨said, hsaid, rfl⟩ := Option.map_eq_some_iff.mp hcontent
    have hfull : said.strip.isEmpty = false := by
      simpa using hne
    simp only [hsaid, hfull, Bool.false_eq_true, if_false, Exchange.log_bind_run,
      Exchange.pure_run, Trace.append_empty, traceOf_append_log, log_append_traceOf]
    exact ⟨_, rfl⟩

/-- The walk ends with a failure behind a block that cannot be read. -/
theorem walk_run_unreadable (h : p.CanAsk messages client) (hmodel : model.wellFormed = true)
    {failure : Failure} (hvalue : (u.firstBlock model).final.value = .error failure)
    (hfailure : failure.isOfModel = false) (last : LastError) (models : List Text) :
    ∃ log, p.walk messages last (model :: models) client u =
      { result := .error failure
        trace := p.traceOf messages [u.firstBlock model] log
        client := .opened p.authorization } := by
  rw [walk]
  simp only [Exchange.log_bind_run, Exchange.attempt_bind_run (ask_run_block h hmodel u),
    length_requests_traceOf, hvalue]
  cases failure with
  | provider message status => cases hfailure
  | transport kind message =>
    simp only [show kind.isOfExchange = false from hfailure, Bool.false_eq_true, if_false,
      Exchange.fail_run, Trace.append_empty, log_append_traceOf]
    exact ⟨_, rfl⟩
  | _ =>
    simp only [Exchange.fail_run, Trace.append_empty, log_append_traceOf]
    exact ⟨_, rfl⟩

/-- The walk fails at a model whose request cannot be written. -/
theorem walk_run_unencodable (hserves : client.Serves p.authorization)
    (hfinite : p.HasFiniteNumbers) (hnumbers : messages.allFinite = true)
    (h : ¬ (p.HasAsciiKey ∧ model.wellFormed = true ∧
      (messages.write .compact).wellFormed = true))
    (u : Outcomes) (last : LastError) (models : List Text) :
    ∃ what log left, p.walk messages last (model :: models) client u =
      { result := .error (.unencodable what), trace := { log }, client := left } := by
  obtain ⟨what, left, hask⟩ := ask_run_unencodable hserves hfinite hnumbers h u
  refine ⟨what, [.rail .info (text "Attempting model " ++ model)], left, ?_⟩
  rw [walk]
  simp only [Exchange.log_bind_run, Exchange.attempt_bind_run hask, Exchange.fail_run,
    Trace.append_empty]

/-- Behind the blocks that it passes, the walk does what it does with the rest of the rail. -/
theorem walk_run_passing (hpassing : Passing u models passed v rest)
    (h : p.CanAsk messages client) (last : LastError) :
    ∃ log left, p.CanAsk messages left ∧
      ∀ {result : Except Failure Completion} {trace : Trace} {left' : Client},
        p.walk messages (Blocks.lastError passed last) rest left v =
          { result, trace, client := left' } →
        p.walk messages last models client u =
          { result, trace := p.traceOf messages passed log ++ trace, client := left' } := by
  induction hpassing generalizing client last with
  | start => exact ⟨[], client, h, fun hrest => hrest⟩
  | @next u v model models rest passed hmodel hpasses _ ih =>
    -- The client that a block leaves is an open one, with which the next model can be asked.
    obtain ⟨entries, hblock⟩ := walk_run_passes h hmodel hpasses last models
    obtain ⟨log, left, hleft, hbehind⟩ := ih h.opened ((u.firstBlock model).final.lastError last)
    refine ⟨entries ++ log, left, hleft, fun hrest => ?_⟩
    rw [hblock, hbehind hrest]
    simp only [← Trace.append_assoc, traceOf_append]
    rfl

/-- All that a walk may do. It passes some blocks, and then there is no model left, or the request
to the next one cannot be written, or that one answers, or its last outcome cannot be read. -/
inductive Walked (u : Outcomes) (models : List Text) (last : LastError) :
    List Block → Except Failure Completion → Prop
  | exhausted {passed : List Block} {v : Outcomes} (h : Passing u models passed v []) :
      Walked u models last passed (.error (.provider (Blocks.lastError passed last).message
        (Blocks.lastError passed last).status))
  | unencodable {passed : List Block} {v : Outcomes} {model : Text} {rest : List Text}
      (h : Passing u models passed v (model :: rest)) (hmodel : model.wellFormed = false)
      (what : Unencodable) : Walked u models last passed (.error (.unencodable what))
  | answered {passed : List Block} {v : Outcomes} {model : Text} {rest : List Text}
      (h : Passing u models passed v (model :: rest)) (hmodel : model.wellFormed = true)
      {answer : Text} (hanswer : (v.firstBlock model).final.answer? = some answer) :
      Walked u models last (passed ++ [v.firstBlock model]) (.ok { content := answer, model })
  | unreadable {passed : List Block} {v : Outcomes} {model : Text} {rest : List Text}
      (h : Passing u models passed v (model :: rest)) (hmodel : model.wellFormed = true)
      {failure : Failure} (hvalue : (v.firstBlock model).final.value = .error failure)
      (hfailure : failure.isOfModel = false) :
      Walked u models last (passed ++ [v.firstBlock model]) (.error failure)

/-- A walk does one of these, and it leaves the trace of its blocks. -/
theorem walk_run (h : p.CanAsk messages client) (models : List Text) (last : LastError)
    (u : Outcomes) :
    ∃ blocks result log left, Walked u models last blocks result ∧
      p.walk messages last models client u =
        { result, trace := p.traceOf messages blocks log, client := left } := by
  obtain ⟨passed, v, rest, hpassing, hstop⟩ := Passing.exists_stop u models
  obtain ⟨log, left, hleft, hbehind⟩ := walk_run_passing hpassing h last
  cases rest with
  | nil =>
    refine ⟨passed, _, log, left, .exhausted hpassing, ?_⟩
    rw [hbehind rfl, Trace.append_empty]
  | cons model rest =>
    by_cases hmodel : model.wellFormed = true
    · by_cases hreadable : (v.firstBlock model).final.IsUnreadable
      · obtain ⟨failure, hvalue, hfailure⟩ := hreadable
        obtain ⟨more, hend⟩ := walk_run_unreadable hleft hmodel hvalue hfailure
          (Blocks.lastError passed last) rest
        refine ⟨_, _, log ++ more, .opened p.authorization,
          .unreadable hpassing hmodel hvalue hfailure, ?_⟩
        rw [hbehind hend, traceOf_append]
      · obtain ⟨answer, hanswer⟩ : ∃ answer, (v.firstBlock model).final.answer? = some answer :=
          Option.ne_none_iff_exists'.mp fun hnone =>
            hstop model rfl hmodel ⟨hnone, hreadable⟩
        obtain ⟨more, hend⟩ := walk_run_answers hleft hmodel hanswer
          (Blocks.lastError passed last) rest
        refine ⟨_, _, log ++ more, .opened p.authorization,
          .answered hpassing hmodel hanswer, ?_⟩
        rw [hbehind hend, traceOf_append]
    · obtain ⟨what, more, left', hend⟩ := walk_run_unencodable hleft.serves
        hleft.hasFiniteNumbers hleft.isSendable.1 (fun hall => hmodel hall.2.1) v
        (Blocks.lastError passed last) rest
      refine ⟨passed, _, log ++ more, left',
        .unencodable hpassing (Bool.eq_false_iff.mpr hmodel) what, ?_⟩
      rw [hbehind hend, traceOf_append_log]

end Provider

end BigO
