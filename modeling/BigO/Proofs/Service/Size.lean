import BigO.Proofs.Number.HeaderInteger
import BigO.Proofs.Service.Layer

/-! The limit on the size of requests. It is kept on the length that a request declares, in every
spelling of an integer, and a request that declares none counts as empty. The body itself is not
measured, so that a body beyond the limit is refused exactly when the declaration is beyond it too:
it comes through where less is declared than is sent. -/

namespace BigO.Service

variable {s : Settings} {r : Request} {limit size : Int}

/-- What a request declares of its size. A request that declares nothing declares zero. -/
inductive Request.Declares (r : Request) : (size : Int) → Prop
  | absent (hheader : r.header? "content-length" = none) : Declares r 0
  | empty (hheader : r.header? "content-length" = some []) : Declares r 0
  | spelled {declared : Text} {size : Int} (hheader : r.header? "content-length" = some declared)
      (hne : declared ≠ []) (hspells : Lenient.SpellsInteger declared size) : Declares r size

/-- The size that is read is the size that is declared. -/
theorem declaredSize?_eq_some : r.declaredSize? = some size ↔ r.Declares size := by
  rw [Request.declaredSize?]
  constructor
  · intro hread
    cases hheader : r.header? "content-length" with
    | none =>
      simp only [hheader] at hread
      rw [← Option.some.inj hread]
      exact .absent hheader
    | some declared =>
      simp only [hheader] at hread
      cases declared with
      | nil =>
        rw [← Option.some.inj hread]
        exact .empty hheader
      | cons c rest =>
        exact .spelled hheader (List.cons_ne_nil c rest)
          (Lenient.readHeaderInteger_eq_some.mp hread)
  · intro hdeclares
    cases hdeclares with
    | absent hheader => simp only [hheader]
    | empty hheader => simp only [hheader, List.isEmpty_nil, if_true]
    | spelled hheader hne hspells =>
      have hfull := Bool.eq_false_iff.mpr (mt List.isEmpty_iff.mp hne)
      simp only [hheader, hfull, Bool.false_eq_true, if_false]
      exact Lenient.readHeaderInteger_eq_some.mpr hspells

/-- The answers of the limit: to a length that is no integer, and to one that is too long. -/
def sizeRefusals (limit : Int) : List Response := [
  .refusal 400 "Invalid Content-Length header" none,
  .refusal 413 "request_too_large"
    (some (text "Request body exceeds " ++ Text.ofInt limit ++ text " bytes"))]

theorem status_of_mem_sizeRefusals {refusal : Response} (h : refusal ∈ sizeRefusals limit) :
    refusal.status ≠ 200 := by
  rw [sizeRefusals, List.mem_cons, List.mem_singleton] at h
  have hstatus : (400 : Nat) ≠ 200 ∧ (413 : Nat) ≠ 200 := by decide
  rcases h with rfl | rfl
  · exact hstatus.1
  · exact hstatus.2

/-- A request is refused for its size: the limit answers, and nothing behind it is run. -/
structure Request.IsRefused (r : Request) (s : Settings) (refusal : Response) : Prop where
  mem : refusal ∈ sizeRefusals s.maxRequestSize
  alone : ∀ inner : Handler, sizeLimited s.maxRequestSize inner r = pure refusal
  answer : ∀ now client u, handle s now r client u =
    { result := .ok { response := refusal.addHeaders r.callerHeaders, failure := none }
      trace := {}, client }

/-- No browser asks beforehand with a method whose size is limited. -/
theorem not_isPreflight_of_sized (hmethod : r.method ∈ sizedMethods) : ¬ r.IsPreflight := by
  rintro ⟨hoptions, -, -⟩
  rw [hoptions] at hmethod
  exact absurd hmethod (by decide)

theorem isRefused_of_alone {refusal : Response} (hmethod : r.method ∈ sizedMethods)
    (hmem : refusal ∈ sizeRefusals s.maxRequestSize)
    (halone : ∀ inner : Handler, sizeLimited s.maxRequestSize inner r = pure refusal) :
    r.IsRefused s refusal where
  mem := hmem
  alone := halone
  answer := by
    intro now client u
    have hcallers := withCallers_of_not_isPreflight (not_isPreflight_of_sized hmethod)
      (sizeLimited s.maxRequestSize (hardened (dispatch s now)))
    rw [halone] at hcallers
    have hrun := congrFun (congrFun hcallers client) u
    rw [Exchange.bind_run_ok (Exchange.pure_run refusal client u)] at hrun
    simp only [Exchange.pure_run, Trace.append_empty] at hrun
    exact guarded_run_ok hrun

theorem exists_isRefused (hmethod : r.method ∈ sizedMethods)
    (h : ∀ size, r.Declares size → s.maxRequestSize < size) : ∃ refusal, r.IsRefused s refusal := by
  have hsized := List.contains_iff_mem.mpr hmethod
  cases hsize : r.declaredSize? with
  | none =>
    refine ⟨.refusal 400 "Invalid Content-Length header" none,
      isRefused_of_alone hmethod List.mem_cons_self fun inner => ?_⟩
    rw [sizeLimited, if_pos hsized, hsize]
  | some size =>
    have hover := h size (declaredSize?_eq_some.mp hsize)
    refine ⟨_, isRefused_of_alone hmethod (List.mem_cons_of_mem _ List.mem_cons_self)
      fun inner => ?_⟩
    rw [sizeLimited, if_pos hsized, hsize]
    exact if_pos hover

/-- A declaration within the limit lets the request through, and then it is not refused. -/
theorem not_isRefused_of_sizeLimited_eq
    (h : ∀ inner : Handler, sizeLimited s.maxRequestSize inner r = inner r) (refusal : Response) :
    ¬ r.IsRefused s refusal := by
  intro hrefused
  have hsame : (pure (Response.ofText 200 []) : Exchange Response) = pure refusal :=
    (h fun _ => pure (Response.ofText 200 [])).symm.trans (hrefused.alone _)
  have hrun := congrArg (fun x : Exchange Response =>
    (x .absent fun _ => .fault .timeout []).result) hsame
  have hstatus : (Response.ofText 200 []).status = refusal.status :=
    congrArg Response.status (Except.ok.inj hrun)
  exact status_of_mem_sizeRefusals hrefused.mem hstatus.symm

/-- A request with a body beyond the limit is refused exactly when it declares nothing within the
limit, and so it is when it does not declare less than it sends. Any other declares less than it
sends, and it goes through the limit as if there were none. -/
theorem oversized_body_refused_iff (hmethod : r.method ∈ sizedMethods)
    (hbody : s.maxRequestSize < r.body.length) :
    ((∃ refusal, r.IsRefused s refusal) ↔ ∀ size, r.Declares size → s.maxRequestSize < size) ∧
      ((∀ size, r.Declares size → r.body.length ≤ size) → ∃ refusal, r.IsRefused s refusal) ∧
      ((¬ ∃ refusal, r.IsRefused s refusal) →
        ∃ size, r.Declares size ∧ size ≤ s.maxRequestSize ∧ size < r.body.length ∧
          ∀ inner : Handler, sizeLimited s.maxRequestSize inner r = inner r) := by
  have hthrough : ∀ size, r.Declares size → size ≤ s.maxRequestSize →
      ∀ inner : Handler, sizeLimited s.maxRequestSize inner r = inner r :=
    fun size hsize hle =>
      sizeLimited_of_isWithin fun _ => ⟨size, declaredSize?_eq_some.mpr hsize, hle⟩
  refine ⟨⟨?_, exists_isRefused hmethod⟩, ?_, ?_⟩
  · rintro ⟨refusal, hrefused⟩ size hsize
    by_contra hle
    exact not_isRefused_of_sizeLimited_eq (hthrough size hsize (Int.not_lt.mp hle)) _ hrefused
  · intro hhonest
    exact exists_isRefused hmethod fun size hsize => Int.lt_of_lt_of_le hbody (hhonest size hsize)
  · intro hnone
    obtain ⟨size, hover⟩ := Classical.not_forall.mp fun h => hnone (exists_isRefused hmethod h)
    obtain ⟨hsize, hle⟩ := Classical.not_imp.mp hover
    have hwithin := Int.not_lt.mp hle
    exact ⟨size, hsize, hwithin, Int.lt_of_le_of_lt hwithin hbody, hthrough size hsize hwithin⟩

/-- A request of eleven bytes that may declare a length. -/
def elevenBytes (declared : Option Text) : Request where
  method := text "POST"
  path := text "/analyze"
  query := []
  headers := (text "content-type", text "application/json") ::
    (declared.map fun length => (text "content-length", length)).toList
  body := "\x7b\"code\":\"\"\x7d".toUTF8.toList

/-- Eleven bytes are refused where four are allowed, however the eleven are spelled. -/
theorem oversized_body_refused_at_spelled_length :
    let s : Settings := { maxRequestSize := 4 }
    let r := elevenBytes (some (text " +1_1\t"))
    r.method ∈ sizedMethods ∧ s.maxRequestSize < r.body.length ∧
      (∀ size, r.Declares size → r.body.length ≤ size) ∧ ∃ refusal, r.IsRefused s refusal := by
  intro s r
  have hmethod : r.method ∈ sizedMethods := by decide
  have hbody : s.maxRequestSize < r.body.length := by decide +kernel
  have hread : r.declaredSize? = some 11 := by decide +kernel
  have hlength : (r.body.length : Int) = 11 := by decide +kernel
  have hhonest : ∀ size, r.Declares size → r.body.length ≤ size := by
    intro size hsize
    have hsame := hread.symm.trans (declaredSize?_eq_some.mpr hsize)
    exact Int.le_of_eq (hlength.trans (Option.some.inj hsame))
  exact ⟨hmethod, hbody, hhonest, (oversized_body_refused_iff hmethod hbody).2.1 hhonest⟩

/-- Eleven bytes come through where four are allowed, when no length is declared. -/
theorem oversized_body_answered_without_length :
    let s : Settings := { maxRequestSize := 4 }
    let r := elevenBytes none
    let u : Outcomes := fun _ => .fault .timeout []
    r.method ∈ sizedMethods ∧ s.maxRequestSize < r.body.length ∧ r.Declares 0 ∧
      (¬ ∃ refusal, r.IsRefused s refusal) ∧
      ∃ reply, (handle s [] r .absent u).result = .ok reply ∧ reply.response.status = 200 := by
  intro s r u
  have hdeclares : r.Declares 0 := .absent (by decide)
  have hthrough : ∀ inner : Handler, sizeLimited s.maxRequestSize inner r = inner r := fun _ =>
    sizeLimited_of_isWithin (fun _ => ⟨0, declaredSize?_eq_some.mpr hdeclares, by decide⟩) _
  have hanswer : (handle s [] r .absent u).result.toOption.map (·.response.status) = some 200 := by
    decide +kernel
  refine ⟨by decide, by decide +kernel, hdeclares, ?_, ?_⟩
  · rintro ⟨refusal, hrefused⟩
    exact not_isRefused_of_sizeLimited_eq hthrough refusal hrefused
  · cases hresult : (handle s [] r .absent u).result with
    | ok reply =>
      rw [hresult] at hanswer
      exact ⟨reply, rfl, Option.some.inj hanswer⟩
    | error failure =>
      rw [hresult] at hanswer
      cases hanswer

end BigO.Service
