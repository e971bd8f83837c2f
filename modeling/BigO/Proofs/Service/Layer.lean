import BigO.Proofs.Service.Endpoint
import BigO.Service.Layer

/-! Which layer answers a request. A request that a browser makes beforehand is answered by the
rules for callers, and one that declares too much by the limit on the size. All others come to the
endpoints, and only the answers from there go out through all layers. Where an endpoint fails, the
failure becomes an answer outside of them. -/

namespace BigO.Service

namespace Request

/-- A browser asks beforehand whether it may make a request. -/
def IsPreflight (r : Request) : Prop :=
  r.method = text "OPTIONS" ∧ (r.header? "origin").isSome ∧
    (r.header? "access-control-request-method").isSome

/-- The declared size keeps the limit, or is not looked at. -/
def IsWithin (r : Request) (limit : Int) : Prop :=
  r.method ∈ sizedMethods → ∃ size, r.declaredSize? = some size ∧ size ≤ limit

/-- The header fields that the rules for callers add to an answer. -/
def callerHeaders (r : Request) : Headers :=
  (text "vary", text "Origin") :: ((r.header? "origin").map callerFields).getD []

end Request

variable {r : Request} {inner : Handler}

/-- A request that is asked of an endpoint is not made beforehand. -/
theorem not_isPreflight_of_target {e : Endpoint} (h : target r.method r.path = .endpoint e) :
    ¬ r.IsPreflight := by
  rintro ⟨hmethod, -, -⟩
  rw [hmethod] at h
  have hoptions : text "OPTIONS" ≠ e.method := by cases e <;> decide
  exact hoptions (method_of_target h)

/-! ### The layers one by one -/

theorem withCallers_of_isPreflight (h : r.IsPreflight) (inner : Handler) :
    ∃ origin method, withCallers inner r = pure (preflight r origin method) := by
  obtain ⟨hmethod, horigin, hasked⟩ := h
  obtain ⟨origin, horigin⟩ := Option.isSome_iff_exists.mp horigin
  obtain ⟨method, hasked⟩ := Option.isSome_iff_exists.mp hasked
  refine ⟨origin, method, ?_⟩
  simp only [withCallers, horigin, hasked, hmethod, if_true]

theorem withCallers_of_not_isPreflight (h : ¬ r.IsPreflight) (inner : Handler) :
    withCallers inner r =
      inner r >>= fun response => pure (response.addHeaders r.callerHeaders) := by
  rw [withCallers, Request.callerHeaders]
  cases horigin : r.header? "origin" with
  | none => rfl
  | some origin =>
    cases hasked : r.header? "access-control-request-method" with
    | none => rfl
    | some method =>
      have hmethod : r.method ≠ text "OPTIONS" := fun hmethod =>
        h ⟨hmethod, by rw [horigin]; rfl, by rw [hasked]; rfl⟩
      simp only [hmethod, if_false]
      rfl

theorem sizeLimited_of_isWithin {limit : Int} (h : r.IsWithin limit) (inner : Handler) :
    sizeLimited limit inner r = inner r := by
  rw [sizeLimited]
  split
  case isFalse => rfl
  case isTrue hsized =>
    obtain ⟨size, hsize, hle⟩ := h (List.contains_iff_mem.mp hsized)
    simp only [hsize, Int.not_lt.mpr hle, if_false]

theorem sizeLimited_of_not_isWithin {limit : Int} (h : ¬ r.IsWithin limit) (inner : Handler) :
    ∃ status error details, (status = 400 ∨ status = 413) ∧
      sizeLimited limit inner r = pure (.refusal status error details) := by
  obtain ⟨hsized, hover⟩ := Classical.not_imp.mp h
  rw [sizeLimited, if_pos (List.contains_iff_mem.mpr hsized)]
  cases hsize : r.declaredSize? with
  | none => exact ⟨400, _, _, .inl rfl, rfl⟩
  | some size =>
    have hlt : limit < size := Int.not_le.mp fun hle => hover ⟨size, hsize, hle⟩
    exact ⟨413, _, _, .inr rfl, if_pos hlt⟩

variable {client left : Client} {u : Outcomes} {trace : Trace}

theorem hardened_run_ok {response : Response}
    (h : inner r client u = { result := .ok response, trace, client := left }) :
    hardened inner r client u =
      { result := .ok (response.addHeaders hardening), trace, client := left } := by
  rw [hardened, Exchange.bind_run_ok h, Exchange.pure_run]
  simp only [Trace.append_empty]

theorem hardened_run_error {failure : Failure}
    (h : inner r client u = { result := .error failure, trace, client := left }) :
    hardened inner r client u = { result := .error failure, trace, client := left } :=
  Exchange.bind_run_error h _

theorem guarded_run_ok {response : Response}
    (h : inner r client u = { result := .ok response, trace, client := left }) :
    guarded inner r client u =
      { result := .ok { response, failure := none }, trace, client := left } := by
  rw [guarded, Exchange.attempt_bind_run h]
  simp only [Exchange.pure_run, Trace.append_empty]

theorem guarded_run_error {failure : Failure}
    (h : inner r client u = { result := .error failure, trace, client := left }) :
    ∃ log, guarded inner r client u =
      { result := .ok
          { response := .refusal 500 "Internal server error" none, failure := some failure }
        trace := trace ++ { log }, client := left } := by
  rw [guarded, Exchange.attempt_bind_run h]
  simp only [Exchange.log_bind_run, Exchange.pure_run, Trace.append_empty]
  exact ⟨_, rfl⟩

/-! ### All layers -/

/-- How the answer to a request comes about: beforehand, by refusing the declared size, from the
endpoints, or from a failure there. -/
inductive Handled (s : Settings) (now : Text) (r : Request) (client : Client) (u : Outcomes) :
    Ending Reply → Prop
  | beforehand (hpreflight : r.IsPreflight) (origin method : Text) :
      Handled s now r client u
        { result := .ok { response := preflight r origin method, failure := none }, trace := {}
          client }
  | oversized (hpreflight : ¬ r.IsPreflight) (hsize : ¬ r.IsWithin s.maxRequestSize) (status : Nat)
      (hstatus : status = 400 ∨ status = 413) (error : String) (details : Option Text) :
      Handled s now r client u
        { result := .ok
            { response := (Response.refusal status error details).addHeaders r.callerHeaders
              failure := none }
          trace := {}, client }
  | reached (hpreflight : ¬ r.IsPreflight) (hsize : r.IsWithin s.maxRequestSize)
      {response : Response} {trace : Trace} {left : Client}
      (hdispatch : dispatch s now r client u = { result := .ok response, trace, client := left }) :
      Handled s now r client u
        { result := .ok
            { response := (response.addHeaders hardening).addHeaders r.callerHeaders
              failure := none }
          trace, client := left }
  | failed (hpreflight : ¬ r.IsPreflight) (hsize : r.IsWithin s.maxRequestSize)
      {failure : Failure} {trace : Trace} {left : Client}
      (hdispatch : dispatch s now r client u =
        { result := .error failure, trace, client := left }) (log : List LogEntry) :
      Handled s now r client u
        { result := .ok
            { response := .refusal 500 "Internal server error" none, failure := some failure }
          trace := trace ++ { log }, client := left }

/-- Every request is answered in one of these ways. -/
theorem handle_handled (s : Settings) (now : Text) (r : Request) (client : Client) (u : Outcomes) :
    Handled s now r client u (handle s now r client u) := by
  -- The layers are taken off from the outside: first those that answer by themselves.
  let limited := sizeLimited s.maxRequestSize (hardened (dispatch s now))
  rw [show handle s now r client u = guarded (withCallers limited) r client u from rfl]
  by_cases hpreflight : r.IsPreflight
  · obtain ⟨origin, method, hanswer⟩ := withCallers_of_isPreflight hpreflight limited
    have hrun := congrFun (congrFun hanswer client) u
    rw [guarded_run_ok (hrun.trans (Exchange.pure_run _ client u))]
    exact .beforehand hpreflight origin method
  have hcallers : withCallers limited r client u = _ :=
    congrFun (congrFun (withCallers_of_not_isPreflight hpreflight limited) client) u
  by_cases hsize : r.IsWithin s.maxRequestSize
  · have hlimited : limited r = hardened (dispatch s now) r := sizeLimited_of_isWithin hsize _
    cases hdispatch : dispatch s now r client u with
    | mk result trace left =>
      cases result with
      | ok response =>
        rw [hlimited, Exchange.bind_run_ok (hardened_run_ok hdispatch)] at hcallers
        simp only [Exchange.pure_run, Trace.append_empty] at hcallers
        rw [guarded_run_ok hcallers]
        exact .reached hpreflight hsize hdispatch
      | error failure =>
        rw [hlimited, Exchange.bind_run_error (hardened_run_error hdispatch)] at hcallers
        obtain ⟨log, hguarded⟩ := guarded_run_error hcallers
        rw [hguarded]
        exact .failed hpreflight hsize hdispatch log
  · obtain ⟨status, error, details, hstatus, hrefused⟩ :=
      sizeLimited_of_not_isWithin hsize (hardened (dispatch s now))
    have hlimited : limited r = pure (.refusal status error details) := hrefused
    rw [hlimited, Exchange.bind_run_ok (Exchange.pure_run _ client u)] at hcallers
    rw [guarded_run_ok hcallers]
    exact .oversized hpreflight hsize status hstatus error details

/-- What the endpoints answer goes out with more header fields. -/
theorem handle_of_dispatch {s : Settings} {now : Text} {response : Response}
    (hpreflight : ¬ r.IsPreflight) (hsize : r.IsWithin s.maxRequestSize)
    (hdispatch : (dispatch s now r client u).result = .ok response) :
    (handle s now r client u).result =
      .ok
        { response := (response.addHeaders hardening).addHeaders r.callerHeaders
          failure := none } := by
  have hhandled := handle_handled s now r client u
  generalize handle s now r client u = ending at hhandled ⊢
  cases hhandled with
  | beforehand hearly => exact absurd hearly hpreflight
  | oversized _ hover => exact absurd hsize hover
  | reached _ _ hreached =>
    rw [hreached] at hdispatch
    cases hdispatch
    rfl
  | failed _ _ hfailed =>
    rw [hfailed] at hdispatch
    cases hdispatch

/-- Where an endpoint fails, the answer tells nothing of it. -/
theorem handle_of_dispatch_error {s : Settings} {now : Text} {failure : Failure}
    (hpreflight : ¬ r.IsPreflight) (hsize : r.IsWithin s.maxRequestSize)
    (hdispatch : (dispatch s now r client u).result = .error failure) :
    (handle s now r client u).result =
      .ok
        { response := .refusal 500 "Internal server error" none
          failure := some failure } := by
  have hhandled := handle_handled s now r client u
  generalize handle s now r client u = ending at hhandled ⊢
  cases hhandled with
  | beforehand hearly => exact absurd hearly hpreflight
  | oversized _ hover => exact absurd hsize hover
  | reached _ _ hreached =>
    rw [hreached] at hdispatch
    cases hdispatch
  | failed _ _ hfailed =>
    rw [hfailed] at hdispatch
    cases hdispatch
    rfl

end BigO.Service
