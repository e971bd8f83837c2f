import BigO.Proofs.Service.Endpoint
import BigO.Proofs.Service.Layer

/-! Which answers are hardened. The header fields for that are added next to the endpoints, inside
of all other layers. So an answer has all of them if it is given by an endpoint, and an answer that
a layer gives by itself, or that stands for a failure, has none. -/

namespace BigO.Service

namespace Response

/-- All header fields that harden an answer are there, each alone under its name. -/
def IsHardened (response : Response) : Prop :=
  ∀ field ∈ hardening, response.headers.filter (·.1 = field.1) = [field]

/-- There is no header field under a name that hardens. -/
def IsBare (response : Response) : Prop :=
  ∀ field ∈ hardening, response.headers.filter (·.1 = field.1) = []

instance (response : Response) : Decidable response.IsBare :=
  inferInstanceAs (Decidable (∀ field ∈ hardening, _))

theorem IsBare.not_isHardened {response : Response} (h : response.IsBare) :
    ¬ response.IsHardened := by
  intro hhardened
  have hfirst : (text "x-content-type-options", text "nosniff") ∈ hardening :=
    List.mem_cons_self
  cases (hhardened _ hfirst).symm.trans (h _ hfirst)

end Response

/-! ### Fields that do not harden -/

/-- No field has a name that hardens. -/
def ArePlain (fields : Headers) : Prop := ∀ field ∈ fields, field.1 ∉ hardening.map (·.1)

@[simp] theorem arePlain_nil : ArePlain [] := nofun

@[simp] theorem arePlain_cons {name value : Text} {fields : Headers} :
    ArePlain ((name, value) :: fields) ↔ name ∉ hardening.map (·.1) ∧ ArePlain fields :=
  List.forall_mem_cons

@[simp] theorem arePlain_append {fields more : Headers} :
    ArePlain (fields ++ more) ↔ ArePlain fields ∧ ArePlain more := List.forall_mem_append

theorem ArePlain.filter_eq_nil {fields : Headers} (h : ArePlain fields) {field : Text × Text}
    (hfield : field ∈ hardening) : fields.filter (·.1 = field.1) = [] := by
  refine List.filter_eq_nil_iff.mpr fun plain hplain heq => h plain hplain ?_
  rw [of_decide_eq_true heq]
  exact List.mem_map_of_mem hfield

theorem arePlain_callerFields (origin : Text) : ArePlain (callerFields origin) := by
  rw [callerFields, arePlain_cons]
  refine ⟨by decide, ?_⟩
  split
  · exact arePlain_cons.mpr ⟨by decide, arePlain_nil⟩
  · exact arePlain_nil

theorem arePlain_callerHeaders (r : Request) : ArePlain r.callerHeaders := by
  rw [Request.callerHeaders, arePlain_cons]
  refine ⟨by decide, ?_⟩
  cases r.header? "origin" with
  | none => exact arePlain_nil
  | some origin => exact arePlain_callerFields origin

theorem arePlain_ofJson (status : Nat) (value : Json) :
    ArePlain (Response.ofJson status value).headers :=
  arePlain_cons.mpr ⟨by decide, arePlain_nil⟩

theorem arePlain_ofText (status : Nat) (body : Text) :
    ArePlain (Response.ofText status body).headers :=
  arePlain_cons.mpr ⟨by decide, arePlain_nil⟩

theorem arePlain_preflight (r : Request) (origin method : Text) :
    ArePlain (preflight r origin method).headers := by
  have hasked : ∀ asked : Option Text, ArePlain
      (asked.toList.map fun names => (text "access-control-allow-headers", names)) := by
    intro asked
    cases asked with
    | none => exact arePlain_nil
    | some names => exact arePlain_cons.mpr ⟨by decide, arePlain_nil⟩
  have hanswer : ∀ objections : List Text, ArePlain
      (if objections.isEmpty then Response.ofText 200 (text "OK")
        else .ofText 400
          (text "Disallowed CORS " ++ Text.join (text ", ") objections)).headers := by
    intro objections
    split <;> exact arePlain_ofText _ _
  rw [preflight, Response.addHeaders]
  simp only [arePlain_append, arePlain_cons]
  exact ⟨hanswer _, ⟨⟨by decide, by decide, by decide, arePlain_nil⟩, arePlain_callerFields origin⟩,
    hasked _⟩

/-- Header fields that do not harden leave an answer bare. -/
theorem Response.isBare_of_arePlain {response : Response} (h : ArePlain response.headers) :
    response.IsBare := fun _ hfield => h.filter_eq_nil hfield

/-- An answer is hardened when the fields for that are added to it, whatever plain ones there are.
-/
theorem Response.isHardened_addHeaders {response : Response} (h : ArePlain response.headers)
    {more : Headers} (hmore : ArePlain more) :
    ((response.addHeaders hardening).addHeaders more).IsHardened := by
  have halone : ∀ field ∈ hardening, hardening.filter (·.1 = field.1) = [field] := by decide
  intro field hfield
  simp only [addHeaders, List.filter_append, h.filter_eq_nil hfield, hmore.filter_eq_nil hfield,
    halone field hfield, List.nil_append, List.append_nil]

/-! ### The answers of the endpoints -/

/-- What is answered by the endpoints: no field hardens it, and it is no server error. -/
structure Response.IsOrdinary (response : Response) : Prop where
  plain : ArePlain response.headers
  status_ne : response.status ≠ 500

theorem isOrdinary_ofJson {status : Nat} (h : status ≠ 500) (value : Json) :
    (Response.ofJson status value).IsOrdinary :=
  { plain := arePlain_ofJson status value, status_ne := h }

variable {s : Settings} {now : Text} {r : Request} {client : Client} {u : Outcomes}
  {response : Response}

theorem answering_isOrdinary {answer : AnalyzeRequest → Exchange Response}
    (hanswer : ∀ request, (answer request client u).result = .ok response → response.IsOrdinary)
    (h : (answering s r answer client u).result = .ok response) : response.IsOrdinary := by
  obtain ⟨error, rfl⟩ | ⟨error, details, rfl⟩ | ⟨request, -, hrequest⟩ := answering_result h
  · exact isOrdinary_ofJson (by decide) _
  · exact isOrdinary_ofJson (by decide) _
  · exact hanswer request hrequest

theorem answer_isOrdinary {e : Endpoint}
    (h : (e.answer s now r client u).result = .ok response) : response.IsOrdinary := by
  cases e with
  | overview =>
    cases h
    exact isOrdinary_ofJson (by decide) _
  | health =>
    cases h
    exact isOrdinary_ofJson (by decide) _
  | analyze =>
    refine answering_isOrdinary (fun request hrequest => ?_) h
    cases hrequest
    exact isOrdinary_ofJson (by decide) _
  | report =>
    refine answering_isOrdinary (fun request hrequest => ?_) h
    obtain ⟨written, -, rfl⟩ := report_result hrequest
    exact isOrdinary_ofJson (by decide) _

theorem dispatch_isOrdinary (h : (dispatch s now r client u).result = .ok response) :
    response.IsOrdinary := by
  rw [dispatch] at h
  cases htarget : target r.method r.path with
  | endpoint e =>
    simp only [htarget] at h
    exact answer_isOrdinary h
  | wrongMethod allowed =>
    simp only [htarget] at h
    cases h
    exact {
      plain := arePlain_append.mpr
        ⟨arePlain_ofJson _ _, arePlain_cons.mpr ⟨by decide, arePlain_nil⟩⟩
      status_ne := (by decide : 405 ≠ 500) }
  | elsewhere path =>
    simp only [htarget] at h
    cases h
    exact {
      plain := arePlain_cons.mpr ⟨by decide, arePlain_nil⟩
      status_ne := (by decide : 307 ≠ 500) }
  | nowhere =>
    simp only [htarget] at h
    cases h
    exact isOrdinary_ofJson (by decide) _

/-- Every request is answered. The answer is hardened exactly when it comes from the endpoints: when
the request is not one that a browser makes beforehand, its declared size keeps the limit, and no
failure is behind the answer. All other answers have none of the fields. -/
theorem hardened_iff_reached (s : Settings) (now : Text) (r : Request) (client : Client)
    (u : Outcomes) :
    ∃ reply, (handle s now r client u).result = .ok reply ∧
      (reply.response.IsHardened ↔
        ¬ r.IsPreflight ∧ r.IsWithin s.maxRequestSize ∧ reply.response.status ≠ 500) ∧
      (¬ reply.response.IsHardened → reply.response.IsBare) := by
  have hbare : ∀ {reply : Reply} {came : Prop}, reply.response.IsBare → ¬ came →
      (reply.response.IsHardened ↔ came) ∧
        (¬ reply.response.IsHardened → reply.response.IsBare) :=
    fun h hcame => ⟨iff_of_false h.not_isHardened hcame, fun _ => h⟩
  have hhandled := handle_handled s now r client u
  generalize handle s now r client u = ending at hhandled ⊢
  cases hhandled with
  | beforehand hpreflight origin method =>
    exact ⟨_, rfl, hbare (Response.isBare_of_arePlain (arePlain_preflight r origin method))
      fun hcame => hcame.1 hpreflight⟩
  | oversized hpreflight hsize status hstatus error details =>
    refine ⟨_, rfl, hbare (Response.isBare_of_arePlain ?_) fun hcame => hsize hcame.2.1⟩
    exact arePlain_append.mpr ⟨arePlain_ofJson _ _, arePlain_callerHeaders r⟩
  | failed hpreflight hsize hdispatch log =>
    exact ⟨_, rfl, hbare (Response.isBare_of_arePlain (arePlain_ofJson _ _))
      fun hcame => hcame.2.2 rfl⟩
  | @reached hpreflight hsize response trace left hdispatch =>
    have hordinary : response.IsOrdinary :=
      dispatch_isOrdinary (by rw [hdispatch])
    have hhardened := Response.isHardened_addHeaders hordinary.plain (arePlain_callerHeaders r)
    exact ⟨_, rfl, iff_of_true hhardened ⟨hpreflight, hsize, hordinary.status_ne⟩,
      fun hnot => absurd hhardened hnot⟩

/-- A request that declares five bytes where four are allowed. -/
def oversizedRequest : Request where
  method := text "POST"
  path := text "/analyze"
  query := []
  headers := [(text "content-type", text "application/json"), (text "content-length", text "5")]
  body := [0x7B, 0x20, 0x20, 0x20, 0x7D]

/-- The refusal of a declared size is not hardened. -/
theorem oversized_not_hardened :
    ∃ reply, (handle { maxRequestSize := 4 } [] oversizedRequest .absent
        fun _ => .response { status := 200, headers := [], body := [] }).result = .ok reply ∧
      reply.response.status = 413 ∧ ¬ reply.response.IsHardened :=
  ⟨_, rfl, by decide +kernel, Response.IsBare.not_isHardened (by decide +kernel)⟩

end BigO.Service
