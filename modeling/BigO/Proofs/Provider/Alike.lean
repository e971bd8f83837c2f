import Mathlib.Data.List.Forall2
import BigO.Proofs.Provider.Request
import BigO.Proofs.Provider.Exchange
import BigO.Report.Reporter

/-! Two exchanges side by side. They read the same outcomes, through two clients and with requests
that are related in some way, and they are alike when they come to the same results with the same
waits and log entries. What is built from parts that are alike is alike, so along the retries of a
model and along the rail it is enough to look at one request. -/

namespace BigO

variable {α β γ δ : Type}

/-- The same failure, or results that are related. -/
inductive ResultsAlike (R : α → β → Prop) : Except Failure α → Except Failure β → Prop
  | ok {a : α} {b : β} (h : R a b) : ResultsAlike R (.ok a) (.ok b)
  | error (e : Failure) : ResultsAlike R (.error e) (.error e)

theorem resultsAlike_refl (result : Except Failure α) : ResultsAlike Eq result result := by
  cases result with
  | ok a => exact .ok rfl
  | error e => exact .error e

theorem ResultsAlike.eq {a b : Except Failure α} (h : ResultsAlike Eq a b) : a = b := by
  cases h with
  | ok h => rw [h]
  | error e => rfl

/-- Two endings with related clients, requests and results, and with the same waits and log. -/
structure EndingsAlike (S : Client → Client → Prop) (Q : CompletionRequest → CompletionRequest → Prop)
    (R : α → β → Prop) (a : Ending α) (b : Ending β) : Prop where
  result : ResultsAlike R a.result b.result
  requests : List.Forall₂ Q a.trace.requests b.trace.requests
  waits : a.trace.waits = b.trace.waits
  log : a.trace.log = b.trace.log
  client : S a.client b.client

/-- Two exchanges that end alike whenever their clients are related. -/
def Exchange.Alike (S : Client → Client → Prop) (Q : CompletionRequest → CompletionRequest → Prop)
    (R : α → β → Prop) (x : Exchange α) (y : Exchange β) : Prop :=
  ∀ c d u, S c d → EndingsAlike S Q R (x c u) (y d u)

namespace Exchange

variable {S : Client → Client → Prop} {Q : CompletionRequest → CompletionRequest → Prop}
  {R : α → β → Prop} {T : γ → δ → Prop}

/-! ### Parts -/

theorem alike_ofExcept {a : Except Failure α} {b : Except Failure β} (h : ResultsAlike R a b) :
    Alike S Q R (ofExcept a) (ofExcept b) :=
  fun _ _ _ hclients =>
    { result := h, requests := .nil, waits := rfl, log := rfl, client := hclients }

theorem alike_pure {a : α} {b : β} (h : R a b) :
    Alike S Q R (pure a : Exchange α) (pure b : Exchange β) := alike_ofExcept (.ok h)

theorem alike_fail (e : Failure) : Alike S Q R (fail e : Exchange α) (fail e : Exchange β) :=
  alike_ofExcept (.error e)

theorem alike_log (entry : LogEntry) : Alike S Q Eq (log entry) (log entry) :=
  fun _ _ _ hclients =>
    { result := .ok rfl, requests := .nil, waits := rfl, log := rfl, client := hclients }

theorem alike_wait (milliseconds : Nat) : Alike S Q Eq (wait milliseconds) (wait milliseconds) :=
  fun _ _ _ hclients =>
    { result := .ok rfl, requests := .nil, waits := rfl, log := rfl, client := hclients }

/-- Requests that are related have the same outcome. -/
theorem alike_request {r s : CompletionRequest} (h : Q r s) :
    Alike S Q Eq (request r) (request s) :=
  fun _ _ _ hclients =>
    { result := .ok rfl, requests := .cons h .nil, waits := rfl, log := rfl, client := hclients }

theorem Alike.attempt {x : Exchange α} {y : Exchange β} (h : Alike S Q R x y) :
    Alike S Q (ResultsAlike R) x.attempt y.attempt := by
  intro c d u hclients
  have hend := h c d u hclients
  exact { hend with result := .ok hend.result }

theorem Alike.bind {x : Exchange α} {y : Exchange β} {f : α → Exchange γ} {g : β → Exchange δ}
    (h : Alike S Q R x y) (hrest : ∀ a b, R a b → Alike S Q T (f a) (g b)) :
    Alike S Q T (x >>= f) (y >>= g) := by
  intro c d u hclients
  have hfirst := h c d u hclients
  cases hx : x c u with
  | mk a trace left =>
    cases hy : y d u with
    | mk b trace' left' =>
      rw [hx, hy] at hfirst
      obtain ⟨hresult, hrequests, hwaits, hlog, hleft⟩ := hfirst
      cases hresult with
      | error e =>
        rw [bind_run_error hx, bind_run_error hy]
        exact { result := .error e, requests := hrequests, waits := hwaits, log := hlog
                client := hleft }
      | ok hab =>
        -- As many requests are made on both sides, so what comes behind reads the same outcomes.
        have hsecond := hrest _ _ hab left left' (u.drop trace.requests.length) hleft
        rw [bind_run_ok hx, bind_run_ok hy, ← hrequests.length_eq]
        exact {
          result := hsecond.result
          requests := List.rel_append hrequests hsecond.requests
          waits := congrArg₂ (· ++ ·) hwaits hsecond.waits
          log := congrArg₂ (· ++ ·) hlog hsecond.log
          client := hsecond.client }

/-- Clients for two authorizations. -/
def BothServe (a b : Text) (c d : Client) : Prop := c.Serves a ∧ d.Serves b

/-- Both authorizations can be sent, or they have the same fault. -/
theorem alike_connect {a b : Text} (h : Unencodable.inAscii a = Unencodable.inAscii b) :
    Alike (BothServe a b) Q (fun s t => s = a ∧ t = b) (connect a) (connect b) := by
  rintro c d u ⟨hc, hd⟩
  cases ha : Unencodable.inAscii a with
  | none =>
    have hb := h.symm.trans ha
    rw [hc.connect_run_ok ha, hd.connect_run_ok hb]
    exact { result := .ok ⟨rfl, rfl⟩, requests := .nil, waits := rfl, log := rfl
            client := ⟨Client.serves_opened ha, Client.serves_opened hb⟩ }
  | some what =>
    have hb := h.symm.trans ha
    rw [hc.connect_run_error ha, hd.connect_run_error hb]
    exact { result := .error _, requests := .nil, waits := rfl, log := rfl, client := ⟨hc, hd⟩ }

end Exchange

open Exchange

/-! ### The provider -/

/-- Two providers with the same rail whose requests are related, each for its own messages, or fail
alike. -/
structure AsksAlike (S : Client → Client → Prop) (Q : CompletionRequest → CompletionRequest → Prop)
    (p q : Provider) (m n : Json) : Prop where
  models_eq : p.models = q.models
  connect : Alike S Q (fun s t => s = p.authorization ∧ t = q.authorization)
    (Exchange.connect p.authorization) (Exchange.connect q.authorization)
  request : ∀ model, ResultsAlike Q (p.requestFor p.authorization model m)
    (q.requestFor q.authorization model n)

namespace AsksAlike

variable {S : Client → Client → Prop} {Q : CompletionRequest → CompletionRequest → Prop}
  {p q : Provider} {m n : Json}

theorem askOnce (h : AsksAlike S Q p q m n) (model : Text) :
    Alike S Q Eq (p.askOnce model m) (q.askOnce model n) := by
  refine h.connect.bind ?_
  rintro _ _ ⟨rfl, rfl⟩
  refine (alike_ofExcept (h.request model)).bind fun r s hrs => ?_
  refine (alike_request hrs).bind ?_
  rintro outcome _ rfl
  cases outcome with
  | fault kind message => exact alike_pure rfl
  | response r =>
    refine (alike_ofExcept (resultsAlike_refl r.value)).bind ?_
    rintro value _ rfl
    exact alike_pure rfl

theorem askAgain (h : AsksAlike S Q p q m n) (model : Text) (waits : List Nat) :
    Alike S Q Eq (p.askAgain model m waits) (q.askAgain model n waits) := by
  induction waits with
  | nil =>
    refine (h.askOnce model).bind ?_
    rintro attempt _ rfl
    cases attempt with
    | ok value => exact alike_pure rfl
    | error failed => exact alike_fail _
  | cons wait waits ih =>
    refine (h.askOnce model).bind ?_
    rintro attempt _ rfl
    cases attempt with
    | ok value => exact alike_pure rfl
    | error failed =>
      obtain ⟨kind, message⟩ := failed
      simp only
      split
      · exact (alike_wait wait).bind fun _ _ _ => ih
      · exact alike_fail _

theorem walk (h : AsksAlike S Q p q m n) (models : List Text) (last : Provider.LastError) :
    Alike S Q Eq (p.walk m last models) (q.walk n last models) := by
  induction models generalizing last with
  | nil => exact alike_fail _
  | cons model models ih =>
    refine (alike_log _).bind fun _ _ _ => ?_
    refine (h.askAgain model Provider.retryWaits).attempt.bind fun a b hab => ?_
    cases hab with
    | error failure =>
      cases failure with
      | provider message status => exact (alike_log _).bind fun _ _ _ => ih _
      | transport kind message =>
        simp only
        split
        · exact (alike_log _).bind fun _ _ _ => ih _
        · exact alike_fail _
      | _ => exact alike_fail _
    | ok hvalue =>
      subst hvalue
      simp only
      split
      · exact (alike_log _).bind fun _ _ _ => ih last
      · split
        · exact ih last
        · exact (alike_log _).bind fun _ _ _ => alike_pure rfl

theorem complete (h : AsksAlike S Q p q m n) : Alike S Q Eq (p.complete m) (q.complete n) := by
  rw [Provider.complete, Provider.complete, ← h.models_eq]
  exact h.walk p.models {}

/-- Two questions with the same instructions. -/
theorem reportWith {code code' language : Text}
    (h : AsksAlike S Q p q
      (Provider.chat (Prompt.instructions language) (Prompt.question code))
      (Provider.chat (Prompt.instructions language) (Prompt.question code'))) :
    Alike S Q Eq (Reporter.reportWith p code language) (Reporter.reportWith q code' language) := by
  have hanswer : Alike S Q Eq
      (p.completeJson (Prompt.question code) (Prompt.instructions language) >>= fun answer =>
        Exchange.ofExcept (Reporter.reportFrom language answer.1 answer.2))
      (q.completeJson (Prompt.question code') (Prompt.instructions language) >>= fun answer =>
        Exchange.ofExcept (Reporter.reportFrom language answer.1 answer.2)) := by
    refine Alike.bind (R := Eq) (h.complete.bind ?_) ?_
    · rintro completion _ rfl
      refine (alike_ofExcept (resultsAlike_refl _)).bind ?_
      rintro value _ rfl
      exact alike_pure rfl
    · rintro answer _ rfl
      exact alike_ofExcept (resultsAlike_refl _)
  refine hanswer.attempt.bind fun a b hab => ?_
  cases hab.eq
  split
  · exact alike_pure rfl
  · exact (alike_log _).bind fun _ _ _ => alike_pure rfl
  · exact (alike_log _).bind fun _ _ _ => alike_pure rfl
  · exact alike_fail _

end AsksAlike

end BigO
