import BigO.Proofs.Provider.Exchange
import BigO.Proofs.Provider.Reading
import BigO.Proofs.Provider.Request

/-! The requests to one model. They are a block: some of them fail in passing, at most two, and then
comes one with which the model is done. -/

namespace BigO

/-- The requests to a model by what became of them. The model is asked again while its requests fail
in passing, and at most twice. -/
structure Block where
  model : Text
  passing : List Outcome
  final : Outcome
  passing_isTransient : ∀ o ∈ passing, o.isTransient = true
  length_passing_le : passing.length ≤ 2
  final_not_isTransient : passing.length < 2 → final.isTransient = false

namespace Block

/-- How many requests there are. -/
def size (b : Block) : Nat := b.passing.length + 1

/-- What became of the requests, in order. -/
def outcomes (b : Block) : List Outcome := b.passing ++ [b.final]

theorem size_le (b : Block) : b.size ≤ 3 := Nat.succ_le_succ b.length_passing_le

end Block

namespace Outcomes

variable {u : Outcomes} {i retries : Nat}

/-- How many of the first outcomes fail in passing before one does not, when that many count at
most. -/
def passes (u : Outcomes) : (retries : Nat) → Nat
  | 0 => 0
  | retries + 1 => if (u 0).isTransient then (u.drop 1).passes retries + 1 else 0

theorem passes_le (u : Outcomes) (retries : Nat) : u.passes retries ≤ retries := by
  induction retries generalizing u with
  | zero => exact le_rfl
  | succ retries ih =>
    rw [passes]
    split
    · exact Nat.succ_le_succ (ih (u.drop 1))
    · exact Nat.zero_le _

theorem isTransient_of_lt_passes (h : i < u.passes retries) : (u i).isTransient = true := by
  induction retries generalizing u i with
  | zero => cases h
  | succ retries ih =>
    rw [passes] at h
    split at h
    case isFalse => cases h
    case isTrue hfirst =>
      cases i with
      | zero => exact hfirst
      | succ i =>
        have hrest : ((u.drop 1) i).isTransient = true := ih (Nat.lt_of_succ_lt_succ h)
        rwa [drop, Nat.add_comm] at hrest

theorem not_isTransient_of_passes_lt (h : u.passes retries < retries) :
    (u (u.passes retries)).isTransient = false := by
  induction retries generalizing u with
  | zero => cases h
  | succ retries ih =>
    rw [passes] at h ⊢
    split at h
    case isFalse hfirst =>
      rw [if_neg hfirst]
      exact Bool.eq_false_iff.mpr hfirst
    case isTrue hfirst =>
      have hrest := ih (Nat.lt_of_succ_lt_succ h)
      rw [if_pos hfirst]
      rwa [drop, Nat.add_comm] at hrest

theorem mem_take {n : Nat} {o : Outcome} : o ∈ u.take n ↔ ∃ i < n, u i = o := by
  simp [take]

/-- The requests to a model that begin the stream. -/
def firstBlock (u : Outcomes) (model : Text) : Block where
  model
  passing := u.take (u.passes 2)
  final := u (u.passes 2)
  passing_isTransient := by
    intro o ho
    obtain ⟨i, hi, rfl⟩ := mem_take.mp ho
    exact isTransient_of_lt_passes hi
  length_passing_le := by
    rw [length_take]
    exact passes_le u 2
  final_not_isTransient := by
    rw [length_take]
    exact not_isTransient_of_passes_lt

@[simp] theorem firstBlock_model (u : Outcomes) (model : Text) :
    (u.firstBlock model).model = model := rfl

theorem size_firstBlock (u : Outcomes) (model : Text) :
    (u.firstBlock model).size = u.passes 2 + 1 := by
  rw [Block.size, firstBlock, length_take]

theorem outcomes_firstBlock (u : Outcomes) (model : Text) :
    (u.firstBlock model).outcomes = u.take (u.firstBlock model).size := by
  rw [size_firstBlock, take_succ]
  rfl

end Outcomes

namespace Provider

variable {p : Provider} {model : Text} {messages : Json} {client : Client}

/-- The request for a completion of a model. -/
def requestOf (p : Provider) (messages : Json) (model : Text) : CompletionRequest :=
  { model, authorization := p.authorization, body := p.body model messages }

/-- Clients, keys and numbers with which requests can be made for those models whose names have an
encoding. -/
structure CanAsk (p : Provider) (messages : Json) (client : Client) : Prop where
  serves : client.Serves p.authorization
  hasAsciiKey : p.HasAsciiKey
  hasFiniteNumbers : p.HasFiniteNumbers
  isSendable : IsSendable messages

/-- A client that was opened is as good as the first one. -/
theorem CanAsk.opened (h : p.CanAsk messages client) :
    p.CanAsk messages (.opened p.authorization) :=
  { h with serves := Client.serves_opened (inAscii_authorization.mpr h.hasAsciiKey) }

/-- One request is made. A response gives a value or fails; a fault is left to the attempts to come.
-/
theorem askOnce_run (h : p.CanAsk messages client) (hmodel : model.wellFormed = true)
    (u : Outcomes) :
    p.askOnce model messages client u =
      { result := match u 0 with
          | .response r => r.value.map .ok
          | .fault kind message => .ok (.error (kind, message))
        trace := { requests := [p.requestOf messages model] }
        client := .opened p.authorization } := by
  have hconnect := h.serves.connect_run_ok (inAscii_authorization.mpr h.hasAsciiKey) u
  have hrequest : p.requestFor p.authorization model messages = .ok (p.requestOf messages model) :=
    requestFor_eq_ok h.hasFiniteNumbers hmodel h.isSendable
  rw [askOnce, Exchange.bind_run_ok hconnect]
  simp only [List.length_nil, Outcomes.drop_zero, Trace.empty_append]
  rw [Exchange.ofExcept_bind_run_ok hrequest, Exchange.bind_run_ok rfl]
  cases u 0 with
  | fault kind message => rfl
  | response r =>
    simp only
    cases r.value with
    | ok v => rfl
    | error failure => rfl

/-- The last attempt of a block, since its outcome is none that passes or since no wait is left. -/
theorem askAgain_run_last (h : p.CanAsk messages client) (hmodel : model.wellFormed = true)
    {u : Outcomes} {waits : List Nat} (hlast : waits = [] ∨ (u 0).isTransient = false) :
    p.askAgain model messages waits client u =
      { result := (u 0).value
        trace := { requests := [p.requestOf messages model] }
        client := .opened p.authorization } := by
  have hrun := askOnce_run h hmodel u
  cases hfirst : u 0 with
  | response r =>
    simp only [hfirst] at hrun
    cases hvalue : r.value with
    | ok v =>
      rw [hvalue] at hrun
      cases waits <;>
        rw [askAgain, Exchange.bind_run_ok hrun, Outcome.value, hvalue] <;> rfl
    | error failure =>
      rw [hvalue] at hrun
      cases waits <;> rw [askAgain, Exchange.bind_run_error hrun, Outcome.value, hvalue]
  | fault kind message =>
    simp only [hfirst] at hrun
    cases waits with
    | nil => rw [askAgain, Exchange.bind_run_ok hrun]; rfl
    | cons wait waits =>
      have hkind : kind.isTransient = false := by
        simpa only [hfirst, Outcome.isTransient, reduceCtorEq, false_or] using hlast
      rw [askAgain, Exchange.bind_run_ok hrun]
      simp only [hkind, Bool.false_eq_true, if_false]
      rfl

/-- An attempt that fails in passing, with others behind it. -/
theorem askAgain_run_again (h : p.CanAsk messages client) (hmodel : model.wellFormed = true)
    {u : Outcomes} (hpass : (u 0).isTransient = true) (wait : Nat) (waits : List Nat) :
    p.askAgain model messages (wait :: waits) client u =
      let rest := p.askAgain model messages waits (.opened p.authorization) (u.drop 1)
      { rest with
        trace := { requests := [p.requestOf messages model], waits := [wait] } ++ rest.trace } := by
  have hrun := askOnce_run h hmodel u
  cases hfirst : u 0 with
  | response r =>
    rw [hfirst] at hpass
    cases hpass
  | fault kind message =>
    rw [hfirst] at hpass
    simp only [hfirst] at hrun
    rw [askAgain, Exchange.bind_run_ok hrun]
    simp only [show kind.isTransient = true from hpass, if_true, Exchange.wait_bind_run,
      List.length_singleton]
    rfl

/-- A model is asked until an outcome is none that passes, or no wait is left. -/
theorem askAgain_run (h : p.CanAsk messages client) (hmodel : model.wellFormed = true)
    (waits : List Nat) (u : Outcomes) :
    p.askAgain model messages waits client u =
      { result := (u (u.passes waits.length)).value
        trace :=
          { requests := List.replicate (u.passes waits.length + 1) (p.requestOf messages model)
            waits := waits.take (u.passes waits.length) }
        client := .opened p.authorization } := by
  induction waits generalizing client u with
  | nil => exact askAgain_run_last h hmodel (.inl rfl)
  | cons wait waits ih =>
    rw [List.length_cons, Outcomes.passes]
    split
    case isFalse hfirst =>
      exact askAgain_run_last h hmodel (.inr (Bool.eq_false_iff.mpr hfirst))
    case isTrue hfirst =>
      -- The attempts behind the first one read the outcomes from the second on.
      have hfinal : (u.drop 1) ((u.drop 1).passes waits.length) =
          u ((u.drop 1).passes waits.length + 1) := by
        rw [Outcomes.drop, Nat.add_comm]
      rw [askAgain_run_again h hmodel hfirst, ih h.opened, hfinal]
      rfl

/-- What asking a model does: the requests of the first block of outcomes, with the waits between
them, and its last outcome. -/
theorem ask_run (h : p.CanAsk messages client) (hmodel : model.wellFormed = true) (u : Outcomes) :
    p.ask model messages client u =
      { result := (u.firstBlock model).final.value
        trace :=
          { requests := List.replicate (u.firstBlock model).size (p.requestOf messages model)
            waits := retryWaits.take (u.firstBlock model).passing.length }
        client := .opened p.authorization } := by
  rw [ask, askAgain_run h hmodel, Outcomes.size_firstBlock, Outcomes.firstBlock,
    Outcomes.length_take]
  rfl

/-! ### Requests that cannot be written -/

/-- A request without an encoding is not made. -/
theorem askOnce_run_unencodable (hserves : client.Serves p.authorization)
    (hfinite : p.HasFiniteNumbers) (hnumbers : messages.allFinite = true)
    (h : ¬ (p.HasAsciiKey ∧ model.wellFormed = true ∧
      (messages.write .compact).wellFormed = true)) (u : Outcomes) :
    ∃ what left, p.askOnce model messages client u =
      { result := .error (.unencodable what), trace := {}, client := left } := by
  by_cases hkey : p.HasAsciiKey
  · obtain ⟨what, hrequest⟩ :
        ∃ what, p.requestFor p.authorization model messages = .error (.unencodable what) :=
      requestFor_eq_error hfinite hnumbers fun hwritten => h ⟨hkey, hwritten⟩
    have hconnect := hserves.connect_run_ok (inAscii_authorization.mpr hkey) u
    refine ⟨what, .opened p.authorization, ?_⟩
    rw [askOnce, Exchange.bind_run_ok hconnect]
    simp only [Exchange.ofExcept_bind_run_error hrequest, Trace.append_empty]
  · obtain ⟨what, hwhat⟩ :=
      Option.ne_none_iff_exists'.mp fun hnone => hkey (inAscii_authorization.mp hnone)
    have hconnect := hserves.connect_run_error hwhat u
    refine ⟨what, client, ?_⟩
    rw [askOnce, Exchange.bind_run_error hconnect]

/-- It is not tried again either. -/
theorem ask_run_unencodable (hserves : client.Serves p.authorization)
    (hfinite : p.HasFiniteNumbers) (hnumbers : messages.allFinite = true)
    (h : ¬ (p.HasAsciiKey ∧ model.wellFormed = true ∧
      (messages.write .compact).wellFormed = true)) (u : Outcomes) :
    ∃ what left, p.ask model messages client u =
      { result := .error (.unencodable what), trace := {}, client := left } := by
  obtain ⟨what, left, hrun⟩ := askOnce_run_unencodable hserves hfinite hnumbers h u
  refine ⟨what, left, ?_⟩
  rw [ask, retryWaits, askAgain, Exchange.bind_run_error hrun]

end Provider

end BigO
