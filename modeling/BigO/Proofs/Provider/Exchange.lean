import BigO.Provider.Exchange

/-! How exchanges run one behind the other: the traces are put together, the second exchange begins
with the client that the first left and reads on where the first stopped. -/

namespace BigO

namespace Trace

@[simp] theorem requests_append (a b : Trace) : (a ++ b).requests = a.requests ++ b.requests := rfl

@[simp] theorem waits_append (a b : Trace) : (a ++ b).waits = a.waits ++ b.waits := rfl

@[simp] theorem log_append (a b : Trace) : (a ++ b).log = a.log ++ b.log := rfl

@[ext] theorem ext {a b : Trace} (hrequests : a.requests = b.requests) (hwaits : a.waits = b.waits)
    (hlog : a.log = b.log) : a = b := by
  cases a
  cases b
  cases hrequests
  cases hwaits
  cases hlog
  rfl

@[simp] theorem empty_append (a : Trace) : {} ++ a = a := rfl

@[simp] theorem append_empty (a : Trace) : a ++ {} = a := by
  ext1 <;> simp

theorem append_assoc (a b c : Trace) : a ++ b ++ c = a ++ (b ++ c) := by
  ext1 <;> simp

end Trace

namespace Outcomes

@[simp] theorem drop_zero (u : Outcomes) : u.drop 0 = u := by
  funext i
  rw [drop, Nat.zero_add]

@[simp] theorem drop_drop (u : Outcomes) (m n : Nat) : (u.drop m).drop n = u.drop (m + n) := by
  funext i
  rw [drop, drop, drop, Nat.add_assoc]

/-- The first outcomes. -/
def take (u : Outcomes) (n : Nat) : List Outcome := (List.range n).map u

@[simp] theorem length_take (u : Outcomes) (n : Nat) : (u.take n).length = n := by
  rw [take, List.length_map, List.length_range]

theorem take_succ (u : Outcomes) (n : Nat) : u.take (n + 1) = u.take n ++ [u n] := by
  rw [take, List.range_succ, List.map_append]
  rfl

theorem take_add (u : Outcomes) (m n : Nat) : u.take (m + n) = u.take m ++ (u.drop m).take n := by
  induction n with
  | zero => exact (List.append_nil _).symm
  | succ n ih => rw [← Nat.add_assoc, take_succ, ih, take_succ, List.append_assoc, drop]

end Outcomes

namespace Exchange

variable {α β : Type} {x : Exchange α} {client left : Client} {u : Outcomes} {trace : Trace}

theorem pure_run (a : α) (client : Client) (u : Outcomes) :
    (pure a : Exchange α) client u = { result := .ok a, trace := {}, client } := rfl

theorem fail_run (e : Failure) (client : Client) (u : Outcomes) :
    (fail e : Exchange α) client u = { result := .error e, trace := {}, client } := rfl

/-- Behind a result the second exchange goes on. -/
theorem bind_run_ok {a : α} (h : x client u = { result := .ok a, trace, client := left })
    (f : α → Exchange β) :
    (x >>= f) client u =
      let second := f a left (u.drop trace.requests.length)
      { second with trace := trace ++ second.trace } := by
  show Exchange.bind x f client u = _
  simp only [Exchange.bind, h]

/-- Behind a failure nothing is done. -/
theorem bind_run_error {e : Failure}
    (h : x client u = { result := .error e, trace, client := left }) (f : α → Exchange β) :
    (x >>= f) client u = { result := .error e, trace, client := left } := by
  show Exchange.bind x f client u = _
  simp only [Exchange.bind, h]

/-- Behind a result, the result is that of the second exchange. -/
theorem bind_result_of_ok {a : α} (h : (x client u).result = .ok a) (f : α → Exchange β) :
    ∃ left rest, ((x >>= f) client u).result = (f a left rest).result := by
  cases hrun : x client u with
  | mk result trace left =>
    rw [hrun] at h
    cases h
    exact ⟨left, _, by rw [bind_run_ok hrun]⟩

/-- What two exchanges result in is a result of the second, behind a result of the first. -/
theorem exists_of_bind_result_ok {f : α → Exchange β} {b : β}
    (h : ((x >>= f) client u).result = .ok b) :
    ∃ a left rest, (x client u).result = .ok a ∧ (f a left rest).result = .ok b := by
  cases hresult : (x client u).result with
  | error failure =>
    have hrun : x client u = { x client u with result := .error failure } := by rw [← hresult]
    rw [bind_run_error hrun] at h
    cases h
  | ok a =>
    obtain ⟨left, rest, hsecond⟩ := bind_result_of_ok hresult f
    exact ⟨a, left, rest, rfl, hsecond.symm.trans h⟩

theorem log_bind_run (entry : LogEntry) (f : Unit → Exchange β) (client : Client) (u : Outcomes) :
    (log entry >>= f) client u =
      { f () client u with trace := { log := [entry] } ++ (f () client u).trace } := by
  have hrun : log entry client u = { result := .ok (), trace := { log := [entry] }, client } := rfl
  rw [bind_run_ok hrun]
  simp only [List.length_nil, Outcomes.drop_zero]

theorem wait_bind_run (milliseconds : Nat) (f : Unit → Exchange β) (client : Client)
    (u : Outcomes) :
    (wait milliseconds >>= f) client u =
      { f () client u with trace := { waits := [milliseconds] } ++ (f () client u).trace } := by
  have hrun : wait milliseconds client u =
      { result := .ok (), trace := { waits := [milliseconds] }, client } := rfl
  rw [bind_run_ok hrun]
  simp only [List.length_nil, Outcomes.drop_zero]

/-- An attempt always has a result, with which one goes on. -/
theorem attempt_bind_run {result : Except Failure α}
    (h : x client u = { result, trace, client := left }) (f : Except Failure α → Exchange β) :
    (x.attempt >>= f) client u =
      let second := f result left (u.drop trace.requests.length)
      { second with trace := trace ++ second.trace } := by
  have hrun : x.attempt client u = { result := .ok result, trace, client := left } := by
    rw [attempt, h]
  exact bind_run_ok hrun f

theorem ofExcept_bind_run_ok {a : α} {result : Except Failure α} (h : result = .ok a)
    (f : α → Exchange β) (client : Client) (u : Outcomes) :
    (ofExcept result >>= f) client u = f a client u := by
  have hrun : ofExcept result client u = { result := .ok a, trace := {}, client } := by
    rw [ofExcept, h]
  rw [bind_run_ok hrun]
  simp only [List.length_nil, Outcomes.drop_zero, Trace.empty_append]

theorem ofExcept_bind_run_error {e : Failure} {result : Except Failure α} (h : result = .error e)
    (f : α → Exchange β) (client : Client) (u : Outcomes) :
    (ofExcept result >>= f) client u = { result := .error e, trace := {}, client } := by
  subst h
  exact bind_run_error rfl f

end Exchange

/-- The client is one that a provider with this authorization may have: one that is open was opened
with it. -/
def Client.Serves (client : Client) (authorization : Text) : Prop :=
  ∀ sent, client = .opened sent → sent = authorization ∧ Unencodable.inAscii authorization = none

namespace Client

variable {client : Client} {authorization : Text}

theorem serves_absent (authorization : Text) : absent.Serves authorization :=
  fun _ h => nomatch h

theorem serves_opened (h : Unencodable.inAscii authorization = none) :
    (opened authorization).Serves authorization := by
  intro sent hsent
  cases hsent
  exact ⟨rfl, h⟩

/-- With an ASCII authorization there is an open client in the end. -/
theorem Serves.connect_run_ok (hclient : client.Serves authorization)
    (h : Unencodable.inAscii authorization = none) (u : Outcomes) :
    Exchange.connect authorization client u =
      { result := .ok authorization, trace := {}, client := .opened authorization } := by
  cases client with
  | opened sent =>
      obtain ⟨rfl, -⟩ := hclient sent rfl
      rfl
  | absent => simp only [Exchange.connect, h]
  | closed => simp only [Exchange.connect, h]

/-- With another one no client is opened. -/
theorem Serves.connect_run_error (hclient : client.Serves authorization) {what : Unencodable}
    (h : Unencodable.inAscii authorization = some what) (u : Outcomes) :
    Exchange.connect authorization client u =
      { result := .error (.unencodable what), trace := {}, client } := by
  cases client with
  | opened sent =>
      obtain ⟨-, hnone⟩ := hclient sent rfl
      rw [hnone] at h
      cases h
  | absent => simp only [Exchange.connect, h]
  | closed => simp only [Exchange.connect, h]

end Client

end BigO
