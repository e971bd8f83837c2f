import Mathlib.Data.Nat.Count
import BigO.Proofs.Provider.Alike
import BigO.Proofs.Report.Reporter

/-! Sessions. A reporter keeps no memory but its provider: each of its reports is what a new reporter
would hand back, and how often a provider was built is told by the order of reports and closings. -/

namespace BigO.Reporter

/-- A place in a session: the reporter, and the outcomes that are left. -/
structure Standing where
  reporter : Reporter
  outcomes : Outcomes

namespace Standing

/-- How a step ends. -/
def ending (now : Standing) (s : Step) : Ending Answer :=
  (now.reporter.step s).1 (now.reporter.step s).2.client now.outcomes

/-- The record of a step. -/
def record (now : Standing) (s : Step) : Record :=
  { result := (now.ending s).result, trace := (now.ending s).trace
    constructions := (now.reporter.step s).2.constructions }

/-- The place behind a step. -/
def next (now : Standing) (s : Step) : Standing :=
  { reporter := { (now.reporter.step s).2 with client := (now.ending s).client }
    outcomes := now.outcomes.drop (now.ending s).trace.requests.length }

/-- The place behind some steps. -/
def after (now : Standing) (steps : List Step) : Standing := steps.foldl next now

/-- The records of a session from here on. -/
def records (now : Standing) (steps : List Step) : List Record :=
  now.reporter.session now.outcomes steps

theorem records_nil (now : Standing) : now.records [] = [] := rfl

theorem records_cons (now : Standing) (s : Step) (steps : List Step) :
    now.records (s :: steps) = now.record s :: (now.next s).records steps := rfl

theorem length_records (now : Standing) (steps : List Step) :
    (now.records steps).length = steps.length := by
  induction steps generalizing now with
  | nil => rfl
  | cons s steps ih => rw [records_cons, List.length_cons, ih, List.length_cons]

/-- The record of a step is that at the place behind the steps before. -/
theorem getElem?_records (now : Standing) (steps : List Step) (i : Nat) :
    (now.records steps)[i]? = steps[i]?.map (now.after (steps.take i)).record := by
  induction steps generalizing now i with
  | nil => rfl
  | cons s steps ih =>
    rw [records_cons]
    cases i with
    | zero => rfl
    | succ i =>
      rw [List.getElem?_cons_succ, ih, List.getElem?_cons_succ, List.take_succ_cons]
      rfl

theorem getElem?_records_eq_some_iff {now : Standing} {steps : List Step} {i : Nat}
    {record : Record} :
    (now.records steps)[i]? = some record ↔
      ∃ s, steps[i]? = some s ∧ (now.after (steps.take i)).record s = record := by
  rw [getElem?_records, Option.map_eq_some_iff]

/-- Each request before took one outcome. -/
theorem outcomes_after (now : Standing) (steps : List Step) (i : Nat) :
    (now.after (steps.take i)).outcomes = now.outcomes.drop
      (((now.records steps).take i).flatMap (·.trace.requests)).length := by
  induction steps generalizing now i with
  | nil =>
    rw [List.take_nil, records_nil, List.take_nil]
    exact (Outcomes.drop_zero _).symm
  | cons s steps ih =>
    cases i with
    | zero => exact (Outcomes.drop_zero _).symm
    | succ i =>
      have hrest := ih (now.next s) i
      rw [records_cons, List.take_succ_cons, List.take_succ_cons, List.flatMap_cons,
        List.length_append, ← Outcomes.drop_drop]
      exact hrest

end Standing

/-! ### Steps -/

/-- The place in the session of a reporter with this configuration. -/
structure Standing.Keeps (now : Standing) (config : ProviderConfig) : Prop where
  kept : now.reporter.Kept
  config_eq : now.reporter.config = config

/-- The place at which a session begins. -/
def Standing.new (config : ProviderConfig) (u : Outcomes) : Standing :=
  { reporter := { config }, outcomes := u }

variable {now : Standing} {config : ProviderConfig} {p : Provider}

theorem Standing.keeps_new (config : ProviderConfig) (u : Outcomes) :
    (Standing.new config u).Keeps config where
  kept := kept_new config
  config_eq := rfl

/-- A provider asks the same through any two clients that were opened for it. -/
theorem asksAlike_self (p : Provider) (messages : Json) :
    AsksAlike (Exchange.BothServe p.authorization p.authorization) Eq p p messages messages where
  models_eq := rfl
  connect := Exchange.alike_connect rfl
  request _ := resultsAlike_refl _

theorem alike_report (p : Provider) (code language : Text) :
    Exchange.Alike (Exchange.BothServe p.authorization p.authorization) Eq Eq
      (reportWith p code language >>= fun report => pure (Answer.report report))
      (reportWith p code language >>= fun report => pure (Answer.report report)) :=
  (asksAlike_self p _).reportWith.bind fun _ _ hreport =>
    Exchange.alike_pure (congrArg Answer.report hreport)

namespace Standing.Keeps

/-- A report where a provider can be built. -/
theorem step_report_eq (h : now.Keeps config) (hbuild : Provider.build config = .ok p)
    (code language : Text) :
    ∃ client, client.Serves p.authorization ∧
      now.reporter.step (.report code language) =
        (reportWith p code language >>= fun report => pure (Answer.report report),
          { now.reporter with
            provider := some p, client
            constructions := now.reporter.constructions +
              if now.reporter.provider.isNone then 1 else 0 }) := by
  obtain ⟨client, hserves, hreport⟩ :=
    h.kept.report_eq (h.config_eq.symm ▸ hbuild) code language
  refine ⟨client, hserves, ?_⟩
  rw [step, hreport]

/-- A report where none can be built. -/
theorem step_report_eq_of_build_error (h : now.Keeps config) {fault : ConfigurationFault}
    (hbuild : Provider.build config = .error fault) (code language : Text) :
    now.reporter.step (.report code language) =
      ((Exchange.log (.reporter .warning (text "AI provider not configured: " ++ fault.message))
          >>= fun _ => pure (Report.keyMissing language)) >>= fun report =>
            pure (Answer.report report),
        { now.reporter with constructions := now.reporter.constructions + 1 }) := by
  obtain ⟨-, hreport⟩ :=
    h.kept.report_eq_of_build_error (h.config_eq.symm ▸ hbuild) code language
  rw [step, hreport]

end Standing.Keeps

/-- A closing gives the provider up, and it makes no request. -/
theorem step_close (r : Reporter) :
    (r.step .close).2 = { r with provider := none } ∧
      ∀ client u, ((r.step .close).1 client u).result = .ok .closed ∧
        ((r.step .close).1 client u).trace = {} := by
  obtain ⟨config, provider, client, constructions⟩ := r
  cases provider <;> exact ⟨rfl, fun _ _ => ⟨rfl, rfl⟩⟩

namespace Standing

theorem keeps_next_close (h : now.Keeps config) :
    (now.next .close).Keeps config ∧ (now.next .close).reporter.provider = none ∧
      (now.next .close).reporter.constructions = now.reporter.constructions := by
  have hreporter : (now.next .close).reporter =
      { now.reporter with provider := none, client := (now.ending .close).client } := by
    rw [next, (step_close now.reporter).1]
  have hprovider : (now.next .close).reporter.provider = none := by rw [hreporter]
  have hconfig : (now.next .close).reporter.config = config := by rw [hreporter, ← h.config_eq]
  exact ⟨⟨kept_of_provider_eq_none hprovider, hconfig⟩, hprovider, by rw [hreporter]⟩

/-- Behind a report there is a provider, which was built if there was none before. -/
theorem keeps_next_report (h : now.Keeps config) (hbuild : Provider.build config = .ok p)
    (code language : Text) :
    (now.next (.report code language)).Keeps config ∧
      (now.next (.report code language)).reporter.provider = some p ∧
      (now.next (.report code language)).reporter.constructions =
        now.reporter.constructions + if now.reporter.provider.isNone then 1 else 0 := by
  obtain ⟨client, hserves, hstep⟩ := h.step_report_eq hbuild code language
  -- A report that is alike to itself leaves a client that was opened for the same provider.
  have hleft := (alike_report p code language client client now.outcomes ⟨hserves, hserves⟩).client.1
  simp only [next, ending, hstep]
  refine ⟨⟨⟨?_, ?_⟩, h.config_eq⟩, trivial, trivial⟩
  · rintro _ ⟨⟩
    exact h.config_eq.symm ▸ hbuild
  · rintro _ ⟨⟩
    exact hleft

/-- Where none can be built there is none behind a report either. -/
theorem keeps_next_report_of_build_error (h : now.Keeps config) {fault : ConfigurationFault}
    (hbuild : Provider.build config = .error fault) (code language : Text) :
    (now.next (.report code language)).Keeps config ∧
      (now.next (.report code language)).reporter.constructions =
        now.reporter.constructions + 1 := by
  have hprovider := (h.kept.report_eq_of_build_error (h.config_eq.symm ▸ hbuild) code language).1
  simp only [next, ending, h.step_report_eq_of_build_error hbuild]
  exact ⟨⟨kept_of_provider_eq_none hprovider, h.config_eq⟩, trivial⟩

theorem Keeps.next (h : now.Keeps config) (s : Step) : (now.next s).Keeps config := by
  cases s with
  | close => exact (keeps_next_close h).1
  | report code language =>
    cases hbuild : Provider.build config with
    | ok p => exact (keeps_next_report h hbuild code language).1
    | error fault => exact (keeps_next_report_of_build_error h hbuild code language).1

theorem Keeps.after (h : now.Keeps config) (steps : List Step) : (now.after steps).Keeps config := by
  induction steps generalizing now with
  | nil => exact h
  | cons s steps ih => exact ih (h.next s)

/-- The record of a report is that of a new reporter, but for the number of constructions. -/
theorem record_report_eq (h : now.Keeps config) (code language : Text) :
    { now.record (.report code language) with constructions := 1 } =
      (Standing.new config now.outcomes).record (.report code language) := by
  have hnew := keeps_new config now.outcomes
  cases hbuild : Provider.build config with
  | error fault =>
    simp only [record, ending, h.step_report_eq_of_build_error hbuild,
      hnew.step_report_eq_of_build_error hbuild]
    rfl
  | ok p =>
    obtain ⟨client, hserves, hstep⟩ := h.step_report_eq hbuild code language
    obtain ⟨client', hserves', hstep'⟩ :=
      hnew.step_report_eq hbuild code language
    have hends := alike_report p code language client client' now.outcomes ⟨hserves, hserves'⟩
    simp only [record, ending, hstep, hstep']
    have hrequests := hends.requests
    rw [List.forall₂_eq_eq_eq] at hrequests
    rw [hends.result.eq, Trace.ext hrequests hends.waits hends.log]
    rfl

end Standing

/-! ### Runs -/

/-- The step asks for a report. -/
def Step.isReport : Step → Bool
  | .report .. => true
  | .close => false

/-- Every report before a place is followed by a closing before it. -/
def NoneSinceClose (steps : List Step) (i : Nat) : Prop :=
  ∀ j < i, steps[j]?.any Step.isReport = true →
    ∃ k < i, j < k ∧ steps[k]?.any (!Step.isReport ·) = true

instance (steps : List Step) : DecidablePred (NoneSinceClose steps) := fun i =>
  inferInstanceAs (Decidable (∀ j < i, steps[j]?.any Step.isReport = true →
    ∃ k < i, j < k ∧ steps[k]?.any (!Step.isReport ·) = true))

/-- The step at a place is a report, and it is the first of the session or the first behind a
closing. -/
def IsFirstReport (steps : List Step) (i : Nat) : Prop :=
  steps[i]?.any Step.isReport = true ∧ NoneSinceClose steps i

instance (steps : List Step) : DecidablePred (IsFirstReport steps) := fun i =>
  inferInstanceAs (Decidable (steps[i]?.any Step.isReport = true ∧ NoneSinceClose steps i))

variable {steps : List Step} {i : Nat}

theorem noneSinceClose_zero (steps : List Step) : NoneSinceClose steps 0 := nofun

theorem noneSinceClose_succ_of_close (h : steps[i]? = some .close) :
    NoneSinceClose steps (i + 1) := by
  intro j hj hreport
  refine ⟨i, Nat.lt_succ_self i, ?_, by rw [h]; rfl⟩
  refine Nat.lt_of_le_of_ne (Nat.le_of_lt_succ hj) ?_
  rintro rfl
  rw [h] at hreport
  cases hreport

theorem not_noneSinceClose_succ_of_report {code language : Text}
    (h : steps[i]? = some (.report code language)) : ¬ NoneSinceClose steps (i + 1) := by
  intro hnone
  obtain ⟨k, hk, hik, -⟩ := hnone i (Nat.lt_succ_self i) (by rw [h]; rfl)
  omega

namespace Standing

theorem after_take_succ (now : Standing) {s : Step} (h : steps[i]? = some s) :
    now.after (steps.take (i + 1)) = (now.after (steps.take i)).next s := by
  rw [List.take_add_one, h, Option.toList_some, after, List.foldl_append]
  rfl

/-- Where a provider can be built, there is none just where no report came since the last closing,
and one was built at each first report. -/
theorem provider_after (hbuild : Provider.build config = .ok p) (u : Outcomes) (steps : List Step)
    (hi : i ≤ steps.length) :
    ((((new config u).after (steps.take i)).reporter.provider.isNone = true ↔
        NoneSinceClose steps i) ∧
      ((new config u).after (steps.take i)).reporter.constructions =
        Nat.count (IsFirstReport steps) i) := by
  induction i with
  | zero => exact ⟨iff_of_true rfl (noneSinceClose_zero steps), (Nat.count_zero _).symm⟩
  | succ i ih =>
    -- The count needs to know where there is no provider, so both are carried along.
    obtain ⟨hprovider, hcount⟩ := ih (Nat.le_of_succ_le hi)
    have hkeeps := (keeps_new config u).after (steps.take i)
    have hget : steps[i]? = some steps[i] := List.getElem?_eq_getElem hi
    cases hs : steps[i] with
    | close =>
      rw [hs] at hget
      obtain ⟨-, hnone, hsame⟩ := keeps_next_close hkeeps
      have hfirst : ¬ IsFirstReport steps i := by
        rintro ⟨hreport, -⟩
        rw [hget] at hreport
        cases hreport
      rw [after_take_succ _ hget, hnone, hsame, hcount, Nat.count_succ, if_neg hfirst]
      exact ⟨iff_of_true rfl (noneSinceClose_succ_of_close hget), rfl⟩
    | report code language =>
      rw [hs] at hget
      obtain ⟨-, hsome, hmore⟩ := keeps_next_report hkeeps hbuild code language
      have hfirst : IsFirstReport steps i ↔ NoneSinceClose steps i :=
        and_iff_right (by rw [hget]; rfl)
      rw [after_take_succ _ hget, hsome, hmore, hcount, Nat.count_succ]
      refine ⟨iff_of_false Bool.false_ne_true (not_noneSinceClose_succ_of_report hget), ?_⟩
      simp only [hfirst, ← hprovider]

/-- Where none can be built, each report is an attempt. -/
theorem constructions_after (h : now.Keeps config) {fault : ConfigurationFault}
    (hbuild : Provider.build config = .error fault) (steps : List Step) :
    (now.after steps).reporter.constructions =
      now.reporter.constructions + steps.countP Step.isReport := by
  induction steps generalizing now with
  | nil => rfl
  | cons s steps ih =>
    have hrest : (now.after (s :: steps)).reporter.constructions =
        (now.next s).reporter.constructions + steps.countP Step.isReport := ih (h.next s)
    rw [hrest, List.countP_cons]
    cases s with
    | close =>
      rw [(keeps_next_close h).2.2]
      rfl
    | report code language =>
      rw [(keeps_next_report_of_build_error h hbuild code language).2]
      simp only [Step.isReport, if_true]
      omega

/-- Where none can be built, no request is made, and a report tells that. -/
theorem record_of_build_error (h : now.Keeps config) {fault : ConfigurationFault}
    (hbuild : Provider.build config = .error fault) (s : Step) :
    (now.record s).trace.requests = [] ∧
      ∀ code language, s = .report code language →
        (now.record s).result = .ok (.report (Report.keyMissing language)) := by
  cases s with
  | close =>
    refine ⟨?_, nofun⟩
    rw [record, ending, ((step_close now.reporter).2 _ _).2]
  | report code language =>
    simp only [record, ending, h.step_report_eq_of_build_error hbuild]
    refine ⟨rfl, ?_⟩
    rintro _ _ ⟨⟩
    rfl

end Standing

/-- Sessions keep no memory besides the provider. Each report is that of a new reporter with the same
configuration for the outcomes that are left. With a valid configuration a provider is built at each
report that is the first of the session or the first behind a closing; with another one every report
tries to build one, no request is made, and every report tells that a key is missing. -/
theorem session_keeps_only_provider (config : ProviderConfig) (u : Outcomes) (steps : List Step) :
    let records := ({ config } : Reporter).session u steps
    records.length = steps.length ∧
      (∀ i code language, steps[i]? = some (.report code language) →
        ∃ record, records[i]? = some record ∧
          let left := u.drop ((records.take i).flatMap (·.trace.requests)).length
          ({ config } : Reporter).session left [.report code language] =
            [{ record with constructions := 1 }]) ∧
      (config.IsValid → ∀ i record, records[i]? = some record →
        record.constructions = Nat.count (IsFirstReport steps) (i + 1)) ∧
      (¬ config.IsValid → ∀ i record, records[i]? = some record →
        record.constructions = (steps.take (i + 1)).countP Step.isReport ∧
          record.trace.requests = [] ∧
          ∀ code language, steps[i]? = some (.report code language) →
            record.result = .ok (.report (Report.keyMissing language))) := by
  intro records
  have hkeeps := Standing.keeps_new config u
  have hrecords : records = (Standing.new config u).records steps := rfl
  refine ⟨(Standing.new config u).length_records steps, ?_, ?_, ?_⟩
  · intro i code language hi
    have hget := (Standing.new config u).getElem?_records steps i
    rw [hi] at hget
    refine ⟨_, hget, ?_⟩
    have hsame := Standing.record_report_eq (hkeeps.after (steps.take i)) code language
    rw [Standing.outcomes_after] at hsame
    rw [hsame]
    rfl
  · intro hvalid i record hrecord
    obtain ⟨p, hbuild⟩ := Provider.build_isOk_iff.mpr hvalid
    obtain ⟨s, hs, rfl⟩ := Standing.getElem?_records_eq_some_iff.mp (hrecords ▸ hrecord)
    have hi : i < steps.length := (List.getElem?_eq_some_iff.mp hs).1
    rw [← (Standing.provider_after hbuild u steps hi).2, Standing.after_take_succ _ hs]
    rfl
  · intro hinvalid i record hrecord
    cases hbuild : Provider.build config with
    | ok p => exact absurd (Provider.build_isOk_iff.mp ⟨p, hbuild⟩) hinvalid
    | error fault =>
      obtain ⟨s, hs, rfl⟩ := Standing.getElem?_records_eq_some_iff.mp (hrecords ▸ hrecord)
      obtain ⟨hrequests, hresult⟩ :=
        Standing.record_of_build_error (hkeeps.after (steps.take i)) hbuild s
      refine ⟨?_, hrequests, ?_⟩
      · have hcount := Standing.constructions_after hkeeps hbuild (steps.take (i + 1))
        rw [Standing.after_take_succ _ hs] at hcount
        exact hcount.trans (Nat.zero_add _)
      · intro code language hreport
        rw [hs] at hreport
        exact hresult code language (Option.some.inj hreport)

/-- Two reports share a provider, and one behind a closing has a second one. -/
theorem session_keeps_only_provider_over_closing :
    let config : ProviderConfig := { apiKey := some (text "key") }
    let report : Step := .report (text "x") (text "python")
    config.IsValid ∧
      ∀ record, (({ config } : Reporter).session (fun _ => .fault .timeout [])
        [report, report, .close, report])[3]? = some record → record.constructions = 2 := by
  intro config report
  have hvalid : config.IsValid := ⟨⟨_, rfl, by decide⟩, by decide⟩
  obtain ⟨-, -, hcount, -⟩ := session_keeps_only_provider config (fun _ => .fault .timeout [])
    [report, report, .close, report]
  exact ⟨hvalid, fun record hrecord => (hcount hvalid 3 record hrecord).trans (by decide)⟩

end BigO.Reporter
