import Mathlib.Data.Nat.Find
import BigO.Proofs.Json.Equality
import BigO.SelfCheck.Concurrency

/-! What the concurrency check counts. It compares each verdict with the first one for the same sample
only, which it keeps; since to say the same is an equivalence, that tells of every two of them whether
they agree. -/

namespace BigO.SelfCheck.Concurrency

open Json

/-! ### What comes back -/

/-- An object whose result, if it has one, is an object. -/
def IsAnswer : Json → Prop
  | .obj members => ∀ r ∈ member? members (text "result"), ∃ verdict, r = .obj verdict
  | _ => False

instance (value : Json) : Decidable (∃ members, value = .obj members) :=
  match value with
  | .obj members => .isTrue ⟨members, rfl⟩
  | .null | .bool _ | .num _ | .str _ | .arr _ => .isFalse (by rintro ⟨_, h⟩; cases h)

instance : DecidablePred IsAnswer
  | .obj members =>
    inferInstanceAs (Decidable (∀ r ∈ member? members (text "result"), ∃ verdict, r = .obj verdict))
  | .null | .bool _ | .num _ | .str _ | .arr _ => .isFalse id

theorem isAnswer_errorValue (message : Text) : IsAnswer (errorValue message) :=
  fun r hr => by cases hr

theorem hasDistinctNames_errorValue (message : Text) : HasDistinctNames (errorValue message) :=
  .obj (List.nodup_singleton _) (List.forall_mem_singleton.mpr (.str message))

theorem hasDistinctNames_valueOf (bytes : List UInt8) : HasDistinctNames (valueOf bytes) := by
  rw [valueOf]
  split
  · next value hread => exact hasDistinctNames_of_readBytes hread
  · exact hasDistinctNames_errorValue _

theorem Reply.hasDistinctNames_value (reply : Reply) (s : Sample) :
    HasDistinctNames (reply.value s) := by
  cases reply with
  | endpoint => exact hasDistinctNames_valueOf _
  | response r =>
      rw [value]
      split
      · exact hasDistinctNames_valueOf _
      · exact hasDistinctNames_errorValue _
  | fault f message => exact hasDistinctNames_errorValue _

/-- What is found of an object: a reason, nothing, or what its result says. -/
theorem Finding.ofJson_obj (members : List (Text × Json)) :
    (∃ reason, Finding.ofJson (.obj members) = .ok (.failed reason)) ∨
      Finding.ofJson (.obj members) = .ok .refused ∨
      Finding.ofJson (.obj members) =
        match (member? members (text "result")).getD (.obj []) with
        | .obj verdict => .ok (.success verdict)
        | other => .error (.noMembers other.kind) := by
  rw [Finding.ofJson]
  split
  · exact .inl ⟨_, rfl⟩
  · split
    · exact .inr (.inr rfl)
    · exact .inr (.inl rfl)

theorem Finding.exists_ofJson_eq {value : Json} (h : IsAnswer value) :
    ∃ finding, Finding.ofJson value = .ok finding := by
  cases value with
  | obj members =>
      have hresult : ∃ verdict, (member? members (text "result")).getD (.obj []) = .obj verdict := by
        cases hmember : member? members (text "result") with
        | none => exact ⟨[], rfl⟩
        | some r => exact h r hmember
      obtain ⟨verdict, hverdict⟩ := hresult
      obtain ⟨reason, hfailed⟩ | hrefused | hsuccess := Finding.ofJson_obj members
      · exact ⟨_, hfailed⟩
      · exact ⟨_, hrefused⟩
      · exact ⟨.success verdict, by rw [hsuccess, hverdict]⟩
  | _ => exact h.elim

/-- Only objects are successful. -/
theorem Finding.exists_obj_of_success {value : Json} {verdict : List (Text × Json)}
    (h : Finding.ofJson value = .ok (.success verdict)) : ∃ members, value = .obj members := by
  cases value with
  | obj members => exact ⟨members, rfl⟩
  | _ => cases h

theorem hasDistinctNames_verdict {value : Json} {verdict : List (Text × Json)}
    (hvalue : HasDistinctNames value) (h : Finding.ofJson value = .ok (.success verdict)) :
    HasDistinctNames (.obj verdict) := by
  obtain ⟨members, rfl⟩ := Finding.exists_obj_of_success h
  have hresult : HasDistinctNames ((member? members (text "result")).getD (.obj [])) := by
    cases hmember : member? members (text "result") with
    | none => exact .obj List.nodup_nil (List.forall_mem_nil _)
    | some r => exact hvalue.member? hmember
  obtain ⟨reason, hfailed⟩ | hrefused | hsuccess := Finding.ofJson_obj members
  · cases hfailed.symm.trans h
  · cases hrefused.symm.trans h
  · rw [hsuccess] at h
    split at h
    · next heq =>
        cases h
        rwa [heq] at hresult
    · cases h

/-- The verdict of a successful request. -/
def Finding.verdict? : Finding → Option (List (Text × Json))
  | .success verdict => some verdict
  | _ => none

theorem Finding.isSuccess_eq (finding : Finding) :
    finding.isSuccess = finding.verdict?.isSome := by
  cases finding <;> rfl

/-! ### The requests by their numbers -/

section Requests

variable (replyTo : Nat → Reply)

/-- What is found of the request with this index. -/
def findingAt (i : Nat) : Except Mishap Finding :=
  Finding.ofJson ((replyTo i).value (sampleAt i))

/-- The verdict of the request with this index, if it is successful. -/
def verdictAt (i : Nat) : Option (List (Text × Json)) :=
  (findingAt replyTo i).toOption.bind Finding.verdict?

/-- Of the successful requests with the same sample as the request `i`, `first` has the lowest
number. -/
structure IsFirstLike (i first : Nat) : Prop where
  sample : sampleAt first = sampleAt i
  success : (verdictAt replyTo first).isSome = true
  least : ∀ j < first, sampleAt j = sampleAt i → (verdictAt replyTo j).isSome = false

/-- The verdict of the request differs from that of the first successful request with its sample. -/
def Dissents (i : Nat) : Prop :=
  ∃ first ≤ i, IsFirstLike replyTo i first ∧
    ∃ u ∈ verdictAt replyTo first, ∃ v ∈ verdictAt replyTo i, same (.obj u) (.obj v) = false

instance (i first : Nat) : Decidable (IsFirstLike replyTo i first) :=
  decidable_of_iff (sampleAt first = sampleAt i ∧ (verdictAt replyTo first).isSome = true ∧
      ∀ j < first, sampleAt j = sampleAt i → (verdictAt replyTo j).isSome = false)
    ⟨fun ⟨h, h', h''⟩ => ⟨h, h', h''⟩, fun h => ⟨h.sample, h.success, h.least⟩⟩

instance : DecidablePred (Dissents replyTo) := fun i =>
  inferInstanceAs (Decidable (∃ first ≤ i, _))

end Requests

/-! ### Comparing with the first -/

section Inconsistent

/-- A verdict with the sample that it is about. -/
abbrev Entry := Sample × List (Text × Json)

/-- The entry has another verdict than the first one for its sample. -/
def differsFirst (entries : List Entry) (entry : Entry) : Bool :=
  (entries.find? (·.1 = entry.1)).any fun first => !same (.obj first.2) (.obj entry.2)

variable {known rest : List Entry} {entry : Entry}

/-- Behind one for its sample, an entry is not looked at. -/
theorem differsFirst_of_known (h : (known.find? (·.1 = entry.1)).isSome) :
    differsFirst (known ++ entry :: rest) = differsFirst (known ++ rest) := by
  funext other
  rw [differsFirst, differsFirst, List.find?_append, List.find?_append]
  cases hknown : known.find? (·.1 = other.1) with
  | some first => rfl
  | none =>
      have hne : entry.1 ≠ other.1 := by
        intro heq
        rw [heq, hknown] at h
        cases h
      rw [List.find?_cons_of_neg (by simpa using hne)]

/-- The first entry for its sample may as well stand in front. -/
theorem differsFirst_of_new (h : known.find? (·.1 = entry.1) = none) :
    differsFirst (known ++ entry :: rest) = differsFirst (entry :: known ++ rest) := by
  funext other
  rw [differsFirst, differsFirst, List.cons_append, List.find?_append]
  by_cases heq : entry.1 = other.1
  · rw [heq] at h
    rw [h, Option.none_or, List.find?_cons_of_pos (by simpa using heq),
      List.find?_cons_of_pos (by simpa using heq)]
  · rw [List.find?_cons_of_neg (by simpa using heq), List.find?_cons_of_neg (by simpa using heq),
      List.find?_append]

/-- Going through the entries once, with the first for each sample kept, counts those that differ
from the first. -/
theorem inconsistent_eq_countP (known : List Entry) {entries : List Entry}
    (h : ∀ e ∈ entries, HasDistinctNames (.obj e.2)) :
    inconsistent known entries = entries.countP (differsFirst (known ++ entries)) := by
  -- What is known and what is to come have the same first entry for each sample in every round.
  induction entries generalizing known with
  | nil => rfl
  | cons entry rest ih =>
      obtain ⟨hentry, hrest⟩ := List.forall_mem_cons.mp h
      rw [inconsistent, List.countP_cons]
      cases hknown : known.find? (·.1 = entry.1) with
      | some first =>
          obtain ⟨sample, verdict⟩ := first
          have hdiffers : differsFirst (known ++ rest) entry =
              !same (.obj verdict) (.obj entry.2) := by
            rw [differsFirst, List.find?_append, hknown]
            rfl
          rw [differsFirst_of_known (by rw [hknown]; rfl), hdiffers, ← ih known hrest, Nat.add_comm]
          simp only
          cases same (.obj verdict) (.obj entry.2) <;> rfl
      | none =>
          -- The first entry for its sample is compared with itself.
          have hdiffers : differsFirst (entry :: known ++ rest) entry = false := by
            rw [differsFirst, List.cons_append, List.find?_cons_of_pos (by simp), Option.any_some,
              same_refl hentry]
            rfl
          rw [differsFirst_of_new hknown, hdiffers, ← ih (entry :: known) hrest]
          rfl

end Inconsistent

/-! ### Entries and requests -/

section Requests

variable {replyTo : Nat → Reply} {i j first other n : Nat}

theorem verdictAt_eq_some_iff {verdict : List (Text × Json)} :
    verdictAt replyTo i = some verdict ↔ findingAt replyTo i = .ok (.success verdict) := by
  rw [verdictAt]
  cases findingAt replyTo i with
  | error _ => simp [Except.toOption]
  | ok finding => cases finding <;> simp [Except.toOption, Finding.verdict?]

theorem hasDistinctNames_verdictAt {verdict : List (Text × Json)}
    (h : verdictAt replyTo i = some verdict) : HasDistinctNames (.obj verdict) :=
  hasDistinctNames_verdict (Reply.hasDistinctNames_value _ _) (verdictAt_eq_some_iff.mp h)

theorem IsFirstLike.unique (h : IsFirstLike replyTo i first) (h' : IsFirstLike replyTo i other) :
    first = other := by
  rcases Nat.lt_trichotomy first other with hlt | heq | hlt
  · exact absurd h.success (by rw [h'.least _ hlt h.sample]; exact Bool.false_ne_true)
  · exact heq
  · exact absurd h'.success (by rw [h.least _ hlt h'.sample]; exact Bool.false_ne_true)

theorem IsFirstLike.congr (h : IsFirstLike replyTo i first) (hij : sampleAt i = sampleAt j) :
    IsFirstLike replyTo j first :=
  ⟨h.sample.trans hij, h.success, fun k hk hsample => h.least k hk (hsample.trans hij.symm)⟩

theorem IsFirstLike.le (h : IsFirstLike replyTo i first)
    (hi : (verdictAt replyTo i).isSome = true) : first ≤ i := by
  refine Nat.le_of_not_lt fun hlt => ?_
  rw [h.least i hlt rfl] at hi
  cases hi

/-- A successful request has a first one like it, maybe itself. -/
theorem exists_isFirstLike (h : (verdictAt replyTo i).isSome = true) :
    ∃ first, IsFirstLike replyTo i first := by
  have hexists : ∃ j, sampleAt j = sampleAt i ∧ (verdictAt replyTo j).isSome = true := ⟨i, rfl, h⟩
  obtain ⟨hsample, hsuccess⟩ := Nat.find_spec hexists
  refine ⟨Nat.find hexists, hsample, hsuccess, ?_⟩
  intro j hj hlike
  rw [← Bool.not_eq_true]
  exact fun hsome => Nat.find_min hexists hj ⟨hlike, hsome⟩

variable (replyTo)

/-- The entry that a successful request brings. -/
def entryAt (i : Nat) : Option Entry := (verdictAt replyTo i).map (sampleAt i, ·)

/-- The entries of so many requests, in their order. -/
def entries (n : Nat) : List Entry := (List.range n).filterMap (entryAt replyTo)

variable {replyTo}

theorem hasDistinctNames_entries : ∀ e ∈ entries replyTo n, HasDistinctNames (.obj e.2) := by
  intro e he
  obtain ⟨i, -, hi⟩ := List.mem_filterMap.mp he
  obtain ⟨verdict, hverdict, rfl⟩ := Option.map_eq_some_iff.mp hi
  exact hasDistinctNames_verdictAt hverdict

theorem any_entryAt {s : Sample} : (entryAt replyTo i).any (·.1 = s) =
    (decide (sampleAt i = s) && (verdictAt replyTo i).isSome) := by
  rw [entryAt]
  cases verdictAt replyTo i <;> simp

/-- The first entry for a sample is that of the first successful request with it. -/
theorem find?_entries (h : IsFirstLike replyTo i first) (hfirst : first < n) :
    (entries replyTo n).find? (·.1 = sampleAt i) = entryAt replyTo first := by
  have hfind : (List.range n).find? (fun j => (entryAt replyTo j).any (·.1 = sampleAt i)) =
      some first := by
    rw [List.find?_range_eq_some]
    refine ⟨?_, List.mem_range.mpr hfirst, fun j hj => ?_⟩
    · rw [any_entryAt, h.success, decide_eq_true h.sample]
      rfl
    · rw [any_entryAt]
      by_cases hsample : sampleAt j = sampleAt i
      · rw [h.least j hj hsample, Bool.and_false]
        rfl
      · rw [decide_eq_false hsample]
        rfl
  rw [entries, List.find?_filterMap, hfind]
  rfl

theorem differsFirst_iff (hi : i < n) {entry : Entry} (hentry : entryAt replyTo i = some entry) :
    differsFirst (entries replyTo n) entry = true ↔ Dissents replyTo i := by
  obtain ⟨v, hv, rfl⟩ := Option.map_eq_some_iff.mp hentry
  have hsuccess : (verdictAt replyTo i).isSome = true := by
    rw [hv]
    rfl
  obtain ⟨first, hfirst⟩ := exists_isFirstLike hsuccess
  obtain ⟨u, hu⟩ := Option.isSome_iff_exists.mp hfirst.success
  have hle := hfirst.le hsuccess
  have hdiffers : differsFirst (entries replyTo n) (sampleAt i, v) = !same (.obj u) (.obj v) := by
    rw [differsFirst, find?_entries hfirst (hle.trans_lt hi), entryAt, hu]
    rfl
  rw [hdiffers, Bool.not_eq_true']
  constructor
  · exact fun hsame => ⟨first, hle, hfirst, u, hu, v, hv, hsame⟩
  · rintro ⟨other, -, hother, u', hu', v', hv', hsame⟩
    obtain rfl := hfirst.unique hother
    obtain rfl := Option.some.inj (hu.symm.trans hu')
    obtain rfl := Option.some.inj (hv.symm.trans hv')
    exact hsame

/-- The entries that differ from the first for their sample are those of the requests that
dissent. -/
theorem countP_differsFirst (n : Nat) :
    (entries replyTo n).countP (differsFirst (entries replyTo n)) =
      (List.range n).countP fun i => Dissents replyTo i := by
  conv_lhs => rw [entries, List.countP_filterMap]
  refine List.countP_congr fun i hi => ?_
  rw [decide_eq_true_eq]
  cases hentry : entryAt replyTo i with
  | some entry => exact differsFirst_iff (List.mem_range.mp hi) hentry
  | none =>
      refine iff_of_false Bool.false_ne_true ?_
      rintro ⟨_, -, -, _, _, v, hv, -⟩
      rw [entryAt, Option.map_eq_none_iff] at hentry
      rw [hentry] at hv
      cases hv

theorem same_of_not_dissents (h : ¬ Dissents replyTo i) (hfirst : IsFirstLike replyTo i first)
    {u v : List (Text × Json)} (hu : verdictAt replyTo first = some u)
    (hv : verdictAt replyTo i = some v) : same (.obj u) (.obj v) = true := by
  rw [← Bool.not_eq_false]
  have hle := hfirst.le (Option.isSome_iff_exists.mpr ⟨v, hv⟩)
  exact fun hsame => h ⟨first, hle, hfirst, u, hu, v, hv, hsame⟩

/-- No request dissents if and only if all with the same sample agree, as each agrees with the
first. -/
theorem forall_not_dissents_iff : (∀ i < n, ¬ Dissents replyTo i) ↔
    ∀ i < n, ∀ j < n, sampleAt i = sampleAt j → ∀ u ∈ verdictAt replyTo i,
      ∀ v ∈ verdictAt replyTo j, same (.obj u) (.obj v) = true := by
  constructor
  · intro h i hi j hj hsample u hu v hv
    obtain ⟨first, hfirst⟩ := exists_isFirstLike (Option.isSome_iff_exists.mpr ⟨u, hu⟩)
    obtain ⟨w, hw⟩ := Option.isSome_iff_exists.mp hfirst.success
    have hwu := same_of_not_dissents (h i hi) hfirst hw hu
    have hwv := same_of_not_dissents (h j hj) (hfirst.congr hsample) hw hv
    have hdistinctW := hasDistinctNames_verdictAt hw
    have hdistinctU := hasDistinctNames_verdictAt hu
    exact same_trans hdistinctU hdistinctW (hasDistinctNames_verdictAt hv)
      (same_symm hdistinctW hdistinctU hwu) hwv
  · rintro h i hi ⟨first, hle, hfirst, u, hu, v, hv, hsame⟩
    rw [h first (hle.trans_lt hi) i hi hfirst.sample u hu v hv] at hsame
    cases hsame

end Requests

/-! ### The run -/

section Run

variable {replyTo : Nat → Reply} {n : Nat} {found : Nat → Finding}

theorem findingsOf_map (indices : List Nat)
    (h : ∀ i ∈ indices, findingAt replyTo i = .ok (found i)) :
    findingsOf (indices.map fun i => (replyTo i).value (sampleAt i)) =
      (indices.map found, none) := by
  induction indices with
  | nil => rfl
  | cons i indices ih =>
      obtain ⟨hi, hrest⟩ := List.forall_mem_cons.mp h
      rw [findingAt] at hi
      rw [List.map_cons, findingsOf, hi, ih hrest]
      rfl

theorem verdictsFrom_map (found : Nat → Finding) (start count : Nat) :
    verdictsFrom start ((List.range' start count).map found) =
      (List.range' start count).filterMap fun i => (found i).verdict?.map (sampleAt i, ·) := by
  induction count generalizing start with
  | zero => rfl
  | succ count ih =>
      rw [List.range'_succ, List.map_cons, List.filterMap_cons, ← ih]
      cases found start <;> rfl

theorem countsOf_map (h : ∀ i < n, findingAt replyTo i = .ok (found i)) :
    countsOf ((List.range n).map found) =
      { successful := (List.range n).countP fun i => (verdictAt replyTo i).isSome
        failed := (List.range n).countP fun i => !(verdictAt replyTo i).isSome
        inconsistent := (List.range n).countP fun i => Dissents replyTo i } := by
  have hverdict : ∀ i ∈ List.range n, verdictAt replyTo i = (found i).verdict? := by
    intro i hi
    rw [verdictAt, h i (List.mem_range.mp hi)]
    rfl
  have hentries : verdictsFrom 0 ((List.range n).map found) = entries replyTo n := by
    rw [List.range_eq_range', verdictsFrom_map, ← List.range_eq_range', entries]
    refine List.filterMap_congr fun i hi => ?_
    rw [entryAt, hverdict i hi]
  rw [countsOf, hentries, inconsistent_eq_countP [] hasDistinctNames_entries, List.nil_append,
    countP_differsFirst, List.countP_map, List.countP_map]
  congr 1
  · refine List.countP_congr fun i hi => ?_
    rw [Function.comp_apply, Finding.isSuccess_eq, hverdict i hi]
  · refine List.countP_congr fun i hi => ?_
    rw [Function.comp_apply, Finding.isSuccess_eq, hverdict i hi]

/-- Where every request raises or brings an answer, each has its finding. -/
theorem exists_found (h : ∀ i < n, (∃ f message, replyTo i = .fault f message) ∨
    IsAnswer ((replyTo i).value (sampleAt i))) :
    ∃ found : Nat → Finding, ∀ i < n, findingAt replyTo i = .ok (found i) := by
  refine ⟨fun i => (findingAt replyTo i).toOption.getD .refused, fun i hi => ?_⟩
  have hanswer : IsAnswer ((replyTo i).value (sampleAt i)) := by
    rcases h i hi with ⟨f, message, hfault⟩ | hanswer
    · rw [hfault]
      exact isAnswer_errorValue _
    · exact hanswer
  obtain ⟨finding, hfinding⟩ := Finding.exists_ofJson_eq hanswer
  have hat : findingAt replyTo i = .ok finding := hfinding
  simp only [hat]
  rfl

/-- With a finding for every request the check comes to its end. -/
theorem run_eq_of_found (timing : Timing) (h : ∀ i < n, findingAt replyTo i = .ok (found i)) :
    run n replyTo timing =
      { output := printed (opening n ++ (List.range n).map (fun i => row timing i (found i)) ++
          closing n timing ((List.range n).map found))
        mishap := none } := by
  have hfindings := findingsOf_map (List.range n) fun i hi => h i (List.mem_range.mp hi)
  have hrows : ((List.range n).map found).zipIdx.map (fun f => row timing f.2 f.1) =
      (List.range n).map fun i => row timing i (found i) := by
    apply List.ext_getElem <;> simp
  rw [run, Int.toNat_natCast, hfindings, ← hrows]
  rfl

/-- **The counts of the check.** When every request raises or brings an object whose result, if it has
one, is an object, the check comes to its end and prints how many requests were successful and how
many failed, and how many brought another verdict than the first successful one with the same
sample: none if and only if any two verdicts about one sample are the same. -/
theorem verdicts_counted (n : Nat) (replyTo : Nat → Reply) (timing : Timing)
    (h : ∀ i < n, (∃ f message, replyTo i = .fault f message) ∨
      IsAnswer ((replyTo i).value (sampleAt i))) :
    (run n replyTo timing).mishap = none ∧
      ∃ found counts, (∀ i < n, findingAt replyTo i = .ok (found i)) ∧
        (run n replyTo timing).output =
          printed (opening n ++ (List.range n).map (fun i => row timing i (found i)) ++ [[]] ++
            tally n counts ++ timing.lines n ((List.range n).map found) ++ [rule '=']) ∧
        counts.successful = (List.range n).countP (fun i => (verdictAt replyTo i).isSome) ∧
        counts.successful + counts.failed = n ∧
        counts.inconsistent = (List.range n).countP (fun i => Dissents replyTo i) ∧
        (counts.inconsistent = 0 ↔
          ∀ i < n, ∀ j < n, sampleAt i = sampleAt j → ∀ u ∈ verdictAt replyTo i,
            ∀ v ∈ verdictAt replyTo j, same (.obj u) (.obj v) = true) := by
  obtain ⟨found, hfound⟩ := exists_found h
  have hcounts := countsOf_map hfound
  rw [run_eq_of_found timing hfound]
  refine ⟨rfl, found, countsOf ((List.range n).map found), hfound, ?_, ?_, ?_, ?_, ?_⟩
  · simp only [closing, List.append_assoc]
  · rw [hcounts]
  · rw [hcounts]
    have hlength : (List.range n).length = _ :=
      List.length_eq_countP_add_countP fun i => (verdictAt replyTo i).isSome
    simp only [List.length_range, Bool.not_eq_true, Bool.decide_eq_false] at hlength
    exact hlength.symm
  · rw [hcounts]
  · rw [hcounts, List.countP_eq_zero, ← forall_not_dissents_iff]
    simp only [List.mem_range, decide_eq_true_eq]

/-- Eleven requests of which two are too slow. The one with the verdict `true` agrees with that of the
first sample, `1.0`, and the last one, with the verdict `2`, does not. -/
theorem verdicts_counted_of_eleven :
    let timing : Timing := { each := fun i => i, total := 1000, total_pos := by decide }
    let verdict i := text (if i = 5 then "true" else if i = 10 then "2" else "1.0")
    let replyTo i := if i % 5 = 1 then .fault .readTimeout (text "slow") else .response
      { status := 200, headers := []
        body := Text.toUtf8 (text "\x7b\"success\":1,\"result\":\x7b\"time\":" ++ verdict i ++
          text "\x7d\x7d") }
    (∀ i < 11, (∃ f message, replyTo i = .fault f message) ∨
      IsAnswer ((replyTo i).value (sampleAt i))) ∧
    (run 11 replyTo timing).mishap = none ∧
      ∃ found counts, (run 11 replyTo timing).output =
          printed (opening 11 ++ (List.range 11).map (fun i => row timing i (found i)) ++ [[]] ++
            tally 11 counts ++ timing.lines 11 ((List.range 11).map found) ++ [rule '=']) ∧
        counts.successful = 9 ∧ counts.failed = 2 ∧ counts.inconsistent = 1 := by
  intro timing verdict replyTo
  have h : ∀ i < 11, (∃ f message, replyTo i = .fault f message) ∨
      IsAnswer ((replyTo i).value (sampleAt i)) := by
    have hanswer : ∀ i < 11, IsAnswer ((replyTo i).value (sampleAt i)) := by decide +kernel
    exact fun i hi => .inr (hanswer i hi)
  obtain ⟨hmishap, found, counts, -, houtput, hsuccessful, hsum, hinconsistent, -⟩ :=
    verdicts_counted 11 replyTo timing h
  have hnine : (List.range 11).countP (fun i => (verdictAt replyTo i).isSome) = 9 := by
    decide +kernel
  have hone : (List.range 11).countP (fun i => Dissents replyTo i) = 1 := by decide +kernel
  rw [hnine] at hsuccessful
  refine ⟨h, hmishap, found, counts, houtput, hsuccessful, ?_, hinconsistent.trans hone⟩
  omega

end Run

end BigO.SelfCheck.Concurrency
