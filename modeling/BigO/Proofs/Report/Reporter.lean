import BigO.Proofs.Provider.Exchange
import BigO.Proofs.Provider.Request
import BigO.Report.Reporter

/-! What a reporter keeps between its steps: the provider that its configuration describes, with a
client that was opened for it, or none. -/

namespace BigO

/-- There is a key, and there is a model. -/
def ProviderConfig.IsValid (config : ProviderConfig) : Prop :=
  (∃ key, config.apiKey = some key ∧ key ≠ []) ∧ config.models ≠ []

namespace Provider

theorem build_eq_ok {config : ProviderConfig} {p : Provider} (h : build config = .ok p) :
    config.apiKey = some p.apiKey ∧ config.models = p.models ∧
      config.maxTokens = p.maxTokens ∧ config.temperature = p.temperature := by
  rw [build] at h
  split at h
  case h_1 => cases h
  case h_2 key hkey =>
    split at h
    case isTrue => cases h
    case isFalse =>
      split at h
      case isTrue => cases h
      case isFalse =>
        cases h
        exact ⟨hkey, rfl, rfl, rfl⟩

/-- Providers can be built from valid configurations, and from no others. -/
theorem build_isOk_iff {config : ProviderConfig} :
    (∃ p, build config = .ok p) ↔ config.IsValid := by
  constructor
  · rintro ⟨p, hp⟩
    obtain ⟨hkey, hmodels, -⟩ := build_eq_ok hp
    exact ⟨⟨p.apiKey, hkey, p.apiKey_ne_nil⟩, hmodels ▸ p.models_ne_nil⟩
  · rintro ⟨⟨key, hkey, hne⟩, hmodels⟩
    rw [build, hkey]
    simp only [hne, hmodels, dite_false]
    exact ⟨_, rfl⟩

end Provider

namespace Reporter

/-- A reporter keeps nothing but the provider of its configuration, and a client that was opened for
this provider. -/
structure Kept (r : Reporter) : Prop where
  build_eq : ∀ p, r.provider = some p → Provider.build r.config = .ok p
  serves : ∀ p, r.provider = some p → r.client.Serves p.authorization

variable {r : Reporter} {p : Provider} {code language : Text}

theorem kept_of_provider_eq_none (h : r.provider = none) : r.Kept where
  build_eq p hp := by rw [h] at hp; cases hp
  serves p hp := by rw [h] at hp; cases hp

/-- A new reporter. -/
theorem kept_new (config : ProviderConfig) : ({ config } : Reporter).Kept :=
  kept_of_provider_eq_none rfl

/-- A step with a report needs a provider. Where one can be built, the reporter has it afterwards,
and it has tried to build one if it had none. -/
theorem Kept.report_eq (h : r.Kept) (hbuild : Provider.build r.config = .ok p)
    (code language : Text) :
    ∃ client, client.Serves p.authorization ∧
      r.report code language = (reportWith p code language,
        { r with
          provider := some p, client
          constructions := r.constructions + if r.provider.isNone then 1 else 0 }) := by
  obtain ⟨config, provider, client, constructions⟩ := r
  cases provider with
  | some kept =>
    have hkept : Provider.build config = .ok kept := h.build_eq kept rfl
    rw [show Provider.build config = .ok p from hbuild] at hkept
    cases hkept
    exact ⟨client, h.serves p rfl, rfl⟩
  | none =>
    refine ⟨.absent, Client.serves_absent _, ?_⟩
    simp only [report, provider?, hbuild, Option.isNone_none, if_true]

/-- Where none can be built, the report tells that, and each report is an attempt at building one.
-/
theorem Kept.report_eq_of_build_error (h : r.Kept) {fault : ConfigurationFault}
    (hbuild : Provider.build r.config = .error fault) (code language : Text) :
    r.provider = none ∧
      r.report code language =
        (Exchange.log (.reporter .warning (text "AI provider not configured: " ++ fault.message))
          >>= fun _ => pure (Report.keyMissing language),
          { r with constructions := r.constructions + 1 }) := by
  cases hprovider : r.provider with
  | some kept =>
    have hkept := h.build_eq kept hprovider
    rw [hbuild] at hkept
    cases hkept
  | none =>
    refine ⟨rfl, ?_⟩
    simp only [report, provider?, hprovider, hbuild]

end Reporter

end BigO
