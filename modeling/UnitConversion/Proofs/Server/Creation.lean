import UnitConversion.Proofs.Conversion.Transforms
import UnitConversion.Server.Application

/-!
# What the creation of an application establishes

An application that was created has the built-in dispatcher and one of the profiles, whatever its
settings are.

* `bind_eq_ok_iff`: a chain of steps succeeds exactly if each step does in turn.
* `Profile.bodyLimit_of_named`: every profile reads bodies up to the same length.
* `Application.create_ok`: the dispatcher and the profile of an application.
* `Application.create_defaultSettings`: the default settings make an application.
* `Standard.serves`: the built-in dispatcher serves the built-in catalog.
-/

namespace UnitConversion

/-! ## Chains of steps that succeed -/

section Steps

variable {ε ε' α β : Type}

@[simp]
theorem bind_eq_ok_iff {x : Except ε α} {f : α → Except ε β} {b : β} :
    x >>= f = .ok b ↔ ∃ a, x = .ok a ∧ f a = .ok b := by
  cases x <;> simp [bind, Except.bind]

@[simp]
theorem map_eq_ok_iff {x : Except ε α} {f : α → β} {b : β} :
    f <$> x = .ok b ↔ ∃ a, x = .ok a ∧ f a = b := by
  cases x <;> simp [Functor.map, Except.map]

@[simp]
theorem pure_eq_ok_iff {a b : α} : (pure a : Except ε α) = .ok b ↔ a = b := by
  simp [pure, Except.pure]

@[simp]
theorem mapError_eq_ok_iff {x : Except ε α} {f : ε → ε'} {a : α} :
    x.mapError f = .ok a ↔ x = .ok a := by
  cases x <;> simp [Except.mapError]

end Steps

@[simp]
theorem requireMapping_eq_ok_iff {s mapping : Setting} :
    s.requireMapping = .ok mapping ↔ s.isMapping = true ∧ s = mapping := by
  unfold Setting.requireMapping
  cases s.isMapping <;> simp

/-! ## Applications -/

/-- Every profile reads bodies up to the same length. -/
theorem Profile.bodyLimit_of_named {env : Environment} {freshSecret name : Text} {profile : Profile}
    (h : named env freshSecret name = .ok profile) : profile.bodyLimit = 64 * 1024 := by
  unfold named at h
  split at h
  · cases h
    rfl
  · split at h
    · cases h
      rfl
    · split at h
      · cases h
      · cases h

/-- The profile without a name is that of a server in use. -/
theorem Profile.underTest_of_unnamed {env : Environment} {freshSecret : Text} {profile : Profile}
    (h : named env freshSecret [] = .ok profile) : profile.underTest = false := by
  cases h
  rfl

/-- The level is one that the log knows when none is set. -/
theorem Environment.isLogLevel_of_unset {env : Environment}
    (hUnset : env.lookup (Text.ofString "UNIT_SERVER_LOG_LEVEL") = none) : IsLogLevel env.logLevel := by
  rw [logLevel, hUnset]
  decide +kernel

namespace Application

variable {platform : Platform} {env : Environment} {freshSecret profileName : Text} {settings : Setting}
  {app : Application}

/-- An application has the built-in dispatcher and the profile of the given name. -/
theorem create_ok (h : create platform env freshSecret settings profileName = .ok app) :
    app.dispatcher = Standard.dispatcher ∧
      Profile.named env freshSecret profileName = .ok app.profile := by
  simp only [create, orNotAMapping, bind_eq_ok_iff, mapError_eq_ok_iff, pure_eq_ok_iff] at h
  obtain ⟨mapping, -, profile, hProfile, -, -, parts, -, own, -, rfl⟩ := h
  refine ⟨?_, hProfile⟩
  dsimp only

/-- An application runs on the platform that it was created on. -/
theorem platform_of_create (h : create platform env freshSecret settings profileName = .ok app) :
    app.platform = platform := by
  simp only [create, orNotAMapping, bind_eq_ok_iff, mapError_eq_ok_iff, pure_eq_ok_iff] at h
  obtain ⟨mapping, -, profile, -, -, -, parts, -, own, -, rfl⟩ := h
  rfl

/-- What an application takes from its settings. -/
theorem create_settings (h : create platform env freshSecret settings profileName = .ok app) :
    ∃ parts own, settings.orEmpty.mappingAt "plugins" = .ok parts ∧
      parts.mappingAt Manifest.converter.key = .ok own ∧
      app.site = (settings.orEmpty.get "site").orEmpty ∧
      app.manifests = [Manifest.converter.withSummary own] ∧
      app.hasPlain = !((own.get? "legacy_endpoint").getD (.bool true)).isFalsy ∧
      app.decimals = (own.get? "decimals").getD (.int defaultDecimals) := by
  simp only [create, orNotAMapping, bind_eq_ok_iff, mapError_eq_ok_iff, pure_eq_ok_iff,
    requireMapping_eq_ok_iff] at h
  obtain ⟨mapping, ⟨-, rfl⟩, profile, -, -, -, parts, hParts, own, hOwn, rfl⟩ := h
  exact ⟨parts, own, hParts, hOwn, rfl, rfl, rfl, rfl⟩

/-- The default settings have a plain endpoint, with six decimals. -/
theorem plain_of_defaultSettings (h : create platform env freshSecret defaultSettings profileName = .ok app) :
    app.hasPlain = true ∧ app.decimals.integer = .ok 6 := by
  obtain ⟨parts, own, hParts, hOwn, -, -, hPlain, hDecimals⟩ := create_settings h
  cases hParts
  cases hOwn
  refine ⟨hPlain, ?_⟩
  rw [hDecimals]
  rfl

/-- Under the default settings there is an application in every environment with a level that the log knows. -/
theorem create_defaultSettings (platform : Platform) (hLevel : IsLogLevel env.logLevel) (freshSecret : Text) :
    ∃ app, create platform env freshSecret defaultSettings [] = .ok app := by
  have hCheck : (Profile.base env freshSecret).checkLogLevel = .ok () := if_pos hLevel
  have hName : Profile.named env freshSecret [] = .ok (Profile.base env freshSecret) := rfl
  rw [create, hName]
  simp only [Except.mapError, bind, Except.bind, hCheck]
  exact ⟨_, rfl⟩

end Application

namespace Standard

/-- The default settings make an application when nothing is set in the environment. -/
theorem exists_application :
    ∃ app, Application.create platform [] [] Application.defaultSettings [] = .ok app :=
  Application.create_defaultSettings platform (Environment.isLogLevel_of_unset rfl) []

/-- The built-in dispatcher serves the built-in catalog. -/
theorem serves : ∃ r, dispatcher.Serves catalog r := by
  obtain ⟨r, hBuild⟩ := build_dispatcher
  exact ⟨r, Dispatcher.build_ok hBuild⟩

/-- No two groups of the built-in catalog have the same quantity. -/
theorem nodup_quantities : (catalog.map (·.quantity)).Nodup := by decide

end Standard

end UnitConversion
