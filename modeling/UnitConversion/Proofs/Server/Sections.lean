import UnitConversion.Proofs.Server.Honoured
import UnitConversion.Server.Console

/-!
# Settings that make an application

Three sections of the settings are opened when an application is created: the settings as a whole, those of all
parts of the server, and those of the unit converter. A section that is left out or stands for nothing counts as
empty, and every other one has to be a mapping. The name of the profile is looked up after the first section and
before the other two, and so is the level of the log, so that of several errors the first in this order is
reported. The level comes from the environment, unless the server is under test.

* `Application.create_of_creation`: when there is an application, and which error there is otherwise.
* `Application.create_of_falsy_parts`: empty sections.
* `Application.respond_plainPath_iff`: the settings with an endpoint for plain conversions.
* `Application.create_decided`: all of this for the profiles of servers in use and under test.
-/

namespace UnitConversion

/-! ## Sections -/

namespace Setting

/-- The setting stands for something and is no mapping, where entries are looked up. -/
def IsMisplaced (s : Setting) : Prop := s.isFalsy = false ∧ s.isMapping = false

/-- What the settings say of the parts of the server. -/
def parts (settings : Setting) : Setting := settings.orEmpty.get "plugins"

/-- What the settings of the parts say of the unit converter. -/
def converterPart (settings : Setting) : Setting :=
  settings.parts.orEmpty.get Manifest.converter.key

variable {s settings : Setting}

theorem orEmpty_of_falsy (h : s.isFalsy = true) : s.orEmpty = .mapping [] := if_pos h

theorem requireMapping_of_misplaced (h : s.IsMisplaced) :
    s.orEmpty.requireMapping = .error ⟨s.kindName⟩ := by
  obtain ⟨hFalsy, hMapping⟩ := h
  simp [orEmpty, requireMapping, hFalsy, hMapping]

theorem requireMapping_of_not_misplaced (h : ¬ s.IsMisplaced) :
    s.orEmpty.requireMapping = .ok s.orEmpty := by
  rw [requireMapping_eq_ok_iff]
  refine ⟨?_, rfl⟩
  cases hFalsy : s.isFalsy with
  | true =>
    rw [orEmpty_of_falsy hFalsy]
    rfl
  | false =>
    have hMapping : s.isMapping = true := by simpa [IsMisplaced, hFalsy] using h
    simpa [orEmpty, hFalsy] using hMapping

theorem mappingAt_of_misplaced {key : Text} (h : (s.get key).IsMisplaced) :
    s.mappingAt key = .error ⟨(s.get key).kindName⟩ := requireMapping_of_misplaced h

theorem mappingAt_of_not_misplaced {key : Text} (h : ¬ (s.get key).IsMisplaced) :
    s.mappingAt key = .ok (s.get key).orEmpty := requireMapping_of_not_misplaced h

theorem not_misplaced_of_falsy (h : s.isFalsy = true) : ¬ s.IsMisplaced := fun hMisplaced => by
  rw [hMisplaced.1] at h
  cases h

theorem wantsPlain_iff : settings.wantsPlain = true ↔
    ∀ asked, settings.converter.get? "legacy_endpoint" = some asked → asked.isFalsy = false := by
  have hDefault := @getD_iff Setting (·.isFalsy = false) (.bool true) rfl
  rw [← hDefault, wantsPlain, Bool.not_eq_true']

/-- Parts that stand for nothing say nothing of the unit converter. -/
theorem falsy_converterPart (h : settings.parts.isFalsy = true) :
    settings.converterPart.isFalsy = true := by
  rw [converterPart, orEmpty_of_falsy h]
  rfl

end Setting

/-! ## Names of profiles -/

namespace Profile

/-- The names that stand for something: the profiles, what is said about them, places of the
installation, and the neutral names. -/
def definedNames : List Text :=
  (["BaseConfig", "TestingConfig", "__doc__", "__file__", "__cached__"] ++ neutralNames).map
    Text.ofString

theorem named_of_undefined {name : Text} (hNonempty : name ≠ []) (hName : name ∉ definedNames)
    (env : Environment) (freshSecret : Text) :
    named env freshSecret name = .error (.unknown name) := by
  simp only [definedNames, List.map_append, List.map_cons, List.map_nil, List.mem_append,
    List.mem_cons, not_or] at hName
  obtain ⟨⟨hBase, hTesting, hAbout, -⟩, hNeutral⟩ := hName
  have hOther : neutralNames.any (name == .ofString ·) = false := by
    rw [List.any_eq_false]
    intro other hMem hEq
    exact hNeutral (List.mem_map.mpr ⟨other, hMem, (beq_iff_eq.mp hEq).symm⟩)
  have hUnsaid : name ≠ about.1 := hAbout
  rw [named, if_neg hTesting, if_neg (by simpa [hNonempty, hOther] using hBase), if_neg hUnsaid]

/-- Servers under test, and those in use with a level that the log knows, have a profile with such a level. -/
theorem exists_named {name : Text} {env : Environment}
    (hName : (name = [] ∧ IsLogLevel env.logLevel) ∨ name = "TestingConfig") (freshSecret : Text) :
    ∃ profile, named env freshSecret name = .ok profile ∧ IsLogLevel profile.logLevel := by
  have hWarning : IsLogLevel "WARNING" := by decide
  rcases hName with ⟨rfl, hLevel⟩ | rfl
  · exact ⟨base env freshSecret, rfl, hLevel⟩
  · exact ⟨testing env freshSecret, rfl, hWarning⟩

theorem checkLogLevel_of_isLogLevel {profile : Profile} (h : IsLogLevel profile.logLevel) :
    profile.checkLogLevel = .ok () := if_pos h

theorem checkLogLevel_of_not_isLogLevel {profile : Profile} (h : ¬ IsLogLevel profile.logLevel) :
    profile.checkLogLevel = .error ⟨profile.logLevel⟩ := if_neg h

end Profile

/-- The summary is all that settings change in a manifest, and only one that stands for something. -/
theorem Manifest.withSummary_eq (m : Manifest) (own : Setting) :
    ∃ summary, m.withSummary own = { m with summary := summary } ∧
      (∀ s, own.get? "summary" = some s → s.isFalsy = false → summary = s) ∧
      ((∀ s, own.get? "summary" = some s → s.isFalsy = true) → summary = m.summary) := by
  unfold withSummary
  split
  · rename_i s hSummary
    cases hFalsy : s.isFalsy with
    | true => exact ⟨m.summary, by simp, by simp [hSummary, hFalsy], fun _ => rfl⟩
    | false => exact ⟨s, by simp, by simp [hSummary], by simp [hSummary, hFalsy]⟩
  · rename_i hNone
    exact ⟨m.summary, rfl, by simp [hNone], fun _ => rfl⟩

/-! ## Creation -/

namespace Application

/-- The application of a profile and settings in which no section is misplaced. -/
def ofSettings (platform : Platform) (profile : Profile) (settings : Setting) : Application where
  platform := platform
  profile := profile
  dispatcher := Standard.dispatcher
  site := settings.site
  manifests := [Manifest.converter.withSummary settings.converter]
  hasPlain := settings.wantsPlain
  decimals := (settings.converter.get? "decimals").getD (.int defaultDecimals)

/-- What becomes of settings and the name of a profile from which an application is to be created. -/
inductive Creation (platform : Platform) (env : Environment) (freshSecret : Text) (settings : Setting) (name : Text) :
    Except CreationError Application → Prop where
  | settingsMisplaced (hSettings : settings.IsMisplaced) :
      Creation platform env freshSecret settings name (.error (.notAMapping settings.kindName))
  | noProfile {e : Profile.NameError} (hSettings : ¬ settings.IsMisplaced)
      (hName : Profile.named env freshSecret name = .error e) :
      Creation platform env freshSecret settings name (.error (.profile e))
  | noLevel {profile : Profile} (hSettings : ¬ settings.IsMisplaced)
      (hName : Profile.named env freshSecret name = .ok profile) (hLevel : ¬ IsLogLevel profile.logLevel) :
      Creation platform env freshSecret settings name (.error (.logLevel ⟨profile.logLevel⟩))
  | partsMisplaced {profile : Profile} (hSettings : ¬ settings.IsMisplaced)
      (hName : Profile.named env freshSecret name = .ok profile) (hLevel : IsLogLevel profile.logLevel)
      (hParts : settings.parts.IsMisplaced) :
      Creation platform env freshSecret settings name (.error (.notAMapping settings.parts.kindName))
  | converterMisplaced {profile : Profile} (hSettings : ¬ settings.IsMisplaced)
      (hName : Profile.named env freshSecret name = .ok profile) (hLevel : IsLogLevel profile.logLevel)
      (hParts : ¬ settings.parts.IsMisplaced) (hConverter : settings.converterPart.IsMisplaced) :
      Creation platform env freshSecret settings name (.error (.notAMapping settings.converterPart.kindName))
  | created {profile : Profile} (hSettings : ¬ settings.IsMisplaced)
      (hName : Profile.named env freshSecret name = .ok profile) (hLevel : IsLogLevel profile.logLevel)
      (hParts : ¬ settings.parts.IsMisplaced) (hConverter : ¬ settings.converterPart.IsMisplaced) :
      Creation platform env freshSecret settings name (.ok (ofSettings platform profile settings))

variable {platform : Platform} {env : Environment} {freshSecret name : Text} {settings : Setting}
  {result : Except CreationError Application} {app : Application}

/-- The case that applies gives the result. -/
theorem create_of_creation (h : Creation platform env freshSecret settings name result) :
    create platform env freshSecret settings name = result := by
  unfold create
  cases h with
  | settingsMisplaced hSettings =>
    rw [Setting.requireMapping_of_misplaced hSettings]
    rfl
  | noProfile hSettings hName =>
    rw [Setting.requireMapping_of_not_misplaced hSettings, hName]
    rfl
  | noLevel hSettings hName hLevel =>
    have hCheck := Profile.checkLogLevel_of_not_isLogLevel hLevel
    rw [Setting.requireMapping_of_not_misplaced hSettings, hName]
    simp only [orNotAMapping, Except.mapError, bind, Except.bind, hCheck]
  | partsMisplaced hSettings hName hLevel hParts =>
    have hCheck := Profile.checkLogLevel_of_isLogLevel hLevel
    have hSection := Setting.mappingAt_of_misplaced hParts
    rw [Setting.requireMapping_of_not_misplaced hSettings, hName]
    simp only [orNotAMapping, Except.mapError, bind, Except.bind, hCheck, hSection]
    rfl
  | converterMisplaced hSettings hName hLevel hParts hConverter =>
    have hCheck := Profile.checkLogLevel_of_isLogLevel hLevel
    have hSection := Setting.mappingAt_of_not_misplaced hParts
    have hOwn := Setting.mappingAt_of_misplaced hConverter
    rw [Setting.parts] at hOwn
    rw [Setting.requireMapping_of_not_misplaced hSettings, hName]
    simp only [orNotAMapping, Except.mapError, bind, Except.bind, hCheck, hSection, hOwn]
    rfl
  | created hSettings hName hLevel hParts hConverter =>
    have hCheck := Profile.checkLogLevel_of_isLogLevel hLevel
    have hSection := Setting.mappingAt_of_not_misplaced hParts
    have hOwn := Setting.mappingAt_of_not_misplaced hConverter
    rw [Setting.parts] at hOwn
    rw [Setting.requireMapping_of_not_misplaced hSettings, hName]
    simp only [orNotAMapping, Except.mapError, bind, Except.bind, hCheck, hSection, hOwn]
    rfl

/-! ## Empty sections -/

theorem create_of_falsy (h : settings.isFalsy = true) :
    create platform env freshSecret settings name = create platform env freshSecret (.mapping []) name := by
  rw [create, Setting.orEmpty_of_falsy h]
  rfl

/-- The unit converter has no settings of its own if its section stands for nothing, or the one that it
would be part of. -/
theorem converter_of_falsy (h : settings.parts.isFalsy = true ∨ settings.converterPart.isFalsy = true) :
    settings.converterPart.isFalsy = true ∧ settings.converter = .mapping [] := by
  have hFalsy : settings.converterPart.isFalsy = true := h.elim Setting.falsy_converterPart id
  exact ⟨hFalsy, Setting.orEmpty_of_falsy hFalsy⟩

theorem ofSettings_of_empty (profile : Profile) (h : settings.converter = .mapping []) :
    ofSettings platform profile settings =
      { ofSettings platform profile (.mapping []) with site := settings.site } := by
  have hEmpty : (Setting.mapping []).converter = .mapping [] := rfl
  simp only [ofSettings, Setting.wantsPlain, h, hEmpty]

/-- Nothing but the settings of the site is left if the other sections stand for nothing. -/
theorem create_of_falsy_parts (hSettings : ¬ settings.IsMisplaced) (hParts : ¬ settings.parts.IsMisplaced)
    (h : settings.parts.isFalsy = true ∨ settings.converterPart.isFalsy = true) :
    create platform env freshSecret settings name =
      (create platform env freshSecret (.mapping []) name).map fun app => { app with site := settings.site } := by
  obtain ⟨hFalsy, hConverter⟩ := converter_of_falsy h
  have hEmpty : ¬ (Setting.mapping []).IsMisplaced := Setting.not_misplaced_of_falsy rfl
  cases hName : Profile.named env freshSecret name with
  | error e =>
    rw [create_of_creation (.noProfile hSettings hName), create_of_creation (.noProfile hEmpty hName)]
    rfl
  | ok profile =>
    by_cases hLevel : IsLogLevel profile.logLevel
    · have hNull : ¬ Setting.null.IsMisplaced := Setting.not_misplaced_of_falsy rfl
      have hOwn : ¬ settings.converterPart.IsMisplaced := Setting.not_misplaced_of_falsy hFalsy
      rw [create_of_creation (.created hSettings hName hLevel hParts hOwn),
        create_of_creation (.created hEmpty hName hLevel hNull hNull), ofSettings_of_empty profile hConverter]
      rfl
    · rw [create_of_creation (.noLevel hSettings hName hLevel), create_of_creation (.noLevel hEmpty hName hLevel)]
      rfl

/-! ## What the settings decide -/

/-- Without a plain endpoint, nothing is at its path. -/
theorem respond_plainPath_of_not_hasPlain {r : Request} (hPlain : app.hasPlain = false)
    (hPath : r.path = plainPath) : app.respond r = .ok unsupported := by
  have hNowhere : ∀ method, ¬ Endpoint.Known false method plainPath := by
    rintro method ⟨e, hLies, -⟩
    rw [← Endpoint.ofPath?_eq_some_iff] at hLies
    cases hLies
  have hSame : betterPath app.platform plainPath = plainPath := app.platform.mergeSlashes_eq plainPath rfl
  have hRoute : route app.platform false r.method plainPath = .nowhere := by
    refine (isRouter_route _ _).unknown (hNowhere _) ?_
    rw [hSame]
    exact hNowhere _
  rw [respond, hPath, hPlain, hRoute]

theorem respond_plainPath_of_hasPlain {r : Request} (hPlain : app.hasPlain = true)
    (hPath : r.path = plainPath) (hMethod : r.method = .get ∨ r.method = .head) :
    app.respond r = app.convertPlain r.queryPayload := by
  have hLies : Endpoint.LiesAt true .plainConversion r.path := by
    rw [hPath]
    exact .plainConversion rfl
  have hKnown : r.method ∈ Endpoint.plainConversion.methods := by
    rcases hMethod with h | h <;> simp [h, Endpoint.methods]
  rw [respond_of_known hPlain hLies hKnown]
  rcases hMethod with h | h <;> simp only [serve, h]

/-- The plain endpoint never says that a method or command is unknown. -/
theorem convertPlain_ne_unsupported (payload : Json) : app.convertPlain payload ≠ .ok unsupported := by
  have hMessage (message : String) (h : message ≠ "Unknown method or command used!") :
      Response.plain 501 message ≠ unsupported := fun hEq => h (congrArg Response.body hEq)
  have hInvalid := hMessage "Invalid value!" (by decide)
  have hUnknown := hMessage "Unknown conversion type!" (by decide)
  have hResult (value : Json) : Response.json 200 value ≠ unsupported := fun h => by
    have hStatus : (200 : Int) = 501 := congrArg Response.status h
    cases hStatus
  unfold convertPlain
  split
  · simp [hInvalid]
  · split
    · simp [hUnknown]
    · split
      · simp
      · split
        · simp
        · simp [hResult]

/-- The plain endpoint answers at its path exactly if the settings ask for it or say nothing of it. -/
theorem respond_plainPath_iff (hCreated : create platform env freshSecret settings name = .ok app) {r : Request}
    (hPath : r.path = plainPath) (hMethod : r.method = .get ∨ r.method = .head) :
    app.respond r = app.convertPlain r.queryPayload ↔
      ∀ asked, settings.converter.get? "legacy_endpoint" = some asked → asked.isFalsy = false := by
  obtain ⟨-, -, hPlain, -⟩ := create_fields hCreated
  rw [← Setting.wantsPlain_iff, ← hPlain]
  cases hServed : app.hasPlain with
  | true => simp [respond_plainPath_of_hasPlain hServed hPath hMethod]
  | false =>
    rw [respond_plainPath_of_not_hasPlain hServed hPath]
    simp [(convertPlain_ne_unsupported r.queryPayload).symm]

/-- A profile is there, its level is known, and so is the first section: the other two decide. -/
theorem create_of_named {profile : Profile} (hSettings : ¬ settings.IsMisplaced)
    (hName : Profile.named env freshSecret name = .ok profile) (hLevel : IsLogLevel profile.logLevel) :
    ((∃ kindName, create platform env freshSecret settings name = .error (.notAMapping kindName)) ↔
      settings.parts.IsMisplaced ∨ settings.converterPart.IsMisplaced) ∧
    (¬ (settings.parts.IsMisplaced ∨ settings.converterPart.IsMisplaced) →
      create platform env freshSecret settings name = .ok (ofSettings platform profile settings)) := by
  by_cases hParts : settings.parts.IsMisplaced
  · simp [create_of_creation (.partsMisplaced hSettings hName hLevel hParts), hParts]
  by_cases hConverter : settings.converterPart.IsMisplaced
  · simp [create_of_creation (.converterMisplaced hSettings hName hLevel hParts hConverter), hConverter]
  · simp [create_of_creation (.created hSettings hName hLevel hParts hConverter), hParts, hConverter]

/-- **Settings that make an application.** Settings that stand for something and are no mapping are refused
first, and then a name that stands for nothing. For servers under test, and for those in use with a level that
the log knows, only a section for the parts or for the unit converter can still be misplaced, and otherwise
there is an application; a level that the log does not know is refused before these sections are looked at.
Without a file, and with sections that stand for nothing, the settings are those of empty sections. An
application has a plain endpoint unless the settings have a value for it that stands for nothing, and its one
manifest has the summary of the settings if that stands for something. -/
theorem create_decided (platform : Platform) (env : Environment) (freshSecret name : Text) (settings : Setting) :
    (settings.IsMisplaced →
      create platform env freshSecret settings name = .error (.notAMapping settings.kindName)) ∧
    (¬ settings.IsMisplaced → name ≠ [] → name ∉ Profile.definedNames →
      create platform env freshSecret settings name = .error (.profile (.unknown name))) ∧
    (¬ settings.IsMisplaced → (name = [] ∧ IsLogLevel env.logLevel) ∨ name = "TestingConfig" →
      ((∃ kindName, create platform env freshSecret settings name = .error (.notAMapping kindName)) ↔
        settings.parts.IsMisplaced ∨ settings.converterPart.IsMisplaced) ∧
      (¬ (settings.parts.IsMisplaced ∨ settings.converterPart.IsMisplaced) →
        ∃ app, create platform env freshSecret settings name = .ok app)) ∧
    (¬ settings.IsMisplaced → name = [] → ¬ IsLogLevel env.logLevel →
      create platform env freshSecret settings name = .error (.logLevel ⟨env.logLevel⟩)) ∧
    (env.lookup (Text.ofString "UNIT_SERVER_LOG_LEVEL") = none → IsLogLevel env.logLevel) ∧
    (∀ read, Console.readSettings read none = .ok (.mapping [])) ∧
    (settings.isFalsy = true →
      create platform env freshSecret settings name = create platform env freshSecret (.mapping []) name) ∧
    (¬ settings.IsMisplaced → ¬ settings.parts.IsMisplaced →
      settings.parts.isFalsy = true ∨ settings.converterPart.isFalsy = true →
      create platform env freshSecret settings name =
        (create platform env freshSecret (.mapping []) name).map
          fun app => { app with site := settings.site }) ∧
    ∀ app, create platform env freshSecret settings name = .ok app →
      (∀ r : Request, r.path = plainPath → r.method = .get ∨ r.method = .head →
        (app.respond r = app.convertPlain r.queryPayload ↔
          ∀ asked, settings.converter.get? "legacy_endpoint" = some asked → asked.isFalsy = false)) ∧
      ∃ summary, app.manifests = [{ Manifest.converter with summary := summary }] ∧
        (∀ s, settings.converter.get? "summary" = some s → s.isFalsy = false → summary = s) ∧
        ((∀ s, settings.converter.get? "summary" = some s → s.isFalsy = true) →
          summary = Manifest.converter.summary) := by
  refine ⟨fun hSettings => create_of_creation (.settingsMisplaced hSettings), ?_, ?_, ?_,
    Environment.isLogLevel_of_unset, fun _ => rfl, create_of_falsy, create_of_falsy_parts, ?_⟩
  · intro hSettings hNonempty hName
    have hUnknown := Profile.named_of_undefined hNonempty hName env freshSecret
    exact create_of_creation (.noProfile hSettings hUnknown)
  · intro hSettings hName
    obtain ⟨profile, hProfile, hLevel⟩ := Profile.exists_named hName freshSecret
    obtain ⟨hError, hCreated⟩ := create_of_named hSettings hProfile hLevel
    exact ⟨hError, fun hUsable => ⟨_, hCreated hUsable⟩⟩
  · rintro hSettings rfl hLevel
    have hProfile : Profile.named env freshSecret [] = .ok (Profile.base env freshSecret) := rfl
    exact create_of_creation (.noLevel hSettings hProfile hLevel)
  · intro app hCreated
    refine ⟨fun r hPath hMethod => respond_plainPath_iff hCreated hPath hMethod, ?_⟩
    obtain ⟨-, hManifests, -, -⟩ := create_fields hCreated
    obtain ⟨summary, hChanged, hSummary⟩ := Manifest.converter.withSummary_eq settings.converter
    rw [hManifests, hChanged]
    exact ⟨summary, rfl, hSummary⟩

end Application

namespace Standard

/-- Settings without a plain endpoint, and with a summary. -/
def laboratorySettings : Setting :=
  .mapping
    [(.text "plugins", .mapping
      [(.text Manifest.converter.key, .mapping
        [(.text "legacy_endpoint", .bool false), (.text "summary", .text "Weights of the laboratory")])])]

/-- An environment with a level that no log has. -/
def verboseEnvironment : Environment := [("UNIT_SERVER_LOG_LEVEL", "verbose")]

/-- A list is refused before an unknown profile is, and that before a list for the parts; so is a level that the log
does not know, unless the server is under test. -/
theorem create_laboratorySettings :
    Application.create platform verboseEnvironment [] (.list [.int 1]) "Staging" = .error (.notAMapping "list") ∧
    Application.create platform verboseEnvironment [] (.mapping [(.text "plugins", .list [.int 1])]) "Staging" =
      .error (.profile (.unknown "Staging")) ∧
    Application.create platform verboseEnvironment [] (.mapping [(.text "plugins", .list [.int 1])]) [] =
      .error (.logLevel ⟨"VERBOSE"⟩) ∧
    (∃ kindName, Application.create platform verboseEnvironment [] (.mapping [(.text "plugins", .list [.int 1])])
      "TestingConfig" = .error (.notAMapping kindName)) ∧
    ∃ app, Application.create platform [] [] laboratorySettings [] = .ok app ∧
      app.respond (plainRequest "from=g&to=g&value=1") ≠
        app.convertPlain (plainRequest "from=g&to=g&value=1").queryPayload ∧
      app.manifests =
        [{ Manifest.converter with summary := .text "Weights of the laboratory" }] := by
  obtain ⟨hList, -⟩ := Application.create_decided platform verboseEnvironment [] "Staging" (.list [.int 1])
  obtain ⟨-, hUnknown, -⟩ :=
    Application.create_decided platform verboseEnvironment [] "Staging" (.mapping [(.text "plugins", .list [.int 1])])
  obtain ⟨-, -, -, hLevel, -⟩ :=
    Application.create_decided platform verboseEnvironment [] [] (.mapping [(.text "plugins", .list [.int 1])])
  obtain ⟨-, -, hParts, -⟩ := Application.create_decided platform verboseEnvironment [] "TestingConfig"
    (.mapping [(.text "plugins", .list [.int 1])])
  obtain ⟨-, -, hUsable, -, hUnset, -, -, -, hDecided⟩ :=
    Application.create_decided platform [] [] [] laboratorySettings
  have hMapping {s : Setting} (h : s.isMapping = true) : ¬ s.IsMisplaced := fun hMisplaced => by
    rw [hMisplaced.2] at h
    cases h
  have hVerbose : verboseEnvironment.logLevel = "VERBOSE" := by rfl
  refine ⟨hList ⟨rfl, rfl⟩, hUnknown (hMapping rfl) (by decide) (by decide +kernel), ?_, ?_, ?_⟩
  · rw [← hVerbose]
    exact hLevel (hMapping rfl) rfl (by rw [hVerbose]; decide)
  · exact (hParts (hMapping rfl) (Or.inr rfl)).1.mpr (Or.inl ⟨rfl, rfl⟩)
  · obtain ⟨app, hCreated⟩ := (hUsable (hMapping rfl) (Or.inl ⟨rfl, hUnset rfl⟩)).2
      (by rintro (h | h) <;> exact hMapping rfl h)
    obtain ⟨hServed, summary, hManifests, hSummary, -⟩ := hDecided app hCreated
    refine ⟨app, hCreated, ?_, ?_⟩
    · intro hPlain
      obtain ⟨hPath, hMethod⟩ := isPlain_plainRequest "from=g&to=g&value=1"
      have hAsked := (hServed _ hPath (Or.inl hMethod)).mp hPlain (.bool false) rfl
      cases hAsked
    · rw [hManifests, hSummary _ rfl rfl]

end Standard

end UnitConversion
