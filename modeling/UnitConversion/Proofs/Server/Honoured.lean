import UnitConversion.Proofs.Server.Paths
import UnitConversion.Proofs.Server.PlainQueries

/-!
# Settings that are honoured

Most settings are not looked at before a request needs them. The home page needs the settings of the site to be
a mapping, and a title and a summary with a JSON form that there is room for; the plain endpoint needs a number
of decimals that is neither negative nor too large. These are the settings with which neither of them ever fails
(`Setting.IsHonoured`).

* `home_eq_ok_iff`: what the home page needs.
* `respond_of_isPlaces`, `isPlaces_of_respond`: what the plain endpoint needs.
* `answered_iff_isHonoured`: the settings of applications that answer all requests.
-/

namespace UnitConversion

/-- What holds of a default holds of an optional value if it holds of a value that is there. -/
theorem getD_iff {α : Type} {P : α → Prop} {default : α} (hDefault : P default) (o : Option α) :
    P (o.getD default) ↔ ∀ a, o = some a → P a := by
  cases o with
  | none => simp [hDefault]
  | some a => simp

/-! ## Settings -/

namespace Setting

/-- The setting has a JSON form with at most so many collections inside of each other. -/
def IsDescribable (room : Nat) (s : Setting) : Prop := ∃ j, s.toJson room = .ok j

/-- The setting stands for a number of decimals that results can be written with. -/
def IsPlaces (s : Setting) : Prop := ∃ places, s.integer = .ok places ∧ 0 ≤ places ∧ places < 2 ^ 31

/-- The settings of the site. -/
def site (settings : Setting) : Setting := (settings.orEmpty.get "site").orEmpty

/-- The settings of the unit converter. -/
def converter (settings : Setting) : Setting :=
  ((settings.orEmpty.get "plugins").orEmpty.get Manifest.converter.key).orEmpty

/-- The settings ask for a plain endpoint, or say nothing of it. -/
def wantsPlain (settings : Setting) : Bool :=
  !((settings.converter.get? "legacy_endpoint").getD (.bool true)).isFalsy

/-- All settings that are looked at in answers can be used. The title and the summary stand inside of two and of
four collections of an envelope. -/
structure IsHonoured (platform : Platform) (settings : Setting) : Prop where
  site : settings.site.isMapping = true
  title : ∀ title, settings.site.get? "title" = some title → title.IsDescribable (platform.writingDepth - 2)
  summary : ∀ summary, settings.converter.get? "summary" = some summary → summary.isFalsy = false →
    summary.IsDescribable (platform.writingDepth - 4)
  decimals : settings.wantsPlain = true →
    ∀ decimals, settings.converter.get? "decimals" = some decimals → decimals.IsPlaces

end Setting

/-! ## The home page -/

namespace Manifest

theorem describe_eq_ok_iff (room : Nat) (m : Manifest) :
    (∃ j, m.describe room = .ok j) ↔ m.summary.IsDescribable room := by
  simp [describe, Setting.IsDescribable]

theorem summary_isDescribable_iff (room : Nat) (own : Setting) :
    (converter.withSummary own).summary.IsDescribable room ↔
      ∀ summary, own.get? "summary" = some summary → summary.isFalsy = false →
        summary.IsDescribable room := by
  have hDefault : converter.summary.IsDescribable room := ⟨_, rfl⟩
  unfold withSummary
  split
  · rename_i s hSummary
    cases hFalsy : s.isFalsy <;> simp [hSummary, hFalsy, hDefault]
  · rename_i hNone
    simp [hNone, hDefault]

end Manifest

namespace Application

variable {app : Application}

/-- The home page of a server with one part. -/
theorem home_eq_ok_iff {m : Manifest} (hManifests : app.manifests = [m]) :
    (∃ response, app.home = .ok response) ↔
      app.site.isMapping = true ∧ m.summary.IsDescribable app.summaryRoom ∧
        ((app.site.get? "title").getD (.text defaultTitle)).IsDescribable app.titleRoom := by
  rw [← m.describe_eq_ok_iff app.summaryRoom]
  simp [home, hManifests, Setting.IsDescribable]

theorem status_of_home {response : Response} (h : app.home = .ok response) : response.status = 200 := by
  simp only [home, bind_eq_ok_iff, pure_eq_ok_iff] at h
  obtain ⟨site, -, plugins, -, title, -, rfl⟩ := h
  rfl

/-! ## The plain endpoint -/

/-- The texts that results can be written in with a number of decimals. -/
theorem exists_format_iff {platform : Platform} {x : Binary64} {places : Int} :
    (∃ text, x.format platform { decimals := some places } = .ok text) ↔ 0 ≤ places ∧ places < 2 ^ 31 := by
  rw [Binary64.format_ok_iff, Precision.fault?_eq_none_iff]
  simp [Precision.IsBeyond]

section Plain

variable {r : Request} (hPlain : app.hasPlain = true) (hAsks : r.IsPlain)

include hPlain hAsks

/-- Where there is a result to be written, an answer shows that the decimals can be used. -/
theorem isPlaces_of_respond {x y : Binary64} {response : Response} (hNumber : r.plainNumber? = some x)
    (hResult : app.dispatcher.process r.plainSource r.plainTarget x = some y)
    (hRespond : app.respond r = .ok response) : app.decimals.IsPlaces := by
  rw [respond_plain hPlain hAsks.path hAsks.method, convertPlain,
    Request.ofPayload_of_plainNumber hNumber] at hRespond
  simp only [hResult] at hRespond
  split at hRespond
  · cases hRespond
  · rename_i places hPlaces
    split at hRespond
    · cases hRespond
    · rename_i text hText
      exact ⟨places, hPlaces, exists_format_iff.mp ⟨text, hText⟩⟩

theorem respond_of_isPlaces (hPlaces : app.decimals.IsPlaces) :
    ∃ response, app.respond r = .ok response ∧ response.status ≠ 500 := by
  obtain ⟨places, hInteger, hNonneg, hSmall⟩ := hPlaces
  rcases respond_plainQuery hPlain hInteger hNonneg hSmall hAsks with
    ⟨-, hRespond⟩ | ⟨x, -, -, hRespond⟩ | ⟨x, y, text, -, -, -, hRespond⟩
  · exact ⟨_, hRespond, (by decide : (501 : Int) ≠ 500)⟩
  · exact ⟨_, hRespond, (by decide : (501 : Int) ≠ 500)⟩
  · exact ⟨_, hRespond, (by decide : (200 : Int) ≠ 500)⟩

end Plain

end Application

/-- A request that every plain endpoint has a result for. -/
def Standard.gramRequest : Request := plainRequest "from=g&to=g&value=1"

theorem Standard.process_gramRequest : ∃ x, gramRequest.plainNumber? = some x ∧
    dispatcher.process gramRequest.plainSource gramRequest.plainTarget x = some x := by
  obtain ⟨registry, hServes⟩ := serves
  obtain ⟨x, hNumber⟩ : ∃ x, gramRequest.plainNumber? = some x :=
    Option.isSome_iff_exists.mp (by decide +kernel)
  have hSource : gramRequest.plainSource = "g" := by decide +kernel
  have hTarget : gramRequest.plainTarget = "g" := by decide +kernel
  refine ⟨x, hNumber, ?_⟩
  rw [hSource, hTarget]
  exact hServes.process_self (by decide) x

/-! ## Requests that never fail -/

namespace Application

variable {app : Application}

/-- A request is answered without an internal error exactly if the endpoint does so. -/
theorem handle_answers_iff {r : Request} (freshId : Text) :
    (∃ sent, app.handle freshId r = .ok sent ∧ sent.status ≠ 500) ↔
      ∃ response, app.respond r = .ok response ∧ response.status ≠ 500 := by
  unfold handle
  cases app.respond r with
  | ok response => simp [finish_status]
  | error e =>
    cases app.profile.underTest with
    | true => simp
    | false =>
      have hInternal : (Response.failure e.report).status = 500 := rfl
      simp [finish_status, hInternal]

theorem respond_home {r : Request} (hPath : r.path = "/".toList)
    (hMethod : r.method = .get ∨ r.method = .head) : app.respond r = app.home := by
  have hRoute : route app.platform app.hasPlain r.method "/".toList = .endpoint .home := by
    rcases hMethod with hGet | hHead
    · rw [hGet]
      rfl
    · rw [hHead]
      rfl
  unfold respond
  rw [hPath, hRoute]
  rcases hMethod with hGet | hHead
  · simp only [serve, hGet]
  · simp only [serve, hHead]

/-- Of requests to the home page only those for the page itself can fail. -/
theorem respond_home_of_other {r : Request} (hPath : r.path = "/".toList)
    (hMethod : ¬ (r.method = .get ∨ r.method = .head)) :
    ∃ response, app.respond r = .ok response ∧ response.status ≠ 500 := by
  have hUnsupported : unsupported.status ≠ 500 := (by decide : (501 : Int) ≠ 500)
  have hSame : betterPath app.platform "/".toList = "/".toList := app.platform.mergeSlashes_eq "/".toList rfl
  have hNowhere {method : Method} (hUnknown : ¬ Endpoint.Known app.hasPlain method "/".toList) :
      route app.platform app.hasPlain method "/".toList = .nowhere :=
    (isRouter_route _ _).unknown hUnknown (by rwa [hSame])
  unfold respond
  rw [hPath]
  cases hName : r.method with
  | get => exact absurd (Or.inl hName) hMethod
  | head => exact absurd (Or.inr hName) hMethod
  | options =>
    have hRoute : route app.platform app.hasPlain .options "/".toList = .endpoint .home := rfl
    simp only [hRoute, serve_of_options hName]
    exact ⟨_, rfl, (by decide : (200 : Int) ≠ 500)⟩
  | post =>
    rw [hNowhere (Endpoint.find?_eq_none_iff.mp rfl)]
    exact ⟨_, rfl, hUnsupported⟩
  | other name =>
    rw [hNowhere (Endpoint.find?_eq_none_iff.mp rfl)]
    exact ⟨_, rfl, hUnsupported⟩

/-- The settings of an application that was created. -/
theorem create_fields {platform : Platform} {env : Environment} {freshSecret profileName : Text}
    {settings : Setting} (hCreated : create platform env freshSecret settings profileName = .ok app) :
    app.site = settings.site ∧
      app.manifests = [Manifest.converter.withSummary settings.converter] ∧
      app.hasPlain = settings.wantsPlain ∧
      app.decimals = (settings.converter.get? "decimals").getD (.int defaultDecimals) := by
  obtain ⟨parts, own, hParts, hOwn, hFields⟩ := create_settings hCreated
  obtain ⟨-, rfl⟩ := requireMapping_eq_ok_iff.mp hParts
  obtain ⟨-, rfl⟩ := requireMapping_eq_ok_iff.mp hOwn
  exact hFields

/-- **Settings that are honoured.** An application answers every request to the home page, and every
request to the plain endpoint if it has one, without an internal error exactly when its settings can
be used. -/
theorem answered_iff_isHonoured {platform : Platform} {env : Environment} {freshSecret profileName : Text}
    {settings : Setting} (hCreated : create platform env freshSecret settings profileName = .ok app) :
    (∀ r : Request, r.path = "/".toList ∨ (app.hasPlain = true ∧ r.IsPlain) →
      ∀ freshId, ∃ sent, app.handle freshId r = .ok sent ∧ sent.status ≠ 500) ↔
    settings.IsHonoured platform := by
  obtain rfl := platform_of_create hCreated
  obtain ⟨hSite, hManifests, hPlain, hDecimals⟩ := create_fields hCreated
  obtain ⟨hDispatcher, -⟩ := create_ok hCreated
  have hTitle : (Setting.text defaultTitle).IsDescribable app.titleRoom := ⟨_, rfl⟩
  have hPlaces : (Setting.int defaultDecimals).IsPlaces := ⟨_, rfl, by decide, by decide⟩
  have hHome := home_eq_ok_iff hManifests
  rw [hSite, Manifest.summary_isDescribable_iff, getD_iff hTitle] at hHome
  simp only [handle_answers_iff]
  constructor
  · intro hAnswered
    -- One request to each of the two paths shows all that they need.
    obtain ⟨response, hRespond, -⟩ := hAnswered (Standard.bareRequest "GET" "/") (Or.inl rfl) []
    rw [respond_home rfl (Or.inl rfl)] at hRespond
    obtain ⟨hMapping, hSummary, hTitles⟩ := hHome.mp ⟨response, hRespond⟩
    refine ⟨hMapping, hTitles, hSummary, fun hWanted => ?_⟩
    rw [← hPlain] at hWanted
    obtain ⟨x, hNumber, hResult⟩ := Standard.process_gramRequest
    rw [← hDispatcher] at hResult
    have hAsks : Standard.gramRequest.IsPlain := Standard.isPlain_plainRequest _
    obtain ⟨answer, hAnswer, -⟩ := hAnswered _ (Or.inr ⟨hWanted, hAsks⟩) []
    have hUsable := isPlaces_of_respond hWanted hAsks hNumber hResult hAnswer
    rwa [hDecimals, getD_iff hPlaces] at hUsable
  · rintro ⟨hMapping, hTitles, hSummary, hDecimalsUsable⟩ r hRequest -
    rcases hRequest with hPath | ⟨hServed, hAsks⟩
    · by_cases hMethod : r.method = .get ∨ r.method = .head
      · obtain ⟨response, hPage⟩ := hHome.mpr ⟨hMapping, hSummary, hTitles⟩
        rw [respond_home hPath hMethod, hPage]
        refine ⟨response, rfl, ?_⟩
        rw [status_of_home hPage]
        decide
      · exact respond_home_of_other hPath hMethod
    · apply respond_of_isPlaces hServed hAsks
      rw [hDecimals, getD_iff hPlaces]
      exact hDecimalsUsable (hPlain ▸ hServed)

end Application

namespace Standard

/-- The default settings are honoured. -/
theorem answered_defaultSettings :
    ∃ app, Application.create Standard.platform [] [] Application.defaultSettings [] = .ok app ∧
      ∀ r : Request, r.path = "/".toList ∨ (app.hasPlain = true ∧ r.IsPlain) →
        ∀ freshId, ∃ sent, app.handle freshId r = .ok sent ∧ sent.status ≠ 500 := by
  obtain ⟨app, hCreated⟩ := exists_application
  refine ⟨app, hCreated, (Application.answered_iff_isHonoured hCreated).mpr ⟨rfl, ?_, ?_, ?_⟩⟩
  · intro title hTitle
    cases hTitle
    exact ⟨_, rfl⟩
  · intro summary hSummary _
    cases hSummary
    exact ⟨_, rfl⟩
  · intro _ decimals hDecimals
    cases hDecimals
    exact ⟨6, rfl, by decide, by decide⟩

/-- A list for the site, and a negative number of decimals. -/
def unusableSettings : Setting :=
  .mapping
    [(.text "site", .list [.text "Lab"]),
      (.text "plugins", .mapping
        [(.text Manifest.converter.key, .mapping [(.text "decimals", .int (-1))])])]

theorem create_unusableSettings :
    ∃ app, Application.create Standard.platform [] [] unusableSettings [] = .ok app := by
  have hOk : (Application.create Standard.platform [] [] unusableSettings []).isOk = true := by decide +kernel
  cases hCreated : Application.create Standard.platform [] [] unusableSettings [] with
  | ok app => exact ⟨app, rfl⟩
  | error e =>
    rw [hCreated] at hOk
    cases hOk

/-- Both settings are accepted, and then no home page and no result can be sent. -/
theorem fails_unusableSettings :
    ∃ app, Application.create Standard.platform [] [] unusableSettings [] = .ok app ∧ app.hasPlain = true ∧
      (∃ sent, app.handle [] (bareRequest "GET" "/") = .ok sent ∧ sent.status = 500) ∧
      ∃ sent, app.handle [] (plainRequest "from=g&to=g&value=1") = .ok sent ∧ sent.status = 500 := by
  obtain ⟨app, hCreated⟩ := create_unusableSettings
  obtain ⟨hSite, hManifests, hPlain, hDecimals⟩ := Application.create_fields hCreated
  obtain ⟨hDispatcher, hProfile⟩ := Application.create_ok hCreated
  have hInUse := Profile.underTest_of_unnamed hProfile
  refine ⟨app, hCreated, hPlain, ?_, ?_⟩
  · cases hRespond : app.respond (bareRequest "GET" "/") with
    | error e => exact Application.handle_of_failure hRespond hInUse []
    | ok response =>
      rw [Application.respond_home rfl (Or.inl rfl)] at hRespond
      obtain ⟨hMapping, -⟩ := (Application.home_eq_ok_iff hManifests).mp ⟨response, hRespond⟩
      rw [hSite] at hMapping
      cases hMapping
  · cases hRespond : app.respond gramRequest with
    | error e => exact Application.handle_of_failure hRespond hInUse []
    | ok response =>
      obtain ⟨x, hNumber, hResult⟩ := process_gramRequest
      rw [← hDispatcher] at hResult
      obtain ⟨places, hPlaces, hNonneg, -⟩ := Application.isPlaces_of_respond hPlain
        (isPlain_plainRequest _) hNumber hResult hRespond
      rw [hDecimals] at hPlaces
      cases hPlaces
      exact absurd hNonneg (by decide)

end Standard

end UnitConversion
