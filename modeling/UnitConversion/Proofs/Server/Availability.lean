import UnitConversion.Proofs.Server.Decision

/-!
# Which conversion requests are answered

A request to the path of conversions comes to the endpoint of conversions, whatever the settings are
(`route_conversion`), and asks for what its query or its body says. Its answer has one of three statuses,
unless it asks for a precision beyond its result: then the endpoint fails, and a server in use
answers with an internal error.

* `status_of_decides`: the statuses of decided answers.
* `respond_conversion`: the endpoint answers with the conversion that is asked for.
* `conversion_answered_iff`: which requests the endpoint answers.
-/

namespace UnitConversion

/-- The answer to a conversion reports a result, a fault of the payload, or a conversion that was
understood and has no result. -/
theorem status_of_decides {platform : Platform} {groups : List Group}
    {process : Text → Text → Binary64 → Option Binary64} {payload : Json} {response : Response}
    (hDecides : Decides platform groups process payload response) :
    response.status = 200 ∨ response.status = 400 ∨ response.status = 422 := by
  cases hDecides with
  | invalidRequest hFaults => exact Or.inr (Or.inl rfl)
  | unknownSource hRequest hSource => exact Or.inr (Or.inl rfl)
  | unknownTarget hRequest hSource hTarget => exact Or.inr (Or.inl rfl)
  | dimensionMismatch hRequest hNames hQuantity => exact Or.inr (Or.inr rfl)
  | notFinite hRequest hNames hQuantity hResult hInfinite => exact Or.inr (Or.inr rfl)
  | invalidPrecision hRequest hNames hQuantity hResult hFinite hFault => exact Or.inr (Or.inl rfl)
  | converted hRequest hNames hQuantity hResult hFinite hFault hText => exact Or.inl rfl

/-! ## The endpoint of conversions -/

/-- The path of conversions. -/
def conversionPath : List Char := "/api/unit_converter/convert".toList

/-- The path leads to the endpoint of conversions, with or without the plain one. -/
theorem route_conversion {method : Method}
    (hMethod : method = .get ∨ method = .head ∨ method = .post) (platform : Platform) (hasPlain : Bool) :
    route platform hasPlain method conversionPath = .endpoint .conversion := by
  rcases hMethod with rfl | rfl | rfl
  · cases hasPlain <;> rfl
  · cases hasPlain <;> rfl
  · cases hasPlain <;> rfl

theorem Method.ofName_name {m : Method} (hm : m = .get ∨ m = .head ∨ m = .post) :
    ofName (Text.upperCase m.name) = m := by
  rcases hm with rfl | rfl | rfl
  · rfl
  · rfl
  · rfl

namespace Request

/-- The most bytes of a body that any profile reads. -/
def bodyLimit : Nat := 64 * 1024

/-- What a conversion request asks for: the JSON value of a posted body, or else the query. -/
def asked (platform : Platform) (r : Request) : Json :=
  if r.method = .post then
    match r.payload bodyLimit platform.readingDepth with
    | .ok payload => payload
    | .error _ => .null
  else r.queryPayload

/-- A posted body is short enough, and not nested too deep, to be read. -/
def IsReadable (platform : Platform) (r : Request) : Prop :=
  r.method = .post → r.body.length ≤ bodyLimit ∧
    ∀ inArray, Json.ofBytes { depth := platform.readingDepth } r.body ≠ .error (.tooDeep inArray)

theorem payload_of_isReadable {platform : Platform} {r : Request} (hReadable : r.IsReadable platform)
    (hPost : r.method = .post) : r.payload bodyLimit platform.readingDepth = .ok (r.asked platform) := by
  obtain ⟨hLength, hDepth⟩ := hReadable hPost
  have hRead : ∃ payload, r.payload bodyLimit platform.readingDepth = .ok payload := by
    unfold payload
    split
    · exact ⟨_, rfl⟩
    · rw [if_neg (Nat.not_lt.mpr hLength)]
      cases hBytes : Json.ofBytes { depth := platform.readingDepth } r.body with
      | ok value => exact ⟨_, rfl⟩
      | error e =>
        cases e with
        | malformed => exact ⟨_, rfl⟩
        | tooDeep inArray => exact absurd hBytes (hDepth inArray)
  obtain ⟨payload, hPayload⟩ := hRead
  rw [asked, if_pos hPost, hPayload]

end Request

/-! ## Headers leave the status and the body alone -/

namespace Response

theorem addHeaders_status (r : Response) (headers : List (String × Text)) :
    (r.addHeaders headers).status = r.status := by
  unfold addHeaders
  induction headers generalizing r with
  | nil => rfl
  | cons header rest ih => exact ih (r.addHeader header.1 header.2)

theorem addHeaders_body (r : Response) (headers : List (String × Text)) :
    (r.addHeaders headers).body = r.body := by
  unfold addHeaders
  induction headers generalizing r with
  | nil => rfl
  | cons header rest ih => exact ih (r.addHeader header.1 header.2)

end Response

namespace Application

variable {app : Application} {r : Request}

theorem finish_status (r : Request) (freshId : Text) (response : Response) :
    (app.finish r freshId response).status = response.status := by
  unfold finish
  dsimp only
  split
  · exact response.addHeaders_status app.profile.headers
  · exact response.addHeaders_status app.profile.headers

theorem finish_text (r : Request) (freshId : Text) (response : Response) :
    (app.finish r freshId response).body = if r.wantsHeadersOnly then "" else response.body := by
  unfold finish
  dsimp only
  split
  · rfl
  · exact response.addHeaders_body app.profile.headers

theorem handle_of_ok {response : Response} (hRespond : app.respond r = .ok response) (freshId : Text) :
    app.handle freshId r = .ok (app.finish r freshId response) := by
  rw [handle, hRespond]

/-- A server in use answers any failure with an internal error. -/
theorem handle_of_failure {e : Failure} (hRespond : app.respond r = .error e)
    (hInUse : app.profile.underTest = false) (freshId : Text) :
    ∃ response, app.handle freshId r = .ok response ∧ response.status = 500 := by
  refine ⟨app.finish r freshId (.failure e.report), ?_, ?_⟩
  · simp [handle, hRespond, hInUse]
  · rw [finish_status]
    rfl

section Created

variable {platform : Platform} {env : Environment} {freshSecret profileName : Text} {settings : Setting}
  (hCreated : create platform env freshSecret settings profileName = .ok app)
  (hPath : r.path = conversionPath)
  (hMethod : r.method = .get ∨ r.method = .head ∨ r.method = .post) (hReadable : r.IsReadable platform)

include hCreated hPath hMethod hReadable

/-- The endpoint answers with the conversion that is asked for. -/
theorem respond_conversion : app.respond r = app.convert (r.asked platform) := by
  obtain rfl := platform_of_create hCreated
  have hLimit : app.profile.bodyLimit = Request.bodyLimit :=
    Profile.bodyLimit_of_named (create_ok hCreated).2
  rw [respond, hPath, route_conversion hMethod _]
  rcases hMethod with hGet | hHead | hPost
  · simp only [serve, Request.asked, hGet, reduceCtorEq, if_false]
  · simp only [serve, Request.asked, hHead, reduceCtorEq, if_false]
  · simp only [serve, hPost, hLimit, Request.payload_of_isReadable hReadable hPost]

/-- A request for a precision beyond its result fails, and a server in use answers it with an internal
error. -/
theorem respond_of_asksBeyond (hBeyond : AsksBeyond platform Standard.dispatcher.process (r.asked platform)) :
    ∃ e, e.isBadInput = false ∧ app.respond r = .error (.format e) ∧
      (app.profile.underTest = false → ∀ freshId, ∃ response,
        app.handle freshId r = .ok response ∧ response.status = 500) := by
  obtain ⟨hDispatcher, -⟩ := create_ok hCreated
  rw [← platform_of_create hCreated, ← hDispatcher] at hBeyond
  obtain ⟨e, hLimit, hError⟩ := convert_of_asksBeyond hBeyond
  rw [platform_of_create hCreated] at hError
  have hRespond : app.respond r = .error (.format e) := by
    rw [respond_conversion hCreated hPath hMethod hReadable, hError]
  exact ⟨e, hLimit, hRespond, handle_of_failure hRespond⟩

/-- Any other request is answered by the endpoint, with one of three statuses. -/
theorem respond_of_not_asksBeyond (hWithin : ¬ AsksBeyond platform Standard.dispatcher.process (r.asked platform)) :
    ∃ response, app.respond r = .ok response ∧
      (response.status = 200 ∨ response.status = 400 ∨ response.status = 422) := by
  obtain ⟨response, hAnswer⟩ := (exists_convert_iff hCreated).mpr hWithin
  refine ⟨response, ?_, status_of_decides ((convert_eq_ok_iff hCreated).mp hAnswer)⟩
  rw [respond_conversion hCreated hPath hMethod hReadable, hAnswer]

end Created

/-- **Conversion requests that are answered.** The endpoint answers a request with status 200, 400 or 422,
and as its payload is decided, exactly when the request does not ask for a precision beyond its result.
Otherwise an error leaves the endpoint that is no mistake of the caller, and a server in use answers
with status 500. -/
theorem conversion_answered_iff {platform : Platform} {env : Environment} {freshSecret profileName : Text}
    {settings : Setting} {app : Application}
    (hCreated : create platform env freshSecret settings profileName = .ok app) {r : Request}
    (hPath : r.path = conversionPath)
    (hMethod : r.method = .get ∨ r.method = .head ∨ r.method = .post) (hReadable : r.IsReadable platform) :
    ((∃ response, app.respond r = .ok response ∧
        (response.status = 200 ∨ response.status = 400 ∨ response.status = 422)) ↔
      ¬ AsksBeyond platform Standard.dispatcher.process (r.asked platform)) ∧
    (∀ response, app.respond r = .ok response ↔
      Decides platform Standard.catalog Standard.dispatcher.process (r.asked platform) response) ∧
    (AsksBeyond platform Standard.dispatcher.process (r.asked platform) →
      ∃ e, e.isBadInput = false ∧ app.respond r = .error (.format e) ∧
        (app.profile.underTest = false → ∀ freshId, ∃ response,
          app.handle freshId r = .ok response ∧ response.status = 500)) := by
  refine ⟨⟨?_, respond_of_not_asksBeyond hCreated hPath hMethod hReadable⟩, fun response => ?_,
    respond_of_asksBeyond hCreated hPath hMethod hReadable⟩
  · rintro ⟨response, hRespond, -⟩ hBeyond
    obtain ⟨e, -, hError, -⟩ := respond_of_asksBeyond hCreated hPath hMethod hReadable hBeyond
    rw [hError] at hRespond
    cases hRespond
  · rw [respond_conversion hCreated hPath hMethod hReadable]
    exact convert_eq_ok_iff hCreated

end Application

/-! ## Two requests -/

namespace Standard

/-- The request for the conversion that a query asks for. -/
def conversionRequest (query : String) : Request where
  methodName := "GET"
  scheme := "http"
  authority := "localhost"
  rawPath := conversionPath
  query := query
  contentType := []
  body := []
  requestId := []
  isOk_host := by rfl
  hasLineBreak_contentType := rfl
  hasLineBreak_requestId := rfl

theorem conversionRequest_path (query : String) : (conversionRequest query).path = conversionPath := by
  have hPath : (conversionRequest "").path = conversionPath := by rfl
  exact hPath

theorem conversionRequest_method (query : String) : (conversionRequest query).method = .get :=
  Method.ofName_name (Or.inl rfl)

theorem conversionRequest_isReadable (query : String) : (conversionRequest query).IsReadable platform := by
  intro hPost
  rw [conversionRequest_method] at hPost
  cases hPost

theorem conversionRequest_asked (query : String) :
    (conversionRequest query).asked platform = (conversionRequest query).queryPayload := by
  have hNotPost : (conversionRequest query).method ≠ .post := by
    rw [conversionRequest_method]
    decide
  exact if_neg hNotPost

/-- The request for a gram in pounds asks for no precision. -/
theorem precision_gramInPounds {q : ConversionRequest}
    (hRequest : ConversionRequest.ofPayload
      ((conversionRequest "value=1&from_unit=g&to_unit=lb").asked platform) = .ok q) : q.precision = {} := by
  rw [conversionRequest_asked] at hRequest
  exact ConversionRequest.precision_eq hRequest (by decide +kernel)

/-- The request for a gram in pounds is answered. -/
theorem conversion_answered_gramInPounds :
    ∃ app, Application.create Standard.platform [] [] Application.defaultSettings [] = .ok app ∧
      ∃ response, app.respond (conversionRequest "value=1&from_unit=g&to_unit=lb") = .ok response ∧
        (response.status = 200 ∨ response.status = 400 ∨ response.status = 422) := by
  obtain ⟨app, hCreated⟩ := exists_application
  obtain ⟨hAnswered, -⟩ := Application.conversion_answered_iff hCreated (conversionRequest_path _)
    (Or.inl (conversionRequest_method _)) (conversionRequest_isReadable _)
  refine ⟨app, hCreated, hAnswered.mpr ?_⟩
  rintro ⟨q, x, hRequest, -, -, hBeyond⟩
  rw [precision_gramInPounds hRequest] at hBeyond
  exact hBeyond

/-- The request for a gram in pounds with one decimal more than can be had is not answered by the
endpoint: the error that comes of it is no mistake of the caller. -/
theorem respond_tooManyDecimals :
    ∃ app, Application.create Standard.platform [] [] Application.defaultSettings [] = .ok app ∧
      app.respond (conversionRequest "value=1&from_unit=g&to_unit=lb&decimals=2147483648") =
        .error (.format .decimalsTooMany) ∧
      ∀ freshId, ∃ response, app.handle freshId
        (conversionRequest "value=1&from_unit=g&to_unit=lb&decimals=2147483648") = .ok response ∧
          response.status = 500 := by
  obtain ⟨app, hCreated⟩ := exists_application
  obtain ⟨hDispatcher, hProfile⟩ := Application.create_ok hCreated
  have hInUse := Profile.underTest_of_unnamed hProfile
  have hRespond : app.respond (conversionRequest "value=1&from_unit=g&to_unit=lb&decimals=2147483648") =
      .error (.format .decimalsTooMany) := by
    rw [Application.respond_conversion hCreated (conversionRequest_path _)
      (Or.inl (conversionRequest_method _)) (conversionRequest_isReadable _), conversionRequest_asked]
    refine Application.convert_of_failed ?_
    rw [hDispatcher, Application.platform_of_create hCreated]
    exact ConversionOutcome.eq_failed_of_failure (by decide +kernel)
  exact ⟨app, hCreated, hRespond, Application.handle_of_failure hRespond hInUse⟩

end Standard

end UnitConversion
