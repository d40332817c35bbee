import UnitConversion.Proofs.Rendering.Numerals
import UnitConversion.Proofs.Server.Availability

/-!
# The formatted results of conversions

A conversion that is answered with status 200 has a finite result, which is sent as a JSON number and in
the precision asked for as a text. That text is a numeral unless the precision rounds the result up beyond
the binary64 numbers.

* `convert_of_status`: an answer with status 200 is that of a conversion that was carried out.
* `formatted_isNumeral_iff`: which formatted results are numerals.
-/

namespace UnitConversion

/-! ## Answers with status 200 -/

/-- An answer with status 200 describes a conversion that was carried out. -/
theorem converted_of_status {platform : Platform} {groups : List Group}
    {process : Text → Text → Binary64 → Option Binary64} {payload : Json} {response : Response}
    (hDecides : Decides platform groups process payload response) (hStatus : response.status = 200) :
    ∃ (q : ConversionRequest) (c : Converted), ConversionRequest.ofPayload payload = .ok q ∧
      process q.source q.target q.value = some c.value ∧ c.value.isFinite = true ∧
      c.value.format platform q.precision = .ok c.formatted ∧ response = .success c.describe := by
  have hBad : ¬ (400 : Int) = 200 := by decide
  have hUnprocessable : ¬ (422 : Int) = 200 := by decide
  cases hDecides with
  | invalidRequest hFaults => exact absurd hStatus hBad
  | unknownSource hRequest hSource => exact absurd hStatus hBad
  | unknownTarget hRequest hSource hTarget => exact absurd hStatus hBad
  | dimensionMismatch hRequest hNames hQuantity => exact absurd hStatus hUnprocessable
  | notFinite hRequest hNames hQuantity hResult hInfinite => exact absurd hStatus hUnprocessable
  | invalidPrecision hRequest hNames hQuantity hResult hFinite hFault => exact absurd hStatus hBad
  | @converted q s t x text hRequest hNames hQuantity hResult hFinite hFault hText =>
    exact ⟨q, ⟨x, q.source, q.target, s.quantity, text⟩, hRequest, hResult, hFinite, hText, rfl⟩

namespace Application

variable {platform : Platform} {app : Application} {r : Request} {freshId : Text} {response : Response}

theorem not_wantsHeadersOnly (hMethod : r.method = .get ∨ r.method = .post) :
    r.wantsHeadersOnly = false := by
  unfold Request.wantsHeadersOnly
  rw [beq_eq_false_iff_ne]
  intro hHead
  have hMethodHead : r.method = .head := by
    rw [Request.method, hHead]
    exact Method.ofName_name (Or.inr (Or.inl rfl))
  rw [hMethodHead] at hMethod
  rcases hMethod with hGet | hPost
  · cases hGet
  · cases hPost

theorem finish_body (hMethod : r.method = .get ∨ r.method = .post) (freshId : Text)
    (response : Response) : (app.finish r freshId response).body = response.body := by
  rw [finish_text, not_wantsHeadersOnly hMethod]
  rfl

/-- An answer with another status than 500 is that of an endpoint. -/
theorem respond_of_handle (hAnswer : app.handle freshId r = .ok response)
    (hStatus : response.status ≠ 500) :
    ∃ inner, app.respond r = .ok inner ∧ response = app.finish r freshId inner := by
  cases hRespond : app.respond r with
  | ok inner =>
    refine ⟨inner, rfl, ?_⟩
    simp only [handle, hRespond] at hAnswer
    exact (Except.ok.inj hAnswer).symm
  | error e =>
    cases hTest : app.profile.underTest with
    | true => simp [handle, hRespond, hTest] at hAnswer
    | false =>
      obtain ⟨response', hAnswer', hStatus'⟩ := handle_of_failure hRespond hTest freshId
      obtain rfl := Except.ok.inj (hAnswer.symm.trans hAnswer')
      exact absurd hStatus' hStatus

/-- The endpoint answers with status 200 only if the body could be read, and then with the conversion that
is asked for. -/
theorem convert_of_status {env : Environment} {freshSecret profileName : Text} {settings : Setting}
    (hCreated : create platform env freshSecret settings profileName = .ok app)
    (hPath : r.path = conversionPath) (hMethod : r.method = .get ∨ r.method = .post)
    (hRespond : app.respond r = .ok response) (hStatus : response.status = 200) :
    app.convert (r.asked platform) = .ok response := by
  obtain rfl := platform_of_create hCreated
  have hLimit : app.profile.bodyLimit = Request.bodyLimit :=
    Profile.bodyLimit_of_named (create_ok hCreated).2
  rcases hMethod with hGet | hPost
  · rw [respond, hPath, hGet, route_conversion (Or.inl rfl) _] at hRespond
    simpa [serve, Request.asked, hGet] using hRespond
  · rw [respond, hPath, hPost, route_conversion (Or.inr (Or.inr rfl)) _] at hRespond
    simp only [serve, hPost, hLimit] at hRespond
    rw [Request.asked, if_pos hPost]
    cases hPayload : r.payload Request.bodyLimit app.platform.readingDepth with
    | ok payload =>
      rw [hPayload] at hRespond
      exact hRespond
    | error e =>
      rw [hPayload] at hRespond
      cases e with
      | tooLong =>
        cases hRespond
        exact absurd hStatus (by decide)
      | tooDeep inArray => cases hRespond

/-- **Formatted results.** When a conversion is answered with status 200, its result is finite, and the
formatted result is a numeral exactly when the precision asked for does not round the result up beyond
the binary64 numbers. Otherwise the formatted result is an infinity. -/
theorem formatted_isNumeral_iff {env : Environment} {freshSecret profileName : Text}
    {settings : Setting} (hCreated : create platform env freshSecret settings profileName = .ok app)
    (hPath : r.path = conversionPath) (hMethod : r.method = .get ∨ r.method = .post)
    (hAnswer : app.handle freshId r = .ok response) (hStatus : response.status = 200) :
    ∃ (q : ConversionRequest) (c : Converted), ConversionRequest.ofPayload (r.asked platform) = .ok q ∧
      Standard.dispatcher.process q.source q.target q.value = some c.value ∧
      c.value.isFinite = true ∧ c.value.format platform q.precision = .ok c.formatted ∧
      response.body = (Response.success c.describe).body ∧
      (IsNumeral c.formatted ↔ ¬ q.precision.RoundsBeyond platform c.value) ∧
      (q.precision.RoundsBeyond platform c.value →
        ∃ s, c.formatted = String.ofList (Layout.signed s ['i', 'n', 'f'])) := by
  obtain ⟨inner, hRespond, rfl⟩ := respond_of_handle hAnswer (by rw [hStatus]; decide)
  rw [finish_status] at hStatus
  have hConvert := convert_of_status hCreated hPath hMethod hRespond hStatus
  obtain ⟨q, c, hRequest, hResult, hFinite, hText, rfl⟩ :=
    converted_of_status ((convert_eq_ok_iff hCreated).mp hConvert) hStatus
  exact ⟨q, c, hRequest, hResult, hFinite, hText, finish_body hMethod freshId _,
    Binary64.isNumeral_format_iff hFinite hText⟩

end Application

/-! ## Two requests -/

/-- The text of an outcome that is a conversion. -/
def ConversionOutcome.formatted? : ConversionOutcome → Option String
  | .converted c => some c.formatted
  | _ => none

theorem ConversionOutcome.eq_converted_of_formatted {o : ConversionOutcome} {text : String}
    (hText : o.formatted? = some text) : ∃ c, o = .converted c ∧ c.formatted = text := by
  cases o with
  | converted c => exact ⟨c, rfl, Option.some.inj hText⟩
  | rejected j => cases hText
  | failed e => cases hText

namespace Standard

section Answered

variable {app : Application}
  (hCreated : Application.create Standard.platform [] [] Application.defaultSettings [] = .ok app)
  (query text : String)
  (hText : (dispatcher.answer Standard.platform (conversionRequest query).queryPayload).formatted? = some text)

include hCreated hText

/-- A query whose conversion has a text is answered with that text. -/
theorem respond_conversionRequest :
    ∃ c : Converted, app.respond (conversionRequest query) = .ok (.success c.describe) ∧
      c.formatted = text := by
  obtain ⟨hDispatcher, -⟩ := Application.create_ok hCreated
  obtain ⟨c, hOutcome, hFormatted⟩ := ConversionOutcome.eq_converted_of_formatted hText
  refine ⟨c, ?_, hFormatted⟩
  rw [Application.respond_conversion hCreated (conversionRequest_path _)
    (Or.inl (conversionRequest_method _)) (conversionRequest_isReadable _), conversionRequest_asked]
  refine Application.convert_of_converted ?_
  rw [hDispatcher, Application.platform_of_create hCreated]
  exact hOutcome

theorem handle_conversionRequest :
    ∃ (c : Converted) (response : Response), app.handle [] (conversionRequest query) = .ok response ∧
      response.status = 200 ∧ response.body = (Response.success c.describe).body ∧ c.formatted = text := by
  obtain ⟨c, hRespond, hFormatted⟩ := respond_conversionRequest hCreated query text hText
  refine ⟨c, app.finish (conversionRequest query) [] (.success c.describe), ?_, ?_, ?_, hFormatted⟩
  · rw [Application.handle, hRespond]
  · exact Application.finish_status _ _ _
  · exact Application.finish_body (Or.inl (conversionRequest_method _)) _ _

end Answered

/-- The formatted result of a gram in pounds is a numeral. -/
theorem formatted_gramInPounds :
    ∃ app response, Application.create Standard.platform [] [] Application.defaultSettings [] = .ok app ∧
      app.handle [] (conversionRequest "value=1&from_unit=g&to_unit=lb") = .ok response ∧
      response.status = 200 ∧
      ∃ c : Converted, response.body = (Response.success c.describe).body ∧
        IsNumeral c.formatted := by
  obtain ⟨app, hCreated⟩ := exists_application
  obtain ⟨-, response, hAnswer, hStatus, -⟩ := handle_conversionRequest hCreated
    "value=1&from_unit=g&to_unit=lb" "0.00220462442018378" (by decide +kernel)
  obtain ⟨q, c, hRequest, -, -, -, hBody, hNumeral, -⟩ := Application.formatted_isNumeral_iff hCreated
    (conversionRequest_path _) (Or.inl (conversionRequest_method _)) hAnswer hStatus
  refine ⟨app, response, hCreated, hAnswer, hStatus, c, hBody, hNumeral.mpr ?_⟩
  rintro ⟨-, count, hCount, -⟩
  rw [precision_gramInPounds hRequest] at hCount
  cases hCount

/-- The largest number of grams, in grams and in one significant figure, is answered with status 200; yet
its formatted result is an infinity, and no numeral. -/
theorem formatted_largestInFigures :
    ∃ app c response, Application.create Standard.platform [] [] Application.defaultSettings [] = .ok app ∧
      app.handle [] (conversionRequest
        "value=1.7976931348623157e308&from_unit=g&to_unit=g&sig_figs=1") = .ok response ∧
      response.status = 200 ∧ response.body = (Response.success (Converted.describe c)).body ∧
      c.formatted = "inf" ∧ ¬ IsNumeral c.formatted := by
  obtain ⟨app, hCreated⟩ := exists_application
  obtain ⟨c, response, hAnswer, hStatus, hBody, hText⟩ := handle_conversionRequest hCreated
    "value=1.7976931348623157e308&from_unit=g&to_unit=g&sig_figs=1" "inf" (by decide +kernel)
  refine ⟨app, c, response, hCreated, hAnswer, hStatus, hBody, hText, ?_⟩
  rw [hText]
  exact not_isNumeral_infinite false

end Standard

end UnitConversion
