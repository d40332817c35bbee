import UnitConversion.Proofs.Server.Envelope
import UnitConversion.Proofs.Validation.Records

/-!
# Plain conversions

The plain endpoint has names of its own for the fields of a conversion, takes infinities, and answers with
a text or with one of two messages. Asked for the same conversion, with the number of decimals that the
plain endpoint uses, both endpoints describe it alike (`Agreement`).

* `respond_plain`: the plain endpoint answers with the conversion that the query asks for.
* `agreement_of_rejection`, `agreement_of_text`: when answers agree, for conversions that are rejected and
  for those that are carried out.
* `exists_agreement`: two payloads that ask for one conversion.
* `plain_agrees`: the answers to two requests for one conversion.
-/

namespace UnitConversion

/-! ## Requests -/

/-- The path of plain conversions. -/
def plainPath : List Char := "/convert".toList

theorem route_plain (platform : Platform) : route platform true .get plainPath = .endpoint .plainConversion := by rfl

/-- The fields of a plain conversion. -/
def plainFields (source target value : String) : List (String × String) :=
  [("from", source), ("to", target), ("value", value)]

/-- The fields of a conversion with a number of decimals. -/
def decimalFields (source target value : String) (places : Int) : List (String × FieldInput) :=
  [("from_unit", .text source), ("to_unit", .text target), ("value", .text value),
    ("decimals", .integer places)]

/-- The request asks the plain endpoint for a conversion. -/
structure Request.AsksPlainly (r : Request) (source target value : String) : Prop where
  path : r.path = plainPath
  method : r.method = .get
  query : Query.ofText r.query = plainFields source target value

theorem queryPayload_of_asksPlainly {r : Request} {source target value : String}
    (hAsks : r.AsksPlainly source target value) :
    r.queryPayload = .object (PlainRequest.plainMembers source target (.string value)) := by
  rw [Request.queryPayload, hAsks.query]
  rfl

theorem suits_decimalFields (source target value : String) {places : Int} (hNonneg : 0 ≤ places)
    (hSmall : places ≤ 2147483647) :
    ∀ field ∈ decimalFields source target value places, field.2.Suits field.1 := by
  have hFew : places.natAbs < 10 ^ 10 := by omega
  have hDigits : places.natAbs < 10 ^ FieldInput.digitLimit :=
    Nat.lt_of_lt_of_le hFew (Nat.pow_le_pow_right (by decide) (by decide))
  simp [decimalFields, FieldInput.Suits, hDigits]

/-! ## The plain endpoint -/

/-- The answer of the plain endpoint to a conversion that has a result. -/
def plainResult (text : String) : Response := .json 200 (.object [("result", .string text)])

namespace Application

variable {app : Application} {payload : Json} {q : PlainRequest}

theorem respond_plain {r : Request} (hPlain : app.hasPlain = true) (hPath : r.path = plainPath)
    (hMethod : r.method = .get) : app.respond r = app.convertPlain r.queryPayload := by
  rw [respond, hPath, hMethod, hPlain, route_plain]
  simp only [serve, hMethod]

theorem convertPlain_of_faults {faults : List Fault}
    (hFaults : PlainRequest.ofPayload payload = .error faults) :
    app.convertPlain payload = .ok (.plain 501 "Invalid value!") := by
  rw [convertPlain, hFaults]

theorem convertPlain_of_none (hRequest : PlainRequest.ofPayload payload = .ok q)
    (hNone : app.dispatcher.process q.source q.target q.value = none) :
    app.convertPlain payload = .ok (.plain 501 "Unknown conversion type!") := by
  simp only [convertPlain, hRequest, hNone]

theorem convertPlain_of_text {x : Binary64} {places : Int} {text : String}
    (hRequest : PlainRequest.ofPayload payload = .ok q)
    (hResult : app.dispatcher.process q.source q.target q.value = some x)
    (hPlaces : app.decimals.integer = .ok places)
    (hText : x.format app.platform { decimals := some places } = .ok text) :
    app.convertPlain payload = .ok (plainResult text) := by
  simp only [convertPlain, hRequest, hResult, hPlaces, hText, plainResult]

end Application

/-! ## Answers that agree -/

/-- What the answer of the plain endpoint and the answer in JSON have in common, given the number that is
converted, if there is one, and the conversion. -/
structure Agreement (plain full : Response) (given : Option Binary64)
    (convert : Binary64 → Option Binary64) : Prop where
  converted : full.status = 200 ↔ ∃ x y, given = some x ∧ x.isFinite = true ∧
    plain.status = 200 ∧ convert x = some y ∧ y.isFinite = true
  sameText : full.status = 200 →
    ∃ text, full.formatted? = some text ∧ plain.result? = some text
  unknown : ∀ x, given = some x → x.isFinite = true →
    (plain.content = (501, "Unknown conversion type!") ↔
      full.code? = some (Text.ofString "unit.invalid_unit") ∨
        full.code? = some (Text.ofString "unit.dimension_mismatch"))
  invalid : plain.content = (501, "Invalid value!") →
    full.status = 400 ∧ full.code? = some (Text.ofString "unit.invalid_request")

section Agreement

variable {plain full : Response} {given : Option Binary64} {convert : Binary64 → Option Binary64}
  {x y : Binary64}

theorem Response.textAt?_congr {r r' : Response} (hContent : r.content = r'.content)
    (path : List String) : r.textAt? path = r'.textAt? path := by
  obtain ⟨-, hBody⟩ := Prod.mk.inj hContent
  rw [textAt?, textAt?, json?, json?, hBody]

/-- The headers of answers are of no account. -/
theorem Agreement.congr {plain' full' : Response} (hAgree : Agreement plain full given convert)
    (hPlain : plain'.content = plain.content) (hFull : full'.content = full.content) :
    Agreement plain' full' given convert := by
  obtain ⟨hPlainStatus, -⟩ := Prod.mk.inj hPlain
  obtain ⟨hFullStatus, -⟩ := Prod.mk.inj hFull
  obtain ⟨hConverted, hSameText, hUnknown, hInvalid⟩ := hAgree
  constructor
  · rw [hFullStatus, hPlainStatus]
    exact hConverted
  · rw [hFullStatus, Response.formatted?, Response.textAt?_congr hFull, Response.result?,
      Response.textAt?_congr hPlain]
    exact hSameText
  · rw [hPlain, Response.code?, Response.textAt?_congr hFull]
    exact hUnknown
  · rw [hPlain, hFullStatus, Response.code?, Response.textAt?_congr hFull]
    exact hInvalid

/-- A rejection agrees with a plain answer that gives no finite result, and the same reason. -/
theorem agreement_of_rejection {j : Rejection} (hWhole : j.IsWhole)
    (hNoResult : ∀ x y, given = some x → x.isFinite = true → convert x = some y → y.isFinite = false)
    (hUnknown : ∀ x, given = some x → x.isFinite = true →
      (plain.content = (501, "Unknown conversion type!") ↔
        j.code = "unit.invalid_unit" ∨ j.code = "unit.dimension_mismatch"))
    (hInvalid : plain.content = (501, "Invalid value!") →
      j.status = 400 ∧ j.code = "unit.invalid_request") :
    Agreement plain (.failure j.report) given convert := by
  have hStatus : (Response.failure j.report).status ≠ 200 := j.status_ne
  have hCode (code : String) :
      (Response.failure j.report).code? = some (Text.ofString code) ↔ j.code = code := by
    rw [Response.code?_failure hWhole, Option.some_inj]
    exact ⟨fun hEq => Text.ofString_injective hEq, congrArg Text.ofString⟩
  constructor
  · constructor
    · intro hOk
      exact absurd hOk hStatus
    · rintro ⟨x, y, hx, hFinite, -, hy, hBounded⟩
      rw [hNoResult x y hx hFinite hy] at hBounded
      cases hBounded
  · intro hOk
    exact absurd hOk hStatus
  · intro x hx hFinite
    rw [hCode, hCode]
    exact hUnknown x hx hFinite
  · intro hPlain
    rw [hCode]
    exact hInvalid hPlain

/-- A request that is at fault in JSON gives no finite number. -/
theorem agreement_of_faults {faults : List Fault} (hGiven : ∀ x, given = some x → x.isFinite = false)
    (hWhole : (Rejection.invalidRequest faults).IsWhole) :
    Agreement plain (.failure (Rejection.invalidRequest faults).report) given convert := by
  have hInfinite {x : Binary64} (hx : given = some x) : ¬ x.isFinite = true := by
    rw [hGiven x hx]
    decide
  apply agreement_of_rejection hWhole
  · intro x y hx hFinite
    exact absurd hFinite (hInfinite hx)
  · intro x hx hFinite
    exact absurd hFinite (hInfinite hx)
  · intro _
    exact ⟨rfl, rfl⟩

/-- Where there is no conversion, a unit is unknown or the quantities differ. -/
theorem agreement_of_none {j : Rejection} (hGiven : given = some x) (hNone : convert x = none)
    (hCode : j.code = "unit.invalid_unit" ∨ j.code = "unit.dimension_mismatch")
    (hWhole : j.IsWhole) :
    Agreement (.plain 501 "Unknown conversion type!") (.failure j.report) given convert := by
  apply agreement_of_rejection hWhole
  · intro x' y hx' hFinite hResult
    obtain rfl := Option.some.inj (hGiven.symm.trans hx')
    rw [hNone] at hResult
    cases hResult
  · intro x' hx' hFinite
    exact ⟨fun _ => hCode, fun _ => rfl⟩
  · intro hInvalid
    have hMessage := (Prod.mk.inj hInvalid).2
    exact absurd hMessage (by decide)

theorem content_plainResult (text message : String) : (plainResult text).content ≠ (501, message) := by
  intro hEq
  have hStatus : (200 : Int) = 501 := (Prod.mk.inj hEq).1
  exact absurd hStatus (by decide)

theorem result?_plainResult (text : String) :
    (plainResult text).result? = some (Text.ofString text) := by
  have hFits : (Json.object [("result", .string text)]).Fits Response.dialect.depth :=
    ⟨List.nodup_singleton _, isWhole_ofString _, isWhole_ofString text, trivial⟩
  exact Response.textAt?_json hFits 200 ["result"]

/-- A result that is not finite is a result of the plain endpoint only. -/
theorem agreement_of_overflow {q : ConversionRequest} {text : String} (hGiven : given = some x)
    (hResult : convert x = some y) (hInfinite : y.isFinite = false)
    (hWhole : (Rejection.overflow q).IsWhole) :
    Agreement (plainResult text) (.failure (Rejection.overflow q).report) given convert := by
  have hUnit : ¬ "unit.non_finite_result" = "unit.invalid_unit" := by decide
  have hDimension : ¬ "unit.non_finite_result" = "unit.dimension_mismatch" := by decide
  apply agreement_of_rejection hWhole
  · intro x' y' hx' hFinite hResult'
    obtain rfl := Option.some.inj (hGiven.symm.trans hx')
    obtain rfl := Option.some.inj (hResult.symm.trans hResult')
    exact hInfinite
  · intro x' hx' hFinite
    constructor
    · intro hUnknown
      exact absurd hUnknown (content_plainResult text _)
    · intro hCode
      exact absurd hCode (not_or.mpr ⟨hUnit, hDimension⟩)
  · intro hInvalid
    exact absurd hInvalid (content_plainResult text _)

/-- A finite result is written alike by both endpoints. -/
theorem agreement_of_text {c : Converted} (hGiven : given = some x) (hx : x.isFinite = true)
    (hResult : convert x = some c.value) (hReadable : c.IsReadable) :
    Agreement (plainResult c.formatted) (.success c.describe) given convert := by
  obtain ⟨hFormatted, hCode⟩ := Response.texts_success hReadable
  constructor
  · constructor
    · intro _
      exact ⟨x, c.value, hGiven, hx, rfl, hResult, hReadable.value⟩
    · intro _
      rfl
  · intro _
    exact ⟨c.formatted, hFormatted, result?_plainResult c.formatted⟩
  · intro x' hx' hFinite
    rw [hCode]
    constructor
    · intro hUnknown
      exact absurd hUnknown (content_plainResult c.formatted _)
    · rintro (hUnit | hDimension)
      · cases hUnit
      · cases hDimension
  · intro hInvalid
    exact absurd hInvalid (content_plainResult c.formatted _)

end Agreement

/-! ## Two requests for one conversion -/

section Serves

variable {d : Dispatcher Binary64} {r : Registry Binary64} (hServes : d.Serves Standard.catalog r)

include hServes

theorem isWhole_of_unit? {signature : Text} {u : MeasureUnit} (h : d.unit? signature = some u) :
    u.signature.isWhole = true ∧ u.quantity.isWhole = true := by
  have hAll : ∀ u ∈ catalogUnits Standard.catalog,
      u.signature.isWhole = true ∧ u.quantity.isWhole = true := by
    decide
  exact hAll u (hServes.unit?_eq_some_iff.mp h).1

theorem isWhole_quantityOf (signature : Text) : (d.quantityOf signature).isWhole = true := by
  unfold Dispatcher.quantityOf
  cases hUnit : d.unit? signature with
  | none => rfl
  | some u => exact (isWhole_of_unit? hServes hUnit).2

/-- A conversion that there is not names an unknown unit or two quantities. -/
theorem mismatch_spec {source target : Text} (hSource : source.isWhole = true)
    (hTarget : target.isWhole = true) :
    ((d.mismatch source target).code = "unit.invalid_unit" ∨
      (d.mismatch source target).code = "unit.dimension_mismatch") ∧
      (d.mismatch source target).IsWhole := by
  unfold Dispatcher.mismatch
  cases hFrom : d.unit? source with
  | none => exact ⟨Or.inl rfl, hSource⟩
  | some s =>
    cases hTo : d.unit? target with
    | none => exact ⟨Or.inl rfl, hTarget⟩
    | some t =>
      exact ⟨Or.inr rfl, isWhole_of_unit? hServes hFrom, isWhole_of_unit? hServes hTo⟩

end Serves

namespace Application

theorem convert_of_faults {app : Application} {payload : Json} {faults : List Fault}
    (hFaults : ConversionRequest.ofPayload payload = .error faults) :
    app.convert payload = .ok (.failure (Rejection.invalidRequest faults).report) := by
  apply convert_of_rejected
  rw [Dispatcher.answer, hFaults]

theorem exists_text (platform : Platform) (x : Binary64) {places : Int} (hNonneg : 0 ≤ places)
    (hSmall : places < 2 ^ 31) :
    ∃ text, x.format platform { decimals := some places } = .ok text := by
  apply Binary64.format_of_not_isBeyond
  · exact if_neg (Int.not_lt.mpr hNonneg)
  · exact Int.not_le.mpr hSmall

section Decimals

variable {app : Application} {places : Int} (hPlaces : app.decimals.integer = .ok places)
  (hNonneg : 0 ≤ places) (hSmall : places < 2 ^ 31)

include hPlaces hNonneg hSmall

/-- With such a number of decimals the plain endpoint answers any payload. -/
theorem exists_convertPlain (payload : Json) : ∃ plain, app.convertPlain payload = .ok plain := by
  cases hRequest : PlainRequest.ofPayload payload with
  | error faults => exact ⟨_, convertPlain_of_faults hRequest⟩
  | ok q =>
    cases hResult : app.dispatcher.process q.source q.target q.value with
    | none => exact ⟨_, convertPlain_of_none hRequest hResult⟩
    | some x =>
      obtain ⟨text, hText⟩ := exists_text app.platform x hNonneg hSmall
      exact ⟨_, convertPlain_of_text hRequest hResult hPlaces hText⟩

variable {r : Registry Binary64} (hServes : app.dispatcher.Serves Standard.catalog r)

include hServes

/-- Both endpoints answer the request for a conversion of a finite number, and their answers agree. -/
theorem exists_agreement_of_requests {payload plainPayload : Json} {q : ConversionRequest}
    (hRequest : ConversionRequest.ofPayload payload = .ok q)
    (hPrecision : q.precision = { decimals := some places })
    (hPlainRequest : PlainRequest.ofPayload plainPayload = .ok ⟨q.value, q.source, q.target⟩)
    (hSource : q.source.isWhole = true) (hTarget : q.target.isWhole = true) :
    ∃ plain full, app.convertPlain plainPayload = .ok plain ∧ app.convert payload = .ok full ∧
      Agreement plain full (some q.value) (app.dispatcher.process q.source q.target) := by
  have hFinite := ConversionRequest.isFinite_of_ofPayload hRequest
  have hAnswer : app.dispatcher.answer app.platform payload = app.dispatcher.convert app.platform q :=
    Dispatcher.answer_of_request hRequest
  cases hResult : app.dispatcher.process q.source q.target q.value with
  | none =>
    rw [Dispatcher.convert_of_none hResult] at hAnswer
    obtain ⟨hCode, hWhole⟩ := mismatch_spec hServes hSource hTarget
    exact ⟨_, _, convertPlain_of_none hPlainRequest hResult, convert_of_rejected hAnswer,
      agreement_of_none rfl hResult hCode hWhole⟩
  | some y =>
    obtain ⟨text, hText⟩ := exists_text app.platform y hNonneg hSmall
    have hPlain := convertPlain_of_text hPlainRequest hResult hPlaces hText
    rw [← hPrecision] at hText
    cases hBounded : y.isFinite with
    | false =>
      rw [Dispatcher.convert_of_not_isFinite hResult hBounded] at hAnswer
      exact ⟨_, _, hPlain, convert_of_rejected hAnswer,
        agreement_of_overflow rfl hResult hBounded ⟨hSource, hTarget⟩⟩
    | true =>
      -- Both texts come of one call with one precision.
      rw [Dispatcher.convert_of_text hResult hBounded hText] at hAnswer
      have hQuantity := isWhole_quantityOf hServes q.source
      refine ⟨_, _, hPlain, convert_of_converted hAnswer, ?_⟩
      exact agreement_of_text (c := ⟨y, q.source, q.target, app.dispatcher.quantityOf q.source, text⟩)
        rfl hFinite hResult ⟨hBounded, hSource, hTarget, hQuantity⟩

/-- The payloads of both endpoints that ask for one conversion have answers that agree. -/
theorem exists_agreement (source target value : String) :
    ∃ plain full,
      app.convertPlain (.object (PlainRequest.plainMembers source target (.string value))) =
        .ok plain ∧
      app.convert (.object (ConversionRequest.fieldMembers source target (.string value) places)) =
        .ok full ∧
      Agreement plain full (numberOfText? value.toList) (app.dispatcher.process source target) := by
  have hPlainRequest := PlainRequest.ofPayload_plainMembers source target (.string value)
  have hRequest := ConversionRequest.ofPayload_fieldMembers source target (.string value) places
  cases hCoerced : coerceFiniteNumber (.string value) with
  | ok x =>
    obtain ⟨hNumber, -⟩ := coerceFiniteNumber_eq_ok_iff.mp hCoerced
    rw [hCoerced] at hRequest
    rw [hNumber] at hPlainRequest
    rw [coerceNumber_eq_ok_iff.mp hNumber]
    exact exists_agreement_of_requests hPlaces hNonneg hSmall hServes hRequest rfl hPlainRequest
      (isWhole_ofString source) (isWhole_ofString target)
  | error kind =>
    -- The plain endpoint may still take the value: it is the JSON request that refuses infinities.
    rw [hCoerced] at hRequest
    obtain ⟨plain, hPlain⟩ := exists_convertPlain hPlaces hNonneg hSmall
      (.object (PlainRequest.plainMembers source target (.string value)))
    refine ⟨plain, _, hPlain, convert_of_faults hRequest, agreement_of_faults ?_ ?_⟩
    · intro x hx
      rw [← Bool.not_eq_true]
      intro hFinite
      have hOk := coerceFiniteNumber_eq_ok_iff.mpr ⟨coerceNumber_eq_ok_iff.mpr hx, hFinite⟩
      rw [hCoerced] at hOk
      cases hOk
    · intro f hf name hName
      obtain rfl := List.mem_singleton.mp hf
      obtain rfl := List.mem_singleton.mp hName
      exact isWhole_ofString "value"

end Decimals

/-- **Plain conversions and conversions agree.** Two units and a value are given as any texts. A request
to the plain endpoint and a request for the same conversion with the number of decimals that the plain
endpoint uses are both answered, and the answers agree. The queries that are written for the fields make
requests of this kind. -/
theorem plain_agrees {platform : Platform} {app : Application} {env : Environment}
    {freshSecret profileName : Text} {settings : Setting}
    (hCreated : create platform env freshSecret settings profileName = .ok app)
    (hPlain : app.hasPlain = true) {places : Int} (hPlaces : app.decimals.integer = .ok places)
    (hNonneg : 0 ≤ places) (hSmall : places ≤ 2147483647) (source target value : String) :
    Query.ofText (Query.text (plainFields source target value)) = plainFields source target value ∧
    Query.ofText (Query.text (queryFields (decimalFields source target value places))) =
      queryFields (decimalFields source target value places) ∧
    ∀ inPlain inFull : Request, inPlain.AsksPlainly source target value →
      inFull.AsksInQuery (decimalFields source target value places) →
        ∀ freshId freshId', ∃ plain full, app.handle freshId inPlain = .ok plain ∧
          app.handle freshId' inFull = .ok full ∧
          Agreement plain full (numberOfText? value.toList)
            (Standard.dispatcher.process source target) := by
  have hDistinct : ((decimalFields source target value places).map Prod.fst).Nodup := by
    simp [decimalFields]
  refine ⟨Query.isReader_ofText.read_text (by simp [plainFields]), ofText_queryFields hDistinct, ?_⟩
  intro inPlain inFull hAsksPlainly hAsks freshId freshId'
  obtain ⟨hDispatcher, -⟩ := create_ok hCreated
  obtain ⟨r, hServes⟩ := Standard.serves
  rw [← hDispatcher] at hServes ⊢
  obtain ⟨plain, full, hAnswerPlain, hAnswer, hAgree⟩ :=
    exists_agreement hPlaces hNonneg (by omega) hServes source target value
  have hRespondPlain : app.respond inPlain = .ok plain := by
    rw [respond_plain hPlain hAsksPlainly.path hAsksPlainly.method,
      queryPayload_of_asksPlainly hAsksPlainly, hAnswerPlain]
  have hRespond : app.respond inFull = .ok full := by
    have hSuit := suits_decimalFields source target value hNonneg hSmall
    rw [respond_conversion hCreated hAsks.path (Or.inl hAsks.method) (isReadable_of_asksInQuery hAsks),
      asked_of_asksInQuery hAsks, convert_congr (ConversionRequest.ofPayload_channels hSuit)]
    exact hAnswer
  refine ⟨app.finish inPlain freshId plain, app.finish inFull freshId' full, ?_, ?_, ?_⟩
  · rw [handle, hRespondPlain]
  · rw [handle, hRespond]
  · exact hAgree.congr (finish_content (Or.inl hAsksPlainly.method) freshId plain)
      (finish_content (Or.inl hAsks.method) freshId' full)

end Application

namespace Standard

/-- A request to the plain endpoint. -/
def plainRequest (query : String) : Request := { conversionRequest query with rawPath := plainPath }

theorem asksPlainly_plainRequest {query source target value : String}
    (hQuery : Query.ofText query = plainFields source target value) :
    (plainRequest query).AsksPlainly source target value := by
  have hPath : (plainRequest "").path = plainPath := by rfl
  exact ⟨hPath, conversionRequest_method query, hQuery⟩

/-- A thousand grams are converted into pounds by both endpoints, with six decimals under the default
settings. -/
theorem plain_agrees_thousandGrams :
    ∃ app plain full, Application.create Standard.platform [] [] Application.defaultSettings [] = .ok app ∧
      app.handle [] (plainRequest (Query.text (plainFields "g" "lb" "1000"))) = .ok plain ∧
      app.handle [] (conversionRequest
        (Query.text (queryFields (decimalFields "g" "lb" "1000" 6)))) = .ok full ∧
      Agreement plain full (some (.ofInt 1000)) (dispatcher.process "g" "lb") := by
  obtain ⟨app, hCreated⟩ := exists_application
  obtain ⟨hPlain, hPlaces⟩ := Application.plain_of_defaultSettings hCreated
  have hValue : numberOfText? "1000".toList = some (.ofInt 1000) := by decide +kernel
  obtain ⟨hPlainQuery, hQuery, hAgree⟩ := Application.plain_agrees hCreated hPlain hPlaces (by decide)
    (by decide) "g" "lb" "1000"
  obtain ⟨plain, full, hAnswerPlain, hAnswer, hAgrees⟩ := hAgree _ _
    (asksPlainly_plainRequest hPlainQuery) (asksInQuery_conversionRequest hQuery) [] []
  rw [hValue] at hAgrees
  exact ⟨app, plain, full, hCreated, hAnswerPlain, hAnswer, hAgrees⟩

end Standard

end UnitConversion
