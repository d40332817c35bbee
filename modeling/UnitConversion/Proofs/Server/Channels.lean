import UnitConversion.Proofs.Json.Bytes
import UnitConversion.Proofs.Server.Formatted
import UnitConversion.Proofs.Validation.Channels
import UnitConversion.Proofs.Web.Query

/-!
# Conversions by query and by body

A conversion can be asked for with the fields in a query or in a JSON object that is posted. What the
endpoint answers depends on no more than the request that the payload makes, and that is the same for
both, so that both have the same answer: the same result, the same faults in the same order, or the same
failure.

* `Request.AsksInQuery`, `Request.AsksInBody`: the requests that carry given fields.
* `asked_of_asksInBody`: the payload of a request that carries fields.
* `channels_agree`: both requests have the same answer.
-/

namespace UnitConversion

/-! ## Requests that carry fields -/

/-- The request asks for a conversion with the fields in its query. -/
structure Request.AsksInQuery (r : Request) (fields : List (String × FieldInput)) : Prop where
  path : r.path = conversionPath
  method : r.method = .get
  query : Query.ofText r.query = queryFields fields

/-- The request asks for a conversion with the fields in a JSON object in its body. -/
structure Request.AsksInBody (platform : Platform) (r : Request) (fields : List (String × FieldInput)) : Prop where
  path : r.path = conversionPath
  method : r.method = .post
  hasJson : r.hasJson = true
  length : r.body.length ≤ bodyLimit
  body : Json.ofBytes { depth := platform.readingDepth } r.body = .ok (.object (bodyMembers fields))

variable {platform : Platform} {r : Request} {fields : List (String × FieldInput)}

theorem asked_of_asksInQuery (hAsks : r.AsksInQuery fields) :
    r.asked platform = .object (queryMembers (queryFields fields)) := by
  have hNotPost : r.method ≠ .post := by
    rw [hAsks.method]
    decide
  rw [Request.asked, if_neg hNotPost, Request.queryPayload, hAsks.query]
  rfl

theorem isReadable_of_asksInQuery (hAsks : r.AsksInQuery fields) : r.IsReadable platform := by
  intro hPost
  rw [hAsks.method] at hPost
  cases hPost

theorem asked_of_asksInBody (hAsks : r.AsksInBody platform fields) :
    r.asked platform = .object (bodyMembers fields) := by
  have hShort : ¬ Request.bodyLimit < r.body.length := Nat.not_lt.mpr hAsks.length
  rw [Request.asked, if_pos hAsks.method, Request.payload, hAsks.hasJson, hAsks.body]
  simp [hShort]

theorem isReadable_of_asksInBody (hAsks : r.AsksInBody platform fields) : r.IsReadable platform := by
  refine fun _ => ⟨hAsks.length, fun inArray hDeep => ?_⟩
  rw [hAsks.body] at hDeep
  cases hDeep

/-! ## Encodings that are read back -/

theorem isWhole_ofString (s : String) : (Text.ofString s).isWhole = true :=
  Text.isWhole_ofChars s.toList

theorem fits_json {name : String} {input : FieldInput} (hSuits : input.Suits name) (depth : Nat) :
    input.json.Fits depth := by
  cases input with
  | text s => cases depth <;> exact isWhole_ofString s
  | number x => cases depth <;> exact hSuits.2
  | integer n =>
    have hLimit : n.natAbs < 10 ^ Json.integerDigitLimit :=
      Nat.lt_of_lt_of_le hSuits.2 (Nat.pow_le_pow_right (by decide) (by decide))
    cases depth <;> exact hLimit

theorem membersFit_bodyMembers (hSuit : ∀ field ∈ fields, field.2.Suits field.1) (depth : Nat) :
    Json.MembersFit depth (bodyMembers fields) := by
  induction fields with
  | nil => trivial
  | cons field rest ih =>
    obtain ⟨hHead, hRest⟩ := List.forall_mem_cons.mp hSuit
    exact ⟨isWhole_ofString field.1, fits_json hHead depth, ih hRest⟩

theorem nodup_bodyMembers (hDistinct : (fields.map Prod.fst).Nodup) :
    ((bodyMembers fields).map Prod.fst).Nodup := by
  have hNames : (bodyMembers fields).map Prod.fst = (fields.map Prod.fst).map Text.ofString := by
    simp [bodyMembers]
  rw [hNames]
  exact hDistinct.map fun _ _ => Text.ofString_injective

/-- The fields are read again from the query that is written for them. -/
theorem ofText_queryFields (hDistinct : (fields.map Prod.fst).Nodup) :
    Query.ofText (Query.text (queryFields fields)) = queryFields fields := by
  refine Query.isReader_ofText.read_text ?_
  have hNames : (queryFields fields).map Prod.fst = fields.map Prod.fst := by simp [queryFields]
  rwa [hNames]

theorem Platform.exists_readingDepth (platform : Platform) : ∃ depth, platform.readingDepth = depth + 8 :=
  Nat.exists_eq_add_of_le' platform.depths_ge.1

/-- The fields are read again from the JSON text that is written for them. -/
theorem ofBytes_bodyMembers (platform : Platform) (hDistinct : (fields.map Prod.fst).Nodup)
    (hSuit : ∀ field ∈ fields, field.2.Suits field.1) :
    Json.ofBytes { depth := platform.readingDepth }
        (Utf8.encode (Json.object (bodyMembers fields)).text.toList) =
      .ok (.object (bodyMembers fields)) := by
  obtain ⟨depth, hDepth⟩ := platform.exists_readingDepth
  have hFits : (Json.object (bodyMembers fields)).Fits platform.readingDepth := by
    rw [hDepth]
    exact ⟨nodup_bodyMembers hDistinct, membersFit_bodyMembers hSuit (depth + 7)⟩
  exact Json.ofBytes_encode _ hFits

/-! ## Answers -/

/-- What of an answer depends on the conversion: the status and the body. -/
def Response.content (response : Response) : Int × String := (response.status, response.body)

namespace Application

variable {app : Application}

/-- The endpoint looks at no more of a payload than the request that it makes. -/
theorem convert_congr {payload payload' : Json}
    (hRequest : ConversionRequest.ofPayload payload = ConversionRequest.ofPayload payload') :
    app.convert payload = app.convert payload' := by
  rw [convert, convert, Dispatcher.answer, Dispatcher.answer, hRequest]

theorem finish_content {r : Request} (hMethod : r.method = .get ∨ r.method = .post) (freshId : Text)
    (response : Response) : (app.finish r freshId response).content = response.content := by
  rw [Response.content, finish_status, finish_body hMethod, Response.content]

/-- Requests that the endpoints answer alike are answered alike, headers aside. -/
theorem handle_content_congr {r r' : Request} (hMethod : r.method = .get ∨ r.method = .post)
    (hMethod' : r'.method = .get ∨ r'.method = .post) (hRespond : app.respond r = app.respond r')
    (freshId freshId' : Text) :
    (app.handle freshId r).map Response.content = (app.handle freshId' r').map Response.content := by
  unfold handle
  rw [hRespond]
  cases app.respond r' with
  | ok response => simp only [Except.map, finish_content hMethod, finish_content hMethod']
  | error e =>
    cases app.profile.underTest with
    | true => rfl
    | false => simp [Except.map, finish_content hMethod, finish_content hMethod']

/-- **Queries and bodies agree.** Fields with distinct names are asked for in a query or in the body, the
value as any finite number, a precision as an integer, and everything as any text. Both requests come to
the conversion that the JSON object asks for, and are sent the same status and the same body, or fail
alike. The query and the JSON text that are written for the fields make requests of this kind. -/
theorem channels_agree {platform : Platform} {env : Environment} {freshSecret profileName : Text}
    {settings : Setting} (hCreated : create platform env freshSecret settings profileName = .ok app)
    {fields : List (String × FieldInput)} (hDistinct : (fields.map Prod.fst).Nodup)
    (hSuit : ∀ field ∈ fields, field.2.Suits field.1) :
    Query.ofText (Query.text (queryFields fields)) = queryFields fields ∧
      Json.ofBytes { depth := platform.readingDepth }
          (Utf8.encode (Json.object (bodyMembers fields)).text.toList) =
        .ok (.object (bodyMembers fields)) ∧
      ∀ inQuery inBody : Request, inQuery.AsksInQuery fields → inBody.AsksInBody platform fields →
        app.respond inQuery = app.convert (.object (bodyMembers fields)) ∧
          app.respond inBody = app.convert (.object (bodyMembers fields)) ∧
          ∀ freshId freshId', (app.handle freshId inQuery).map Response.content =
            (app.handle freshId' inBody).map Response.content := by
  refine ⟨ofText_queryFields hDistinct, ofBytes_bodyMembers platform hDistinct hSuit, ?_⟩
  intro inQuery inBody hQuery hBody
  have hInQuery : app.respond inQuery = app.convert (.object (bodyMembers fields)) := by
    rw [respond_conversion hCreated hQuery.path (Or.inl hQuery.method)
      (isReadable_of_asksInQuery hQuery), asked_of_asksInQuery hQuery]
    exact convert_congr (ConversionRequest.ofPayload_channels hSuit)
  have hInBody : app.respond inBody = app.convert (.object (bodyMembers fields)) := by
    rw [respond_conversion hCreated hBody.path (Or.inr (Or.inr hBody.method))
      (isReadable_of_asksInBody hBody), asked_of_asksInBody hBody]
  exact ⟨hInQuery, hInBody, handle_content_congr (Or.inl hQuery.method) (Or.inr hBody.method)
    (hInQuery.trans hInBody.symm)⟩

end Application

namespace Standard

/-- A conversion request with JSON in its body. -/
def postedRequest (body : List UInt8) : Request :=
  { conversionRequest "" with
    methodName := "POST"
    contentType := "application/json"
    body := body
    hasLineBreak_contentType := by rfl }

theorem postedRequest_method (body : List UInt8) : (postedRequest body).method = .post :=
  Method.ofName_name (Or.inr (Or.inr rfl))

theorem postedRequest_hasJson (body : List UInt8) : (postedRequest body).hasJson = true := by
  have hJson : (postedRequest []).hasJson = true := by rfl
  exact hJson

theorem asksInQuery_conversionRequest {query : String}
    (hQuery : Query.ofText query = queryFields fields) :
    (conversionRequest query).AsksInQuery fields :=
  ⟨conversionRequest_path query, conversionRequest_method query, hQuery⟩

theorem asksInBody_postedRequest {body : List UInt8} (hLength : body.length ≤ Request.bodyLimit)
    (hBody : Json.ofBytes { depth := platform.readingDepth } body = .ok (.object (bodyMembers fields))) :
    (postedRequest body).AsksInBody platform fields :=
  ⟨conversionRequest_path "", postedRequest_method body, postedRequest_hasJson body, hLength, hBody⟩

/-- A gram in pounds, in three significant figures. -/
def gramFields : List (String × FieldInput) :=
  [("value", .number (.ofInt 1)), ("from_unit", .text "g"), ("to_unit", .text "lb"),
    ("sig_figs", .integer 3)]

/-- A gram in pounds is converted alike by query and by body. -/
theorem channels_agree_gramFields :
    ∃ app, Application.create Standard.platform [] [] Application.defaultSettings [] = .ok app ∧
      ∀ freshId freshId',
        (app.handle freshId (conversionRequest (Query.text (queryFields gramFields)))).map
            Response.content =
          (app.handle freshId' (postedRequest
            (Utf8.encode (Json.object (bodyMembers gramFields)).text.toList))).map
              Response.content := by
  obtain ⟨app, hCreated⟩ := exists_application
  have hDistinct : (gramFields.map Prod.fst).Nodup := by simp [gramFields]
  have hFinite : (Binary64.ofInt 1).isFinite = true := by decide +kernel
  have hDigits : 3 < 10 ^ FieldInput.digitLimit :=
    Nat.lt_of_lt_of_le (by decide : 3 < 10 ^ 1) (Nat.pow_le_pow_right (by decide) (by decide))
  have hSuit : ∀ field ∈ gramFields, field.2.Suits field.1 := by
    simp [gramFields, FieldInput.Suits, hFinite, hDigits]
  have hLength : (Utf8.encode (Json.object (bodyMembers gramFields)).text.toList).length ≤
      Request.bodyLimit := by decide +kernel
  obtain ⟨hQuery, hBody, hAgree⟩ := Application.channels_agree hCreated hDistinct hSuit
  have hSame := hAgree _ _ (asksInQuery_conversionRequest hQuery)
    (asksInBody_postedRequest hLength hBody)
  exact ⟨app, hCreated, hSame.2.2⟩

end Standard

end UnitConversion
