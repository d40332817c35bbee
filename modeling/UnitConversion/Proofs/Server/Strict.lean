import UnitConversion.Proofs.Server.Envelope
import UnitConversion.Proofs.Server.Paths

/-!
# Strict JSON in all answers

Strict readers of JSON refuse the words for numbers that are not finite. The endpoints of groups, units and
conversions answer with texts that such readers take, whatever text a client makes them repeat: halves of
surrogate pairs, control characters and quotation marks are all escaped. The value is one of two envelopes,
and the status tells which one (`Json.IsEnvelope`).

* `Json.isFinite_of_mem_numbers`: what is read from the text of a legible value has finite numbers.
* `Response.isStrict_success`, `Response.isStrict_failure`: the answers in envelopes.
* `strict_envelopes`: the answers of the endpoints.
-/

namespace UnitConversion

namespace Json

/-! ## What strict readers read -/

/-- JSON without words for numbers that are not finite. -/
def strict (depth : Nat) : Dialect := { words := false, depth := depth }

mutual

/-- The binary64 numbers in a value. -/
def numbers : Json → List Binary64
  | .float x => [x]
  | .array items => itemNumbers items
  | .object ms => memberNumbers ms
  | _ => []

def itemNumbers : List Json → List Binary64
  | [] => []
  | item :: rest => numbers item ++ itemNumbers rest

def memberNumbers : List (Text × Json) → List Binary64
  | [] => []
  | (_, value) :: rest => numbers value ++ memberNumbers rest

end

/-- The envelopes of answers with a status. Success goes with data, and any other status with an error
of three members. -/
inductive IsEnvelope : Int → Json → Prop where
  | success (data : Json) :
      IsEnvelope 200 (.object [("data", data), ("success", .bool true)])
  | failure {status : Int} (hStatus : status ≠ 200) (code message : Text)
      (details : List (Text × Json)) :
      IsEnvelope status
        (.object
          [("error", .object
              [("code", .string code), ("details", .object details), ("message", .string message)]),
            ("success", .bool false)])

mutual

/-- Joining halves of surrogate pairs leaves all numbers as they are, and those of a legible value are
finite. -/
theorem isFinite_of_mem_numbers (j : Json) {depth : Nat} (hLegible : j.Legible depth) :
    ∀ x ∈ j.joined.numbers, x.isFinite = true := by
  match j, depth with
  | .null, _ | .bool _, _ | .int _, _ | .string _, _ => exact List.forall_mem_nil _
  | .float x, _ => exact List.forall_mem_singleton.mpr hLegible
  | .array items, depth + 1 => exact isFinite_of_mem_itemNumbers items hLegible
  | .object ms, depth + 1 => exact isFinite_of_mem_memberNumbers ms hLegible.2

theorem isFinite_of_mem_itemNumbers (items : List Json) {depth : Nat}
    (hLegible : ItemsLegible depth items) :
    ∀ x ∈ itemNumbers (joinedItems items), x.isFinite = true := by
  match items with
  | [] => exact List.forall_mem_nil _
  | item :: rest =>
    exact List.forall_mem_append.mpr
      ⟨isFinite_of_mem_numbers item hLegible.1, isFinite_of_mem_itemNumbers rest hLegible.2⟩

theorem isFinite_of_mem_memberNumbers (ms : List (Text × Json)) {depth : Nat}
    (hLegible : MembersLegible depth ms) :
    ∀ x ∈ memberNumbers (joinedMembers ms), x.isFinite = true := by
  match ms with
  | [] => exact List.forall_mem_nil _
  | (name, value) :: rest =>
    exact List.forall_mem_append.mpr
      ⟨isFinite_of_mem_numbers value hLegible.1, isFinite_of_mem_memberNumbers rest hLegible.2⟩

end

theorem joined_ofString (s : String) : (Text.ofString s).joined = Text.ofString s :=
  Text.joined_ofChars s.toList

theorem nodup_joined {names : List String} (hDistinct : names.Nodup) :
    (names.map fun name => (Text.ofString name).joined).Nodup := by
  simp only [joined_ofString]
  exact nodup_names hDistinct

end Json

/-! ## Answers in envelopes -/

namespace Response

/-- The body is an envelope for the status, in strict JSON with finite numbers only. -/
def IsStrict (response : Response) : Prop :=
  ∃ j, (∀ depth, Json.ofText (Json.strict (depth + 6)) (Text.ofString response.body) = .ok j) ∧
    Json.IsEnvelope response.status j ∧ ∀ x ∈ j.numbers, x.isFinite = true

theorem isStrict_json {j : Json} {status : Int} (hLegible : ∀ depth, j.Legible (depth + 6))
    (hEnvelope : Json.IsEnvelope status j.sorted.joined) : (json status j).IsStrict := by
  refine ⟨j.sorted.joined, fun depth => ?_, hEnvelope, ?_⟩
  · exact ofText_json (Json.strict (depth + 6)) (hLegible depth) status
  · exact Json.isFinite_of_mem_numbers j.sorted (Json.legible_sorted j (hLegible 0))

theorem sorted_success (data : Json) :
    (Json.object [("success", .bool true), ("data", data)]).sorted =
      .object [("data", data.sorted), ("success", .bool true)] := by
  simp +decide [Json.sorted, Json.sortedMembers, Json.sortByName, List.mergeSort,
    List.MergeSort.Internal.splitInTwo]

theorem sorted_failure (code message : Text) (details : List (Text × Json)) :
    (Json.object
        [("success", .bool false),
          ("error", .object
            [("code", .string code), ("message", .string message),
              ("details", .object details)])]).sorted =
      .object
        [("error", .object
            [("code", .string code), ("details", (Json.object details).sorted),
              ("message", .string message)]),
          ("success", .bool false)] := by
  simp +decide [Json.sorted, Json.sortedMembers, Json.sortByName, List.mergeSort,
    List.MergeSort.Internal.splitInTwo]

theorem isStrict_success {data : Json} (hLegible : ∀ depth, data.Legible (depth + 5)) :
    (success data).IsStrict := by
  apply isStrict_json
  · intro depth
    have hNames := Json.nodup_joined (by decide : ["success", "data"].Nodup)
    exact ⟨hNames, trivial, hLegible depth, trivial⟩
  · rw [sorted_success]
    simp only [Json.joined, Json.joinedMembers, Json.joined_ofString]
    exact .success _

theorem isStrict_failure {e : ErrorReport} (hStatus : e.status ≠ 200)
    (hNames : (e.details.map (·.1.joined)).Nodup)
    (hDetails : ∀ depth, Json.MembersLegible (depth + 3) e.details) : (failure e).IsStrict := by
  apply isStrict_json
  · intro depth
    have hOuter := Json.nodup_joined (by decide : ["success", "error"].Nodup)
    have hInner := Json.nodup_joined (by decide : ["code", "message", "details"].Nodup)
    exact ⟨hOuter, trivial, ⟨hInner, trivial, trivial, ⟨hNames, hDetails depth⟩, trivial⟩, trivial⟩
  · rw [ErrorReport.describe, sorted_failure]
    simp only [Json.sorted, Json.joined, Json.joinedMembers, Json.joined_ofString]
    exact .failure hStatus _ _ _

end Response

/-! ## The values that are answered -/

theorem MeasureUnit.legible_describe (u : MeasureUnit) (depth : Nat) :
    u.describe.Legible (depth + 1) := by
  have hNames := Json.nodup_joined (by decide : ["signature", "name"].Nodup)
  exact ⟨hNames, trivial, trivial, trivial⟩

theorem Group.legible_describe (g : Group) (depth : Nat) : g.describe.Legible (depth + 3) := by
  have hNames := Json.nodup_joined (by decide : ["quantity", "primary", "minors"].Nodup)
  refine ⟨hNames, trivial, g.primary.legible_describe (depth + 1), ?_, trivial⟩
  apply Json.itemsLegible_iff.mpr
  intro item hItem
  obtain ⟨u, -, rfl⟩ := List.mem_map.mp hItem
  exact u.legible_describe depth

theorem Converted.legible_describe {c : Converted} (hFinite : c.value.isFinite = true) (depth : Nat) :
    c.describe.Legible (depth + 1) := by
  have hNames := Json.nodup_joined
    (by decide : ["value", "from_unit", "to_unit", "quantity", "formatted"].Nodup)
  exact ⟨hNames, hFinite, trivial, trivial, trivial, trivial, trivial⟩

theorem Fault.legible_describe (f : Fault) (depth : Nat) : f.describe.Legible (depth + 2) := by
  have hNames := Json.nodup_joined (by decide : ["type", "loc", "msg"].Nodup)
  refine ⟨hNames, trivial, ?_, trivial, trivial⟩
  apply Json.itemsLegible_iff.mpr
  intro item hItem
  obtain ⟨name, -, rfl⟩ := List.mem_map.mp hItem
  trivial

theorem Rejection.isStrict_report (j : Rejection) : (Response.failure j.report).IsStrict := by
  apply Response.isStrict_failure j.status_ne
  · cases j with
    | invalidRequest faults => exact List.nodup_singleton _
    | _ => exact List.nodup_nil
  · intro depth
    cases j with
    | invalidRequest faults =>
      refine ⟨Json.itemsLegible_iff.mpr fun item hItem => ?_, trivial⟩
      obtain ⟨f, -, rfl⟩ := List.mem_map.mp hItem
      exact f.legible_describe depth
    | _ => trivial

/-- Conversions that are carried out have finite results. -/
theorem Dispatcher.isFinite_of_converted {platform : Platform} {d : Dispatcher Binary64} {payload : Json}
    {c : Converted} (hConverted : d.answer platform payload = .converted c) : c.value.isFinite = true := by
  unfold answer at hConverted
  split at hConverted
  · rename_i q hRequest
    unfold convert at hConverted
    split at hConverted
    · cases hConverted
    · rename_i x hResult
      split at hConverted
      · cases hConverted
      · rename_i hFinite
        split at hConverted
        · cases hConverted
          simpa using hFinite
        · split at hConverted <;> cases hConverted
  · cases hConverted

namespace Application

variable {app : Application}

theorem isStrict_groups : app.groups.IsStrict := by
  apply Response.isStrict_success
  intro depth
  have hNames := Json.nodup_joined (by decide : ["groups", "quantities"].Nodup)
  refine ⟨hNames, Json.itemsLegible_iff.mpr ?_, Json.itemsLegible_iff.mpr ?_, trivial⟩
  · intro item hItem
    obtain ⟨g, -, rfl⟩ := List.mem_map.mp hItem
    exact g.legible_describe depth
  · intro item hItem
    obtain ⟨g, -, rfl⟩ := List.mem_map.mp hItem
    trivial

theorem isStrict_units (quantity : String) : (app.units quantity).IsStrict := by
  unfold units
  split
  · rename_i g hGroup
    exact Response.isStrict_success fun depth => g.legible_describe (depth + 2)
  · apply Response.isStrict_failure
    · exact (by decide : (404 : Int) ≠ 200)
    · exact List.nodup_nil
    · intro depth
      trivial

theorem isStrict_convert {payload : Json} {response : Response}
    (hAnswer : app.convert payload = .ok response) : response.IsStrict := by
  unfold convert at hAnswer
  split at hAnswer
  · rename_i c hConverted
    cases hAnswer
    have hFinite := Dispatcher.isFinite_of_converted hConverted
    exact Response.isStrict_success fun depth => c.legible_describe hFinite (depth + 4)
  · rename_i j hRejected
    cases hAnswer
    exact j.isStrict_report
  · cases hAnswer

end Application

/-! ## The endpoints -/

open Endpoint

/-- The request asks for groups, for the units of a quantity or for a conversion, in its query or in a
body that is not refused for its length before anything is answered. -/
structure Request.AsksJson (r : Request) (app : Application) (e : Endpoint) : Prop where
  path : LiesAt app.hasPlain e r.path
  endpoint : e = .groups ∨ (∃ quantity, e = .units quantity) ∨ e = .conversion
  method : r.method = .get ∨ (e = .conversion ∧ r.method = .post)
  length : r.method = .post → r.payload app.profile.bodyLimit app.platform.readingDepth ≠ .error .tooLong

namespace Application

variable {app : Application} {r : Request} {e : Endpoint} {response : Response}

theorem isStrict_serve (hAsks : r.AsksJson app e) (hAnswer : app.serve e r = .ok response) :
    response.IsStrict := by
  obtain ⟨-, hEndpoint, hMethod, hLength⟩ := hAsks
  rcases hMethod with hGet | ⟨rfl, hPost⟩
  · rcases hEndpoint with rfl | ⟨quantity, rfl⟩ | rfl
    · simp only [serve, hGet] at hAnswer
      cases hAnswer
      exact isStrict_groups
    · simp only [serve, hGet] at hAnswer
      cases hAnswer
      exact isStrict_units quantity
    · simp only [serve, hGet] at hAnswer
      exact isStrict_convert hAnswer
  · simp only [serve, hPost] at hAnswer
    split at hAnswer
    · exact isStrict_convert hAnswer
    · rename_i hTooLong
      exact absurd hTooLong (hLength hPost)
    · cases hAnswer

theorem respond_of_asksJson (hAsks : r.AsksJson app e) : app.respond r = app.serve e r := by
  apply respond_of_liesAt hAsks.path
  rcases hAsks.method with hGet | ⟨rfl, hPost⟩
  · rw [hGet]
    cases e <;> simp [methods]
  · rw [hPost]
    simp [methods]

/-- **Strict envelopes.** Whenever an endpoint of the interface in JSON answers a request, the body that is
sent is an envelope for the status in strict JSON, and all numbers in it are finite. -/
theorem strict_envelopes (hAsks : r.AsksJson app e) (hRespond : app.respond r = .ok response)
    (freshId : Text) : ∃ sent, app.handle freshId r = .ok sent ∧ sent.status = response.status ∧
      sent.IsStrict := by
  have hMethod : r.method = .get ∨ r.method = .post := hAsks.method.imp_right And.right
  have hContent : (app.finish r freshId response).content = response.content :=
    finish_content hMethod freshId response
  obtain ⟨hStatus, hBody⟩ := Prod.mk.inj hContent
  have hServe := (respond_of_asksJson hAsks).symm.trans hRespond
  obtain ⟨j, hRead, hEnvelope, hFinite⟩ := isStrict_serve hAsks hServe
  refine ⟨_, handle_of_ok hRespond freshId, hStatus, j, fun depth => ?_, ?_, hFinite⟩
  · rw [hBody]
    exact hRead depth
  · rw [hStatus]
    exact hEnvelope

end Application

namespace Standard

/-- The answer to a conversion of a gram into pounds is a strict envelope. -/
theorem strict_envelopes_gramInPounds :
    ∃ app, Application.create Standard.platform [] [] Application.defaultSettings [] = .ok app ∧
      ∃ sent, app.handle [] (conversionRequest "value=1&from_unit=g&to_unit=lb") = .ok sent ∧
        sent.status = 200 ∧ sent.IsStrict := by
  obtain ⟨app, hCreated⟩ := exists_application
  obtain ⟨c, hRespond, -⟩ := respond_conversionRequest hCreated
    "value=1&from_unit=g&to_unit=lb" "0.00220462442018378" (by decide +kernel)
  have hAsks : (conversionRequest "value=1&from_unit=g&to_unit=lb").AsksJson app .conversion := by
    refine ⟨.conversion, Or.inr (Or.inr rfl), Or.inl (conversionRequest_method _), fun hPost => ?_⟩
    rw [conversionRequest_method] at hPost
    cases hPost
  obtain ⟨sent, hSent, hStatus, hStrict⟩ := Application.strict_envelopes hAsks hRespond []
  exact ⟨app, hCreated, sent, hSent, hStatus, hStrict⟩

end Standard

end UnitConversion
