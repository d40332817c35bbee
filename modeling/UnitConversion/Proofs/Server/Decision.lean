import UnitConversion.Proofs.Conversion.Quantities
import UnitConversion.Proofs.Rendering.Precision
import UnitConversion.Proofs.Server.Creation

/-!
# How a conversion is decided

The answer to the payload of a conversion is the first that applies of a list of cases, each of which is
stated by itself (`Decides`). The cases speak of the signatures and quantities of the catalog, of the
result of the conversion and of the precision, and not of the steps in which a server looks at them.
Only a result that cannot be written in the precision asked for falls under no case (`AsksBeyond`).

* `process_eq_none_iff_quantity`: between known units there is no conversion exactly when their
  quantities differ.
* `convert_of_decides`: the case that applies gives the answer.
* `decides_or_asksBeyond`: some case applies to any other payload.
* `convert_decided`: the answers of an application are the decided ones.
-/

namespace UnitConversion

/-- The request asks for a conversion between these units of the groups. -/
structure ConversionRequest.Names (q : ConversionRequest) (groups : List Group)
    (s t : MeasureUnit) : Prop where
  source_mem : s ∈ catalogUnits groups
  source_eq : s.signature = q.source
  target_mem : t ∈ catalogUnits groups
  target_eq : t.signature = q.target

section Cases

variable (platform : Platform) (groups : List Group) (process : Text → Text → Binary64 → Option Binary64)
  (payload : Json)

/-- How the payload of a conversion is answered, given the groups of units and the conversions between
them. Each case excludes those before it. -/
inductive Decides : Response → Prop where
  /-- The payload is at fault. -/
  | invalidRequest {faults : List Fault}
      (hFaults : ConversionRequest.ofPayload payload = .error faults) :
      Decides (.failure {
        kind := .validation
        message := "Invalid request payload"
        code := "unit.invalid_request"
        status := 400
        details := [("errors", .array (faults.map Fault.describe))] })
  /-- The source is the signature of no unit. -/
  | unknownSource {q : ConversionRequest}
      (hRequest : ConversionRequest.ofPayload payload = .ok q)
      (hSource : q.source ∉ signatures (catalogUnits groups)) :
      Decides (.failure {
        kind := .validation
        message := "Unknown unit '" ++ q.source ++ "'."
        code := "unit.invalid_unit"
        status := 400 })
  /-- The source is known, and the target is the signature of no unit. -/
  | unknownTarget {q : ConversionRequest}
      (hRequest : ConversionRequest.ofPayload payload = .ok q)
      (hSource : q.source ∈ signatures (catalogUnits groups))
      (hTarget : q.target ∉ signatures (catalogUnits groups)) :
      Decides (.failure {
        kind := .validation
        message := "Unknown unit '" ++ q.target ++ "'."
        code := "unit.invalid_unit"
        status := 400 })
  /-- Both units are known and have different quantities. -/
  | dimensionMismatch {q : ConversionRequest} {s t : MeasureUnit}
      (hRequest : ConversionRequest.ofPayload payload = .ok q) (hNames : q.Names groups s t)
      (hQuantity : s.quantity ≠ t.quantity) :
      Decides (.failure {
        kind := .validation
        message := "Cannot convert " ++ s.quantity ++ " '" ++ s.signature ++ "' to " ++
          t.quantity ++ " '" ++ t.signature ++ "'."
        code := "unit.dimension_mismatch"
        status := 422 })
  /-- Both units are of one quantity, and the result is not finite. -/
  | notFinite {q : ConversionRequest} {s t : MeasureUnit} {x : Binary64}
      (hRequest : ConversionRequest.ofPayload payload = .ok q) (hNames : q.Names groups s t)
      (hQuantity : s.quantity = t.quantity)
      (hResult : process q.source q.target q.value = some x) (hInfinite : x.isFinite = false) :
      Decides (.failure {
        kind := .validation
        message := "Converting " ++ Text.ofString q.value.shortest ++ " from '" ++ q.source ++
          "' to '" ++ q.target ++ "' overflows."
        code := "unit.non_finite_result"
        status := 422 })
  /-- The result is finite, and the precision is at fault whatever the result. -/
  | invalidPrecision {q : ConversionRequest} {s t : MeasureUnit} {x : Binary64} {e : FormatError}
      (hRequest : ConversionRequest.ofPayload payload = .ok q) (hNames : q.Names groups s t)
      (hQuantity : s.quantity = t.quantity)
      (hResult : process q.source q.target q.value = some x) (hFinite : x.isFinite = true)
      (hFault : q.precision.fault? = some e) :
      Decides (.failure {
        kind := .validation
        message := e.message
        code := "unit.invalid_precision"
        status := 400 })
  /-- The result is finite, and can be written in the precision. -/
  | converted {q : ConversionRequest} {s t : MeasureUnit} {x : Binary64} {text : String}
      (hRequest : ConversionRequest.ofPayload payload = .ok q) (hNames : q.Names groups s t)
      (hQuantity : s.quantity = t.quantity)
      (hResult : process q.source q.target q.value = some x) (hFinite : x.isFinite = true)
      (hFault : q.precision.fault? = none) (hText : x.format platform q.precision = .ok text) :
      Decides (.success (.object
        [("value", .float x), ("from_unit", .string q.source), ("to_unit", .string q.target),
          ("quantity", .string s.quantity), ("formatted", .string text)]))

/-- The payload asks for a result in a precision that it cannot be written in. -/
def AsksBeyond : Prop :=
  ∃ q x, ConversionRequest.ofPayload payload = .ok q ∧
    process q.source q.target q.value = some x ∧ x.isFinite = true ∧ q.precision.IsBeyond platform x

end Cases

/-! ## Quantities and conversions -/

namespace Dispatcher

variable {platform : Platform} {d : Dispatcher Binary64} {groups : List Group} {r : Registry Binary64}
  {q : ConversionRequest} {s t : MeasureUnit} {x : Binary64}

/-- Between known units there is no conversion exactly when their quantities differ. -/
theorem Serves.process_eq_none_iff_quantity (hServes : d.Serves groups r)
    (hDistinct : (groups.map (·.quantity)).Nodup) (hNames : q.Names groups s t) :
    d.process q.source q.target q.value = none ↔ s.quantity ≠ t.quantity :=
  hServes.process_eq_none_iff_quantity_ne hDistinct
    (hServes.unit?_eq_some_iff.mpr ⟨hNames.source_mem, hNames.source_eq⟩)
    (hServes.unit?_eq_some_iff.mpr ⟨hNames.target_mem, hNames.target_eq⟩) q.value

/-- The units that a request for a conversion between known signatures names. -/
theorem exists_names (hSource : q.source ∈ signatures (catalogUnits groups))
    (hTarget : q.target ∈ signatures (catalogUnits groups)) : ∃ s t, q.Names groups s t := by
  obtain ⟨s, hs, hSourceEq⟩ := mem_signatures.mp hSource
  obtain ⟨t, ht, hTargetEq⟩ := mem_signatures.mp hTarget
  exact ⟨s, t, hs, hSourceEq, ht, hTargetEq⟩

/-! ## The steps of a dispatcher -/

theorem convert_of_none (hNone : d.process q.source q.target q.value = none) :
    d.convert platform q = .rejected (d.mismatch q.source q.target) := by
  rw [convert, hNone]

theorem convert_of_not_isFinite (hResult : d.process q.source q.target q.value = some x)
    (hInfinite : x.isFinite = false) : d.convert platform q = .rejected (.overflow q) := by
  simp [convert, hResult, hInfinite]

theorem convert_of_text {text : String} (hResult : d.process q.source q.target q.value = some x)
    (hFinite : x.isFinite = true) (hText : x.format platform q.precision = .ok text) :
    d.convert platform q = .converted ⟨x, q.source, q.target, d.quantityOf q.source, text⟩ := by
  simp [convert, hResult, hFinite, hText]

theorem convert_of_badInput {e : FormatError}
    (hResult : d.process q.source q.target q.value = some x) (hFinite : x.isFinite = true)
    (hError : x.format platform q.precision = .error e) (hBad : e.isBadInput = true) :
    d.convert platform q = .rejected (.invalidPrecision e) := by
  simp [convert, hResult, hFinite, hError, hBad]

theorem convert_of_limit {e : FormatError}
    (hResult : d.process q.source q.target q.value = some x) (hFinite : x.isFinite = true)
    (hError : x.format platform q.precision = .error e) (hLimit : e.isBadInput = false) :
    d.convert platform q = .failed e := by
  simp [convert, hResult, hFinite, hError, hLimit]

theorem answer_of_request {payload : Json} (hRequest : ConversionRequest.ofPayload payload = .ok q) :
    d.answer platform payload = d.convert platform q := by
  simp [answer, hRequest]

namespace Serves

variable (hServes : d.Serves groups r)

include hServes

theorem mismatch_of_unknown_source (hSource : q.source ∉ signatures (catalogUnits groups)) :
    d.mismatch q.source q.target = .unknownUnit q.source := by
  rw [mismatch, hServes.unit?_eq_none_iff.mpr hSource]

theorem mismatch_of_unknown_target (hSource : q.source ∈ signatures (catalogUnits groups))
    (hTarget : q.target ∉ signatures (catalogUnits groups)) :
    d.mismatch q.source q.target = .unknownUnit q.target := by
  obtain ⟨s, hs⟩ := Option.isSome_iff_exists.mp (hServes.unit?_isSome_iff.mpr hSource)
  rw [mismatch, hs, hServes.unit?_eq_none_iff.mpr hTarget]

theorem mismatch_of_names (hNames : q.Names groups s t) :
    d.mismatch q.source q.target = .dimensionMismatch s t := by
  rw [mismatch, hServes.unit?_eq_some_iff.mpr ⟨hNames.source_mem, hNames.source_eq⟩,
    hServes.unit?_eq_some_iff.mpr ⟨hNames.target_mem, hNames.target_eq⟩]

theorem quantityOf_of_names (hNames : q.Names groups s t) :
    d.quantityOf q.source = s.quantity := by
  rw [quantityOf, hServes.unit?_eq_some_iff.mpr ⟨hNames.source_mem, hNames.source_eq⟩]
  rfl

/-- A conversion of which a signature is unknown has no result. -/
theorem process_eq_none_of_unknown
    (hUnknown : q.source ∉ signatures (catalogUnits groups) ∨
      q.target ∉ signatures (catalogUnits groups)) :
    d.process q.source q.target q.value = none := by
  rw [hServes.process_eq_none_iff, not_exists_group_iff hServes.nodup]
  rcases hUnknown with hSource | hTarget
  · exact Or.inl hSource
  · exact Or.inr (Or.inl hTarget)

end Serves

end Dispatcher

/-! ## The decided answer and the answer of an application -/

namespace Application

variable {app : Application} {groups : List Group} {r : Registry Binary64} {payload : Json}
  {q : ConversionRequest}

theorem convert_of_converted {c : Converted} (hOutcome : app.dispatcher.answer app.platform payload = .converted c) :
    app.convert payload = .ok (.success c.describe) := by
  rw [convert, hOutcome]

theorem convert_of_rejected {j : Rejection} (hOutcome : app.dispatcher.answer app.platform payload = .rejected j) :
    app.convert payload = .ok (.failure j.report) := by
  rw [convert, hOutcome]

theorem convert_of_failed {e : FormatError} (hOutcome : app.dispatcher.answer app.platform payload = .failed e) :
    app.convert payload = .error (.format e) := by
  rw [convert, hOutcome]

/-- The case that applies gives the answer. -/
theorem convert_of_decides (hServes : app.dispatcher.Serves groups r)
    (hDistinct : (groups.map (·.quantity)).Nodup) {response : Response}
    (hDecides : Decides app.platform groups app.dispatcher.process payload response) :
    app.convert payload = .ok response := by
  cases hDecides with
  | invalidRequest hFaults =>
    refine convert_of_rejected (j := .invalidRequest _) ?_
    simp [Dispatcher.answer, hFaults]
  | @unknownSource q hRequest hSource =>
    have hNone := hServes.process_eq_none_of_unknown (Or.inl hSource)
    refine convert_of_rejected (j := .unknownUnit q.source) ?_
    rw [Dispatcher.answer_of_request hRequest, Dispatcher.convert_of_none hNone,
      hServes.mismatch_of_unknown_source hSource]
  | @unknownTarget q hRequest hSource hTarget =>
    have hNone := hServes.process_eq_none_of_unknown (Or.inr hTarget)
    refine convert_of_rejected (j := .unknownUnit q.target) ?_
    rw [Dispatcher.answer_of_request hRequest, Dispatcher.convert_of_none hNone,
      hServes.mismatch_of_unknown_target hSource hTarget]
  | @dimensionMismatch q s t hRequest hNames hQuantity =>
    have hNone := (hServes.process_eq_none_iff_quantity hDistinct hNames).mpr hQuantity
    refine convert_of_rejected (j := .dimensionMismatch s t) ?_
    rw [Dispatcher.answer_of_request hRequest, Dispatcher.convert_of_none hNone,
      hServes.mismatch_of_names hNames]
  | @notFinite q s t x hRequest hNames hQuantity hResult hInfinite =>
    refine convert_of_rejected (j := .overflow q) ?_
    rw [Dispatcher.answer_of_request hRequest,
      Dispatcher.convert_of_not_isFinite hResult hInfinite]
  | @invalidPrecision q s t x e hRequest hNames hQuantity hResult hFinite hFault =>
    refine convert_of_rejected (j := .invalidPrecision e) ?_
    rw [Dispatcher.answer_of_request hRequest]
    exact Dispatcher.convert_of_badInput hResult hFinite (Binary64.format_of_fault hFault x)
      (Precision.isBadInput_of_fault hFault)
  | @converted q s t x text hRequest hNames hQuantity hResult hFinite hFault hText =>
    refine convert_of_converted (c := ⟨x, q.source, q.target, s.quantity, text⟩) ?_
    rw [Dispatcher.answer_of_request hRequest, Dispatcher.convert_of_text hResult hFinite hText,
      hServes.quantityOf_of_names hNames]

/-- A payload that asks for a precision beyond its result has no answer. -/
theorem convert_of_asksBeyond (hBeyond : AsksBeyond app.platform app.dispatcher.process payload) :
    ∃ e, e.isBadInput = false ∧ app.convert payload = .error (.format e) := by
  obtain ⟨q, x, hRequest, hResult, hFinite, hPrecision⟩ := hBeyond
  obtain ⟨e, hError, hLimit⟩ := Binary64.format_of_isBeyond hPrecision
  refine ⟨e, hLimit, convert_of_failed ?_⟩
  rw [Dispatcher.answer_of_request hRequest]
  exact Dispatcher.convert_of_limit hResult hFinite hError hLimit

/-- Some case applies to any payload that does not ask for a precision beyond its result. -/
theorem decides_or_asksBeyond (hServes : app.dispatcher.Serves groups r)
    (hDistinct : (groups.map (·.quantity)).Nodup) (payload : Json) :
    (∃ response, Decides app.platform groups app.dispatcher.process payload response) ∨
      AsksBeyond app.platform app.dispatcher.process payload := by
  cases hRequest : ConversionRequest.ofPayload payload with
  | error faults => exact Or.inl ⟨_, .invalidRequest hRequest⟩
  | ok q =>
    -- In the order of the cases: each is asked about when those before it do not apply.
    by_cases hSource : q.source ∈ signatures (catalogUnits groups)
    case neg => exact Or.inl ⟨_, .unknownSource hRequest hSource⟩
    by_cases hTarget : q.target ∈ signatures (catalogUnits groups)
    case neg => exact Or.inl ⟨_, .unknownTarget hRequest hSource hTarget⟩
    obtain ⟨s, t, hNames⟩ := Dispatcher.exists_names hSource hTarget
    by_cases hQuantity : s.quantity = t.quantity
    case neg => exact Or.inl ⟨_, .dimensionMismatch hRequest hNames hQuantity⟩
    cases hResult : app.dispatcher.process q.source q.target q.value with
    | none =>
      exact absurd hQuantity ((hServes.process_eq_none_iff_quantity hDistinct hNames).mp hResult)
    | some x =>
      cases hFinite : x.isFinite with
      | false => exact Or.inl ⟨_, .notFinite hRequest hNames hQuantity hResult hFinite⟩
      | true =>
        cases hFault : q.precision.fault? with
        | some e =>
          exact Or.inl ⟨_, .invalidPrecision hRequest hNames hQuantity hResult hFinite hFault⟩
        | none =>
          by_cases hBeyond : q.precision.IsBeyond app.platform x
          · exact Or.inr ⟨q, x, hRequest, hResult, hFinite, hBeyond⟩
          · obtain ⟨text, hText⟩ := Binary64.format_of_not_isBeyond hFault hBeyond
            exact Or.inl ⟨_, .converted hRequest hNames hQuantity hResult hFinite hFault hText⟩

section Created

variable {platform : Platform} {env : Environment} {freshSecret profileName : Text} {settings : Setting}
  (hCreated : create platform env freshSecret settings profileName = .ok app)

include hCreated

theorem convert_eq_ok_iff {response : Response} :
    app.convert payload = .ok response ↔
      Decides platform Standard.catalog Standard.dispatcher.process payload response := by
  obtain rfl := platform_of_create hCreated
  obtain ⟨hDispatcher, -⟩ := create_ok hCreated
  obtain ⟨r, hServes⟩ := Standard.serves
  rw [← hDispatcher] at hServes ⊢
  constructor
  · intro hAnswer
    rcases decides_or_asksBeyond hServes Standard.nodup_quantities payload with
      ⟨response', hDecides⟩ | hBeyond
    · have hDecided := convert_of_decides hServes Standard.nodup_quantities hDecides
      obtain rfl := Except.ok.inj (hAnswer.symm.trans hDecided)
      exact hDecides
    · obtain ⟨e, -, hError⟩ := convert_of_asksBeyond hBeyond
      rw [hError] at hAnswer
      cases hAnswer
  · exact convert_of_decides hServes Standard.nodup_quantities

theorem exists_convert_iff :
    (∃ response, app.convert payload = .ok response) ↔
      ¬ AsksBeyond platform Standard.dispatcher.process payload := by
  obtain rfl := platform_of_create hCreated
  obtain ⟨hDispatcher, -⟩ := create_ok hCreated
  obtain ⟨r, hServes⟩ := Standard.serves
  rw [← hDispatcher] at hServes ⊢
  constructor
  · rintro ⟨response, hAnswer⟩ hBeyond
    obtain ⟨e, -, hError⟩ := convert_of_asksBeyond hBeyond
    rw [hError] at hAnswer
    cases hAnswer
  · intro hWithin
    rcases decides_or_asksBeyond hServes Standard.nodup_quantities payload with
      ⟨response, hDecides⟩ | hBeyond
    · exact ⟨response, convert_of_decides hServes Standard.nodup_quantities hDecides⟩
    · exact absurd hBeyond hWithin

end Created

end Application

/-- With moderate precisions, the results that cannot be written are those far below one of which
almost two million figures are asked for. -/
theorem asksBeyond_iff_of_bounds {platform : Platform} {process : Text → Text → Binary64 → Option Binary64}
    {payload : Json} {q : ConversionRequest} (hRequest : ConversionRequest.ofPayload payload = .ok q)
    (hDecimals : ∀ places, q.precision.decimals = some places → places < 2 ^ 31)
    (hFigures : ∀ count, q.precision.figures = some count → count < 2000000) :
    AsksBeyond platform process payload ↔
      q.precision.decimals = none ∧ ∃ count, q.precision.figures = some count ∧ 1999731 < count ∧
        ∃ s m, process q.source q.target q.value = some (.finite s m) ∧ m.units ≠ 0 ∧
          platform.logFloor m - count + 1 < -2000054 := by
  constructor
  · rintro ⟨q', x, hRequest', hResult, -, hBeyond⟩
    obtain rfl := Except.ok.inj (hRequest.symm.trans hRequest')
    obtain ⟨hNone, count, hCount, hMany, s, m, rfl, hNonzero, hPlace⟩ :=
      (Precision.isBeyond_iff_of_bounds hDecimals hFigures).mp hBeyond
    exact ⟨hNone, count, hCount, hMany, s, m, hResult, hNonzero, hPlace⟩
  · rintro ⟨hNone, count, hCount, hMany, s, m, hResult, hNonzero, hPlace⟩
    refine ⟨q, _, hRequest, hResult, rfl, ?_⟩
    exact (Precision.isBeyond_iff_of_bounds hDecimals hFigures).mpr
      ⟨hNone, count, hCount, hMany, s, m, rfl, hNonzero, hPlace⟩

/-- **The decision tree of conversions.** An application answers a payload by the first case that applies,
whatever else is wrong with it. It has no answer exactly when the result cannot be written in the
precision asked for. With decimals that fit in 31 bits and less than two million significant figures,
that is a result other than zero whose last figure lies below the range of decimal exponents. -/
theorem Application.convert_decided {platform : Platform} {env : Environment} {freshSecret profileName : Text}
    {settings : Setting} {app : Application}
    (hCreated : create platform env freshSecret settings profileName = .ok app) (payload : Json) :
    (∀ response, app.convert payload = .ok response ↔
      Decides platform Standard.catalog Standard.dispatcher.process payload response) ∧
    ((∃ response, app.convert payload = .ok response) ↔
      ¬ AsksBeyond platform Standard.dispatcher.process payload) ∧
    ∀ q, ConversionRequest.ofPayload payload = .ok q →
      (∀ places, q.precision.decimals = some places → places ≤ 2147483647) →
      (∀ count, q.precision.figures = some count → count < 2000000) →
      (AsksBeyond platform Standard.dispatcher.process payload ↔
        q.precision.decimals = none ∧ ∃ count, q.precision.figures = some count ∧ 1999731 < count ∧
          ∃ s m, Standard.dispatcher.process q.source q.target q.value = some (.finite s m) ∧
            m.units ≠ 0 ∧ platform.logFloor m - count + 1 < -2000054) := by
  refine ⟨fun response => convert_eq_ok_iff hCreated, exists_convert_iff hCreated,
    fun q hRequest hDecimals hFigures => asksBeyond_iff_of_bounds hRequest (fun places hPlaces => ?_)
      hFigures⟩
  have hSmall := hDecimals places hPlaces
  omega

/-! ## Two payloads -/

/-- The error that an outcome fails with. -/
def ConversionOutcome.failure? : ConversionOutcome → Option FormatError
  | .failed e => some e
  | _ => none

theorem ConversionOutcome.eq_failed_of_failure {o : ConversionOutcome} {e : FormatError}
    (hFails : o.failure? = some e) : o = .failed e := by
  cases o with
  | failed e' =>
    cases hFails
    rfl
  | converted c => cases hFails
  | rejected j => cases hFails

theorem ConversionRequest.precision_eq {payload : Json} {q : ConversionRequest} {p : Precision}
    (hRequest : ofPayload payload = .ok q)
    (hPrecision : (ofPayload payload).map (·.precision) = .ok p) : q.precision = p := by
  rw [hRequest] at hPrecision
  exact Except.ok.inj hPrecision

namespace Standard

/-- A gram in pounds, in four significant figures. -/
def gramInPounds : Json :=
  .object [("value", .int 1), ("from_unit", .string "g"), ("to_unit", .string "lb"), ("sig_figs", .int 4)]

/-- A gram is converted into pounds. -/
theorem convert_decided_gramInPounds :
    ∃ app, Application.create Standard.platform [] [] Application.defaultSettings [] = .ok app ∧
      (∀ response, app.convert gramInPounds = .ok response ↔
        Decides platform catalog dispatcher.process gramInPounds response) ∧
      ∃ response, app.convert gramInPounds = .ok response := by
  obtain ⟨app, hCreated⟩ := exists_application
  obtain ⟨hDecided, hAnswered, -⟩ := Application.convert_decided hCreated gramInPounds
  refine ⟨app, hCreated, hDecided, hAnswered.mpr ?_⟩
  rintro ⟨q, x, hRequest, -, -, hBeyond⟩
  have hPrecision : q.precision = ⟨none, some 4⟩ :=
    ConversionRequest.precision_eq hRequest (by decide +kernel)
  rw [hPrecision] at hBeyond
  exact Binary64.not_figuresBeyond_of_le (by decide) hBeyond.2

/-- The smallest positive number of grams, in almost two million significant figures. -/
def smallestInFigures : Json :=
  .object
    [("value", .string "5e-324"), ("from_unit", .string "g"), ("to_unit", .string "g"),
      ("sig_figs", .string "1999999")]

/-- The number converts into itself, and no case but that of a conversion applies; yet it is not
answered. -/
theorem convert_smallestInFigures :
    ∃ app, Application.create Standard.platform [] [] Application.defaultSettings [] = .ok app ∧
      (∃ q, ConversionRequest.ofPayload smallestInFigures = .ok q ∧
        q.precision = ⟨none, some 1999999⟩ ∧ q.precision.fault? = none ∧
        dispatcher.process q.source q.target q.value = some q.value ∧ q.value.isFinite = true) ∧
      app.convert smallestInFigures = .error (.format .figuresOutOfRange) := by
  obtain ⟨app, hCreated⟩ := exists_application
  obtain ⟨hDispatcher, -⟩ := Application.create_ok hCreated
  obtain ⟨r, hServes⟩ := serves
  refine ⟨app, hCreated, ?_, Application.convert_of_failed ?_⟩
  · have hFields : (ConversionRequest.ofPayload smallestInFigures).map
        (fun q => (q.precision, q.source, q.target, q.value.isFinite)) =
          .ok (⟨none, some 1999999⟩, Text.ofString "g", Text.ofString "g", true) := by decide +kernel
    cases hRequest : ConversionRequest.ofPayload smallestInFigures with
    | error faults =>
      rw [hRequest] at hFields
      cases hFields
    | ok q =>
      rw [hRequest] at hFields
      obtain ⟨hPrecision, hSource, hTarget, hFinite⟩ :
          q.precision = ⟨none, some 1999999⟩ ∧ q.source = Text.ofString "g" ∧
            q.target = Text.ofString "g" ∧ q.value.isFinite = true := by
        simpa [Except.map] using hFields
      refine ⟨q, rfl, hPrecision, ?_, ?_, hFinite⟩
      · rw [hPrecision]
        rfl
      · rw [hSource, hTarget]
        exact hServes.process_self (by decide) q.value
  · rw [hDispatcher, Application.platform_of_create hCreated]
    exact ConversionOutcome.eq_failed_of_failure (by decide +kernel)

end Standard

end UnitConversion
