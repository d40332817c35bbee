import UnitConversion.Proofs.Conversion.Overflow
import UnitConversion.Proofs.Server.Decision
import UnitConversion.Proofs.Validation.Records

/-!
# Conversions that are refused

Without a precision a request for a conversion between two units of one group is refused only because its
result overflows. With a moderate exact result it is refused exactly when the exact magnitude in the
primary unit, over which the conversion goes, is beyond the overflow.

* `convert_within_group`: the answer between two units of one group.
* `convert_refused_iff`: which requests with a moderate exact result are refused.
* `Standard.convert_manyPounds`: one that is refused.
-/

namespace UnitConversion

namespace Application

variable {platform : Platform} {env : Environment} {freshSecret profileName : Text} {settings : Setting}
  {app : Application} {payload : Json} {q : ConversionRequest}

/-- Without a precision, the answer between two units depends on whether the result is finite. -/
theorem convert_within_group (hCreated : create platform env freshSecret settings profileName = .ok app)
    (hRequest : ConversionRequest.ofPayload payload = .ok q) (hPrecision : q.precision = {})
    {y : Binary64} (hResult : Standard.dispatcher.process q.source q.target q.value = some y) :
    (y.isFinite = true → ∃ response, app.convert payload = .ok response ∧ response.status = 200) ∧
      (y.isFinite = false →
        app.convert payload = .ok (.failure (Rejection.overflow q).report)) := by
  obtain rfl := platform_of_create hCreated
  obtain ⟨hDispatcher, -⟩ := create_ok hCreated
  rw [← hDispatcher] at hResult
  constructor
  · intro hFinite
    obtain ⟨text, hText⟩ : ∃ text, y.format app.platform q.precision = .ok text := by
      rw [hPrecision]
      exact Binary64.format_of_not_isBeyond rfl fun hBeyond => hBeyond
    have hAnswer := Dispatcher.convert_of_text hResult hFinite hText
    rw [← Dispatcher.answer_of_request hRequest] at hAnswer
    exact ⟨_, convert_of_converted hAnswer, rfl⟩
  · intro hInfinite
    apply convert_of_rejected
    rw [Dispatcher.answer_of_request hRequest]
    exact Dispatcher.convert_of_not_isFinite hResult hInfinite

/-- **Refused conversions.** Without a precision, a unit is always converted into itself. Between two
different units of one group, a conversion whose exact result lies below `2 ^ 1023` is answered with
status 200 exactly when the exact magnitude in the primary unit lies below the middle between the largest
magnitude and `2 ^ 1024`, and it is refused as an overflow otherwise. -/
theorem convert_refused_iff (hCreated : create platform env freshSecret settings profileName = .ok app)
    (hRequest : ConversionRequest.ofPayload payload = .ok q) (hPrecision : q.precision = {})
    {exactRegistry : Registry Rat} {exact : Dispatcher Rat}
    (hExact : Dispatcher.build Standard.declarations.exact .empty Standard.catalog =
      (exactRegistry, .ok exact))
    {g : Group} (hg : g ∈ Standard.catalog) (hSource : q.source ∈ signatures g.units)
    (hTarget : q.target ∈ signatures g.units) :
    (q.source = q.target →
      ∃ response, app.convert payload = .ok response ∧ response.status = 200) ∧
    (q.source ≠ q.target → ∀ result, exact.process q.source q.target q.value.exactValue = some result →
      |result| < 2 ^ 1023 → ∃ middle,
        exact.process q.source g.primary.signature q.value.exactValue = some middle ∧
          (|middle| < 2 ^ 1024 - 2 ^ 970 →
            ∃ response, app.convert payload = .ok response ∧ response.status = 200) ∧
          (2 ^ 1024 - 2 ^ 970 ≤ |middle| → app.convert payload = .ok (.failure {
            kind := .validation
            message := "Converting " ++ Text.ofString q.value.shortest ++ " from '" ++ q.source ++
              "' to '" ++ q.target ++ "' overflows."
            code := "unit.non_finite_result"
            status := 422 }))) := by
  obtain ⟨r, hServes⟩ := Standard.serves
  have hFinite := ConversionRequest.isFinite_of_ofPayload hRequest
  obtain ⟨u, hu, hSourceEq⟩ := mem_signatures.mp hSource
  obtain ⟨v, hv, hTargetEq⟩ := mem_signatures.mp hTarget
  constructor
  · intro hSame
    have hKnown : q.source ∈ signatures (catalogUnits Standard.catalog) := by
      rw [← hSourceEq]
      exact signature_mem (mem_catalogUnits.mpr ⟨g, hg, hu⟩)
    have hSelf : Standard.dispatcher.process q.source q.target q.value = some q.value := by
      rw [← hSame]
      exact hServes.process_self hKnown q.value
    exact (convert_within_group hCreated hRequest hPrecision hSelf).1 hFinite
  · intro hDifferent result hResult hModerate
    have hne : u ≠ v := by
      rintro rfl
      exact hDifferent (hSourceEq.symm.trans hTargetEq)
    rw [← hSourceEq, ← hTargetEq] at hResult
    -- The way leads through the primary unit, and only the magnitude there can be too large.
    obtain ⟨y, middle, hProcess, hMiddle, hIff⟩ :=
      Standard.process_isFinite_iff hExact hg hu hv hne hFinite hResult hModerate
    rw [hSourceEq, hTargetEq] at hProcess
    rw [hSourceEq] at hMiddle
    obtain ⟨hAnswered, hRefused⟩ := convert_within_group hCreated hRequest hPrecision hProcess
    refine ⟨middle, hMiddle, fun hBelow => hAnswered (hIff.mpr hBelow), fun hBeyond => ?_⟩
    apply hRefused
    rw [← Bool.not_eq_true, hIff]
    exact not_lt.mpr hBeyond

end Application

/-! ## Two payloads -/

theorem ConversionRequest.exists_of_fields (payload : Json) (value : Binary64) (source target : Text)
    (hFields : (ofPayload payload).map (fun q => (q.value, q.source, q.target, q.precision)) =
      .ok (value, source, target, {})) :
    ofPayload payload = .ok ⟨value, source, target, {}⟩ := by
  cases hRequest : ofPayload payload with
  | error faults =>
    rw [hRequest] at hFields
    cases hFields
  | ok q =>
    obtain ⟨value', source', target', precision⟩ := q
    rw [hRequest] at hFields
    cases hFields
    rfl

namespace Standard

/-- The exact conversions of the built-in catalog. -/
def exactly (source target : Text) (x : Rat) : Option Rat :=
  (Dispatcher.build declarations.exact .empty catalog).2.toOption.bind (·.process source target x)

theorem exists_exact : ∃ r d,
    Dispatcher.build declarations.exact .empty catalog = (r, .ok d) ∧
      ∀ source target x, d.process source target x = exactly source target x := by
  have hOk : (Dispatcher.build declarations.exact .empty catalog).2.isOk = true := by decide +kernel
  obtain ⟨r, d, hBuild⟩ := Dispatcher.exists_build_of_isOk hOk
  refine ⟨r, d, hBuild, fun source target x => ?_⟩
  rw [exactly, hBuild]
  rfl

theorem exactly_satisfies {source target : Text} {x : Rat} {p : Rat → Bool}
    (h : (exactly source target x).any p = true) :
    ∃ y, exactly source target x = some y ∧ p y = true := by
  cases hResult : exactly source target x with
  | none =>
    rw [hResult] at h
    cases h
  | some y =>
    rw [hResult] at h
    exact ⟨y, rfl, h⟩

/-- A thousand pounds in poods. -/
def thousandPounds : Json :=
  .object [("value", .int 1000), ("from_unit", .string "lb"), ("to_unit", .string "p")]

/-- A thousand pounds are converted into poods. -/
theorem convert_thousandPounds :
    ∃ app, Application.create Standard.platform [] [] Application.defaultSettings [] = .ok app ∧
      ∃ response, app.convert thousandPounds = .ok response ∧ response.status = 200 := by
  obtain ⟨app, hCreated⟩ := exists_application
  obtain ⟨r, exact, hExact, hProcess⟩ := exists_exact
  have hRequest := ConversionRequest.exists_of_fields thousandPounds (.ofInt 1000) "lb" "p"
    (by decide +kernel)
  obtain ⟨-, hAnswers⟩ := Application.convert_refused_iff hCreated hRequest rfl hExact
    (g := weight) (by decide) (by decide) (by decide)
  obtain ⟨result, hResult, hModerate⟩ := exactly_satisfies
    (p := fun x => decide (|x| < 2 ^ 1023))
    (show (exactly "lb" "p" (Binary64.ofInt 1000).exactValue).any _ = true by decide +kernel)
  obtain ⟨middle, hMiddle, hBelow⟩ := exactly_satisfies
    (p := fun x => decide (|x| < 2 ^ 1024 - 2 ^ 970))
    (show (exactly "lb" "g" (Binary64.ofInt 1000).exactValue).any _ = true by decide +kernel)
  simp only [hProcess] at hAnswers
  obtain ⟨middle', hMiddle', hAnswered, -⟩ :=
    hAnswers (by decide) result hResult (of_decide_eq_true hModerate)
  have hSame : middle' = middle := Option.some.inj (hMiddle'.symm.trans hMiddle)
  rw [hSame] at hAnswered
  exact ⟨app, hCreated, hAnswered (of_decide_eq_true hBelow)⟩

/-- Pounds close to the largest magnitude, in poods. -/
def manyPounds : Json :=
  .object [("value", .string "1e308"), ("from_unit", .string "lb"), ("to_unit", .string "p")]

/-- The exact number of poods lies below `2 ^ 1023`, and yet the conversion is refused as an overflow. -/
theorem convert_manyPounds :
    ∃ app q result, Application.create Standard.platform [] [] Application.defaultSettings [] = .ok app ∧
      ConversionRequest.ofPayload manyPounds = .ok q ∧ q.precision = {} ∧
      exactly q.source q.target q.value.exactValue = some result ∧ |result| < 2 ^ 1023 ∧
      app.convert manyPounds = .ok (.failure (Rejection.overflow q).report) ∧
      (Rejection.overflow q).code = "unit.non_finite_result" := by
  obtain ⟨app, hCreated⟩ := exists_application
  have hRequest := ConversionRequest.exists_of_fields manyPounds
    (Decimal.toBinary64 false ⟨1, 308⟩) "lb" "p" (by decide +kernel)
  obtain ⟨result, hResult, hModerate⟩ := exactly_satisfies
    (p := fun x => decide (|x| < 2 ^ 1023))
    (show (exactly "lb" "p" (Decimal.toBinary64 false ⟨1, 308⟩).exactValue).any _ = true by
      decide +kernel)
  have hOverflow : dispatcher.process "lb" "p" (Decimal.toBinary64 false ⟨1, 308⟩) =
      some (.infinite false) := by decide +kernel
  generalize Decimal.toBinary64 false ⟨1, 308⟩ = x at hRequest hResult hOverflow
  obtain ⟨-, hRefused⟩ := Application.convert_within_group hCreated hRequest rfl hOverflow
  exact ⟨app, _, result, hCreated, hRequest, rfl, hResult, of_decide_eq_true hModerate, hRefused rfl,
    rfl⟩

end Standard

end UnitConversion
