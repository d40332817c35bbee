import UnitConversion.Proofs.Validation.Channels

/-!
# Records of payloads

A payload without faults is read field by field (`Schema.validate_ok`), and a payload whose only fault may
lie in the value of a request is decided by how that value is coerced.

* `ConversionRequest.isFinite_of_ofPayload`: the value of a request is finite.
* `ConversionRequest.ofPayload_fieldMembers`: the request of an object with a value, its units and a number
  of decimals.
* `PlainRequest.ofPayload_plainMembers`: the request of an object with the members of the plain interface.
-/

namespace UnitConversion

/-! ## Fields -/

section Fields

variable {f : Field} {ms : List (Text × Json)} {value : FieldValue} {kind : FaultKind}

theorem Field.faults_of_ok (h : f.read ms = .ok value) : f.faults ms = [] := by
  rw [faults, h]

theorem Field.values_of_ok (h : f.read ms = .ok value) : f.values ms = [(f.name, value)] := by
  rw [values, h]

theorem Field.faults_of_error (h : f.read ms = .error kind) : f.faults ms = [⟨[f.key], kind⟩] := by
  rw [faults, h]

theorem Field.read_of_faults_eq_nil (h : f.faults ms = []) : ∃ value, f.read ms = .ok value := by
  cases hRead : f.read ms with
  | ok value => exact ⟨value, rfl⟩
  | error kind =>
    rw [Field.faults_of_error hRead] at h
    cases h

end Fields

/-! ## Objects -/

namespace Schema

variable {s : Schema} {ms : List (Text × Json)}

theorem faults_eq (hBroken : s.hasBrokenName ms = false) (hDeclared : s.undeclaredFaults ms = []) :
    s.faults ms = s.fields.flatMap (·.faults ms) := by
  rw [faults, hBroken, hDeclared, List.append_nil]
  rfl

/-- Each field of a record was read in the object that a payload stands for. -/
theorem validate_ok {payload : Json} {r : Record} (h : s.validate payload = .ok r) :
    ∃ ms, (∀ f ∈ s.fields, ∃ value, f.read ms = .ok value) ∧ r = s.fields.flatMap (·.values ms) := by
  have hMembers : ∃ ms, s.validate payload = s.validate (.object ms) := by
    unfold validate at h
    split at h
    · rename_i ms hObject
      refine ⟨ms, ?_⟩
      rw [validate, validate, hObject, ofFalsy_object]
    · cases h
  obtain ⟨ms, hSame⟩ := hMembers
  rw [hSame, validate_object] at h
  split at h
  · rename_i hFaults
    refine ⟨ms, fun f hf => ?_, (Except.ok.inj h).symm⟩
    apply Field.read_of_faults_eq_nil
    unfold faults at hFaults
    split at hFaults
    · cases hFaults
    · have hFields := (List.append_eq_nil_iff.mp hFaults).1
      exact List.flatMap_eq_nil_iff.mp hFields f hf
  · cases h

end Schema

/-! ## Numbers -/

theorem coerceNumber_eq_ok_iff {s : String} {x : Binary64} :
    coerceNumber (.string s) = .ok x ↔ numberOfText? s.toList = some x := by
  simp only [coerceNumber, wholeText_ofString, bind, Except.bind]
  cases numberOfText? s.toList with
  | none => simp
  | some y => simp

theorem coerceFiniteNumber_eq_ok_iff {j : Json} {x : Binary64} :
    coerceFiniteNumber j = .ok x ↔ coerceNumber j = .ok x ∧ x.isFinite = true := by
  unfold coerceFiniteNumber
  cases coerceNumber j with
  | error kind => simp
  | ok y =>
    show (if y.isFinite = true then Except.ok y else .error FaultKind.notFinite) = _ ↔ _
    split
    · rename_i hFinite
      refine ⟨fun hEq => ?_, And.left⟩
      cases hEq
      exact ⟨rfl, hFinite⟩
    · rename_i hInfinite
      constructor
      · intro hEq
        cases hEq
      · rintro ⟨hEq, hFinite⟩
        cases hEq
        exact absurd hFinite hInfinite

/-! ## Conversion requests -/

namespace ConversionRequest

/-! The fields of the schema, by name. -/

def decimalsField : Field :=
  { name := "decimals", kind := .optionalInteger, default? := some .absent }

def figuresField : Field :=
  { name := "sig_figs", kind := .optionalInteger, default? := some .absent }

def valueField : Field := { name := "value", kind := .finiteNumber }

def sourceField : Field := { name := "from_unit", kind := .text false }

def targetField : Field := { name := "to_unit", kind := .text false }

theorem fields_eq :
    schema.fields = [decimalsField, figuresField, valueField, sourceField, targetField] := rfl

theorem isFinite_of_read {ms : List (Text × Json)} {value : FieldValue}
    (h : valueField.read ms = .ok value) : ∃ x : Binary64, value = .number x ∧ x.isFinite = true := by
  unfold Field.read at h
  split at h
  · rename_i j hLookup
    change (coerceFiniteNumber j).map .number = .ok value at h
    cases hCoerce : coerceFiniteNumber j with
    | ok x =>
      rw [hCoerce] at h
      cases h
      exact ⟨x, rfl, (coerceFiniteNumber_eq_ok_iff.mp hCoerce).2⟩
    | error kind =>
      rw [hCoerce] at h
      cases h
  · cases h

/-- The value of a request is finite. -/
theorem isFinite_of_ofPayload {payload : Json} {q : ConversionRequest}
    (h : ofPayload payload = .ok q) : q.value.isFinite = true := by
  unfold ofPayload at h
  cases hValidate : schema.validate payload with
  | error faults =>
    rw [hValidate] at h
    cases h
  | ok r =>
    rw [hValidate] at h
    cases h
    obtain ⟨ms, hRead, rfl⟩ := Schema.validate_ok hValidate
    rw [fields_eq] at hRead ⊢
    simp only [List.forall_mem_cons] at hRead
    obtain ⟨⟨decimals, hDecimals⟩, ⟨figures, hFigures⟩, ⟨value, hValue⟩, ⟨source, hSource⟩,
      ⟨target, hTarget⟩, -⟩ := hRead
    obtain ⟨x, rfl, hFinite⟩ := isFinite_of_read hValue
    simp only [List.flatMap_cons, Field.values_of_ok hDecimals, Field.values_of_ok hFigures,
      Field.values_of_ok hValue]
    exact hFinite

/-- The members of an object with a value, its units and a number of decimals. -/
def fieldMembers (source target : Text) (value : Json) (places : Int) : List (Text × Json) :=
  [("from_unit", .string source), ("to_unit", .string target), ("value", value),
    ("decimals", .int places)]

/-- Of such an object all depends on the value. -/
theorem ofPayload_fieldMembers (source target : Text) (value : Json) (places : Int) :
    ofPayload (.object (fieldMembers source target value places)) =
      match coerceFiniteNumber value with
      | .ok x => .ok ⟨x, source, target, { decimals := some places }⟩
      | .error kind => .error [⟨["value"], kind⟩] := by
  have hDecimals : decimalsField.read (fieldMembers source target value places) =
      .ok (.integer places) := rfl
  have hFigures : figuresField.read (fieldMembers source target value places) = .ok .absent := rfl
  have hSource : sourceField.read (fieldMembers source target value places) =
      .ok (.text source) := rfl
  have hTarget : targetField.read (fieldMembers source target value places) =
      .ok (.text target) := rfl
  have hValue : valueField.read (fieldMembers source target value places) =
      (coerceFiniteNumber value).map .number := rfl
  have hFaults : schema.faults (fieldMembers source target value places) =
      valueField.faults (fieldMembers source target value places) := by
    rw [Schema.faults_eq rfl rfl, fields_eq]
    simp only [List.flatMap_cons, List.flatMap_nil, Field.faults_of_ok hDecimals,
      Field.faults_of_ok hFigures, Field.faults_of_ok hSource, Field.faults_of_ok hTarget,
      List.nil_append, List.append_nil]
  rw [ofPayload, Schema.validate_object, hFaults]
  cases hCoerce : coerceFiniteNumber value with
  | ok x =>
    rw [hCoerce] at hValue
    rw [if_pos (Field.faults_of_ok hValue), fields_eq]
    simp only [List.flatMap_cons, List.flatMap_nil, Field.values_of_ok hDecimals,
      Field.values_of_ok hFigures, Field.values_of_ok hValue, Field.values_of_ok hSource,
      Field.values_of_ok hTarget]
    rfl
  | error kind =>
    rw [hCoerce] at hValue
    rw [Field.faults_of_error hValue]
    rfl

end ConversionRequest

/-! ## Plain requests -/

namespace PlainRequest

/-! The fields of the schema, by name. -/

def sourceField : Field :=
  { name := "from_unit", key := "from", kind := .text false, default? := some (.text []) }

def targetField : Field :=
  { name := "to_unit", key := "to", kind := .text false, default? := some (.text []) }

def valueField : Field := { name := "value", kind := .number }

theorem fields_eq : schema.fields = [sourceField, targetField, valueField] := rfl

/-- What is required of the value of a plain request. -/
def coerceValue : Option Json → Except FaultKind Binary64
  | some j => coerceNumber j
  | none => .error .missing

/-- Of an object with texts for units, all depends on the value. -/
theorem ofPayload_object {ms : List (Text × Json)} {source target : Option Text}
    (hSource : ms.lookup (Text.ofString "from") = source.map .string)
    (hTarget : ms.lookup (Text.ofString "to") = target.map .string) :
    ofPayload (.object ms) =
      match coerceValue (ms.lookup (Text.ofString "value")) with
      | .ok x => .ok ⟨x, source.getD [], target.getD []⟩
      | .error kind => .error [⟨["value"], kind⟩] := by
  have hFrom : sourceField.read ms = .ok (.text (source.getD [])) := by
    unfold Field.read
    change (match ms.lookup (Text.ofString "from") with | some j => _ | none => _) = _
    rw [hSource]
    cases source <;> rfl
  have hTo : targetField.read ms = .ok (.text (target.getD [])) := by
    unfold Field.read
    change (match ms.lookup (Text.ofString "to") with | some j => _ | none => _) = _
    rw [hTarget]
    cases target <;> rfl
  have hValue : valueField.read ms = (coerceValue (ms.lookup (Text.ofString "value"))).map .number := by
    unfold Field.read
    change (match ms.lookup (Text.ofString "value") with | some j => _ | none => _) = _
    cases ms.lookup (Text.ofString "value") <;> rfl
  have hFaults : schema.faults ms = valueField.faults ms := by
    rw [Schema.faults_eq rfl rfl, fields_eq]
    simp only [List.flatMap_cons, List.flatMap_nil, Field.faults_of_ok hFrom,
      Field.faults_of_ok hTo, List.nil_append, List.append_nil]
  rw [ofPayload, Schema.validate_object, hFaults]
  cases hCoerce : coerceValue (ms.lookup (Text.ofString "value")) with
  | ok x =>
    rw [hCoerce] at hValue
    rw [if_pos (Field.faults_of_ok hValue), fields_eq]
    simp only [List.flatMap_cons, List.flatMap_nil, Field.values_of_ok hFrom,
      Field.values_of_ok hTo, Field.values_of_ok hValue]
    rfl
  | error kind =>
    rw [hCoerce] at hValue
    rw [Field.faults_of_error hValue]
    rfl

/-- The members of an object with a value and its units, as the plain interface names them. -/
def plainMembers (source target : Text) (value : Json) : List (Text × Json) :=
  [("from", .string source), ("to", .string target), ("value", value)]

theorem ofPayload_plainMembers (source target : Text) (value : Json) :
    ofPayload (.object (plainMembers source target value)) =
      match coerceNumber value with
      | .ok x => .ok ⟨x, source, target⟩
      | .error kind => .error [⟨["value"], kind⟩] := by
  have hSource : (plainMembers source target value).lookup (Text.ofString "from") =
      (some source).map .string := rfl
  have hTarget : (plainMembers source target value).lookup (Text.ofString "to") =
      (some target).map .string := rfl
  exact ofPayload_object hSource hTarget

end PlainRequest

end UnitConversion
