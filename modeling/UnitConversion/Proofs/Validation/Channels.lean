import UnitConversion.Proofs.Json.Numbers
import UnitConversion.Validation.Requests

/-!
# Fields in queries and in JSON objects

A field of a conversion request can be given in a query, where everything is text, or in a JSON object,
where numbers are values of their own. A schema sees the names of the members of a payload and what it
reads in its own fields, and nothing else. A number in text is read as the same number, so that both
payloads have the same record or the same faults.

* `FieldInput`: what a field is given as.
* `Schema.validate_congr`: what a schema sees of a payload.
* `coerceFiniteNumber_shortest`, `coerceInteger_integerText`: numbers in text are read as these numbers.
* `FieldKind.IsLax`, `FieldKind.isLax_coerce`: what is relied on of coercions.
* `ConversionRequest.ofPayload_channels`: both payloads make the same request.
-/

namespace UnitConversion

/-! ## What a schema sees -/

theorem Text.ofString_injective {a b : String} (h : Text.ofString a = Text.ofString b) : a = b :=
  String.toList_inj.mp (List.map_injective_iff.mpr (fun _ _ => CodePoint.char.inj) h)

/-- A field is read from the member of its name. -/
theorem Field.read_congr {f : Field} {ms ms' : List (Text × Json)}
    (hMember : (ms.lookup (Text.ofString f.key)).map f.kind.coerce =
      (ms'.lookup (Text.ofString f.key)).map f.kind.coerce) : f.read ms = f.read ms' := by
  unfold read
  cases hLeft : ms.lookup (Text.ofString f.key) with
  | none =>
    cases hRight : ms'.lookup (Text.ofString f.key) with
    | none => rfl
    | some j => simp [hLeft, hRight] at hMember
  | some j =>
    cases hRight : ms'.lookup (Text.ofString f.key) with
    | none => simp [hLeft, hRight] at hMember
    | some j' => simpa [hLeft, hRight] using hMember

namespace Schema

/-- An object without members stands for nothing, but it is an object all the same. -/
theorem ofFalsy_object (ms : List (Text × Json)) :
    (if (Json.object ms).isFalsy then .object [] else .object ms) = Json.object ms := by
  cases ms <;> rfl

theorem validate_object (s : Schema) (ms : List (Text × Json)) :
    s.validate (.object ms) =
      if s.faults ms = [] then .ok (s.fields.flatMap (·.values ms)) else .error (s.faults ms) := by
  rw [validate, ofFalsy_object]
  cases hFaults : s.faults ms with
  | nil => simp only [hFaults, if_true]
  | cons fault rest => simp only [hFaults, reduceCtorEq, if_false]

variable {s : Schema} {ms ms' : List (Text × Json)} (hNames : ms.map Prod.fst = ms'.map Prod.fst)

include hNames

theorem hasBrokenName_congr : s.hasBrokenName ms = s.hasBrokenName ms' := by
  have hAny (l : List (Text × Json)) :
      (l.any fun m => !m.1.isWhole) = (l.map Prod.fst).any fun name => !name.isWhole := by
    rw [List.any_map]
    rfl
  rw [hasBrokenName, hasBrokenName, hAny, hAny, hNames]

theorem undeclaredFaults_congr : s.undeclaredFaults ms = s.undeclaredFaults ms' := by
  have hFilter (l : List (Text × Json)) :
      ((l.filter fun m => !s.declares m.1).map fun m => (⟨[m.1], .undeclared⟩ : Fault)) =
        ((l.map Prod.fst).filter fun name => !s.declares name).map fun name =>
          ⟨[name], .undeclared⟩ := by
    rw [List.filter_map, List.map_map]
    rfl
  rw [undeclaredFaults, undeclaredFaults, hFilter, hFilter, hNames]

/-- A schema sees the names of the members of an object and what it reads in its own fields. -/
theorem validate_congr (hRead : ∀ f ∈ s.fields, f.read ms = f.read ms') :
    s.validate (.object ms) = s.validate (.object ms') := by
  have hFieldFaults : s.fields.flatMap (·.faults ms) = s.fields.flatMap (·.faults ms') :=
    List.flatMap_congr fun f hf => by rw [Field.faults, Field.faults, hRead f hf]
  have hValues : s.fields.flatMap (·.values ms) = s.fields.flatMap (·.values ms') :=
    List.flatMap_congr fun f hf => by rw [Field.values, Field.values, hRead f hf]
  have hFaults : s.faults ms = s.faults ms' := by
    rw [faults, faults, hasBrokenName_congr hNames, hFieldFaults, undeclaredFaults_congr hNames]
  rw [validate_object, validate_object, hFaults, hValues]

end Schema

/-! ## Numbers in text -/

theorem Text.trimBy_of_forall {blank : Char → Bool} {cs : List Char}
    (hSolid : ∀ c ∈ cs, blank c = false) : trimBy blank cs = cs := by
  have hDrop (l : List Char) (hl : ∀ c ∈ l, blank c = false) : l.dropWhile blank = l := by
    cases l with
    | nil => rfl
    | cons c rest => exact List.dropWhile_cons_of_neg (by simp [hl c List.mem_cons_self])
  have hReverse : ∀ c ∈ cs.reverse, blank c = false := fun c hc =>
    hSolid c (List.mem_reverse.mp hc)
  rw [trimBy, hDrop cs hSolid, hDrop cs.reverse hReverse, List.reverse_reverse]

theorem Text.isWhiteSpace_of_isDigit {c : Char} (hDigit : c.isDigit = true) :
    isWhiteSpace c = false := by
  obtain ⟨hLow, hHigh⟩ := Char.isDigit_iff_toNat.mp hDigit
  have hFirst : '0'.toNat = 48 := rfl
  have hLast : '9'.toNat = 57 := rfl
  simp only [isWhiteSpace, Bool.or_eq_false_iff, Bool.and_eq_false_iff, decide_eq_false_iff_not,
    beq_eq_false_iff_ne]
  omega

theorem wholeText_ofString (s : String) : wholeText s = .ok s.toList := by
  rw [wholeText, Text.ofString, Text.chars?_ofChars]

/-- There is nothing to trim from a numeral. -/
theorem trimBy_signed (s : Bool) (n : Numeral) :
    Text.trimBy Text.isWhiteSpace (Layout.signed s n.chars) = Layout.signed s n.chars := by
  have hSolid : ∀ c ∈ n.chars, Text.isWhiteSpace c = false := by
    intro c hc
    rcases n.isDigit_or_mark_of_mem hc with hDigit | hMark
    · exact Text.isWhiteSpace_of_isDigit hDigit
    · simp only [List.mem_cons, List.not_mem_nil, or_false] at hMark
      rcases hMark with rfl | rfl | rfl | rfl
      all_goals decide
  refine Text.trimBy_of_forall ?_
  cases s with
  | true => exact List.forall_mem_cons.mpr ⟨by decide, hSolid⟩
  | false => exact hSolid

theorem coerceFiniteNumber_float {x : Binary64} (hFinite : x.isFinite = true) :
    coerceFiniteNumber (.float x) = .ok x := by
  rw [coerceFiniteNumber, coerceNumber]
  exact if_pos hFinite

/-- The shortest text of a finite number is taken for that number. -/
theorem coerceFiniteNumber_shortest {x : Binary64} (hFinite : x.isFinite = true) :
    coerceFiniteNumber (.string x.shortest) = coerceFiniteNumber (.float x) := by
  cases x with
  | nan => cases hFinite
  | infinite s => cases hFinite
  | finite s m =>
    have hNumber : numberOfText? (Binary64.finite s m).shortest.toList = some (.finite s m) := by
      rw [numberOfText?, Binary64.toList_shortest, trimBy_signed, ← Binary64.toList_shortest,
        Binary64.ofText?_shortest]
    simp only [coerceFiniteNumber, coerceNumber, wholeText_ofString, bind, Except.bind, hNumber]

/-- Digits without superfluous zeros are read as the integer that they denote, with its sign. -/
theorem plainInteger_signed (s : Bool) {ds : List Char} (hNonempty : ds ≠ [])
    (hDigits : ∀ c ∈ ds, c.isDigit = true) (hZero : ds.head? ≠ some '0')
    (hLength : ds.length ≤ integerTextLimit) :
    plainInteger (Layout.signed s ds) =
      .ok (if s then -(Nat.ofDigitChars 10 ds 0 : Int) else Nat.ofDigitChars 10 ds 0) := by
  have hSpan : spanDigits ds = (ds, []) := by
    have hAppend : spanDigits (ds ++ []) = (ds, []) := spanDigits_append hDigits (by simp)
    rwa [List.append_nil] at hAppend
  have hFew : ¬ integerTextLimit < ds.length := Nat.not_lt.mpr hLength
  cases s with
  | true => simp [plainInteger, Layout.signed, hSpan, hZero, hFew, hNonempty]
  | false =>
    obtain ⟨c, cs, rfl⟩ := List.exists_cons_of_ne_nil hNonempty
    have hMinus : c ≠ '-' := ne_of_isDigit (hDigits c List.mem_cons_self) (by decide)
    have hFirst : c ≠ '0' := fun hEq => hZero (congrArg some hEq)
    simp only [List.length_cons] at hFew
    simp [plainInteger, Layout.signed, hSpan, hMinus, hFirst, hFew]

theorem plainInteger_integerText {n : Int} (hn : n.natAbs < 10 ^ integerTextLimit) :
    plainInteger (Json.integerText n) = .ok n := by
  by_cases hZero : n = 0
  · subst hZero
    rfl
  · have hAbs : n.natAbs ≠ 0 := Int.natAbs_ne_zero.mpr hZero
    rw [Json.integerText, plainInteger_signed (decide (n < 0)) Nat.toDigits_ne_nil
      (fun _ => isDigit_toDigits) (head?_toDigits hAbs) (Json.length_toDigits_le (by decide) hn),
      Nat.ofDigitChars_ten_toDigits, signed_natAbs]

/-- The text of an integer is taken for that integer. -/
theorem coerceInteger_integerText {n : Int} (hn : n.natAbs < 10 ^ integerTextLimit) :
    coerceInteger (.string (String.ofList (Json.integerText n))) = coerceInteger (.int n) := by
  simp only [coerceInteger, wholeText_ofString, bind, Except.bind, String.toList_ofList,
    integerOfText, plainInteger_integerText hn]

namespace FieldKind

/-- What is relied on of coercions. A field keeps a number of its own kind, and takes the text of such a number
for the number. Where there may be no integer, null stands for none. -/
structure IsLax (coerce : FieldKind → Json → Except FaultKind FieldValue) : Prop where
  number {x : Binary64} (hFinite : x.isFinite = true) : coerce .finiteNumber (.float x) = .ok (.number x)
  numberText {x : Binary64} (hFinite : x.isFinite = true) :
    coerce .finiteNumber (.string x.shortest) = .ok (.number x)
  integer (n : Int) : coerce .optionalInteger (.int n) = .ok (.integer n)
  integerText {n : Int} (hn : n.natAbs < 10 ^ integerTextLimit) :
    coerce .optionalInteger (.string (String.ofList (Json.integerText n))) = .ok (.integer n)
  absent : coerce .optionalInteger .null = .ok .absent

theorem isLax_coerce : IsLax coerce where
  number hFinite := by
    rw [coerce, coerceFiniteNumber_float hFinite]
    rfl
  numberText hFinite := by
    rw [coerce, coerceFiniteNumber_shortest hFinite, coerceFiniteNumber_float hFinite]
    rfl
  integer n := rfl
  integerText hn := congrArg (Except.map FieldValue.integer) (coerceInteger_integerText hn)
  absent := rfl

end FieldKind

/-! ## Fields in two forms -/

/-- What a field of a request is given as. -/
inductive FieldInput where
  | text (s : String)
  | number (x : Binary64)
  | integer (n : Int)

/-- The most digits of an integer that is given as a field. -/
def FieldInput.digitLimit : Nat := 4000

namespace FieldInput

/-- What stands for a field in a query. -/
def queryText : FieldInput → String
  | .text s => s
  | .number x => x.shortest
  | .integer n => String.ofList (Json.integerText n)

/-- What stands for a field in a JSON object. -/
def json : FieldInput → Json
  | .text s => .string s
  | .number x => .float x
  | .integer n => .int n

/-- Any field may be given as a text. The value may be a finite number, and a precision may be an integer
of some thousand digits. -/
def Suits (name : String) : FieldInput → Prop
  | .text _ => True
  | .number x => name = "value" ∧ x.isFinite = true
  | .integer n => (name = "decimals" ∨ name = "sig_figs") ∧ n.natAbs < 10 ^ digitLimit

end FieldInput

/-- The fields of a query. -/
def queryFields (fields : List (String × FieldInput)) : List (String × String) :=
  fields.map fun field => (field.1, field.2.queryText)

/-- The members of a JSON object with the same fields. -/
def bodyMembers (fields : List (String × FieldInput)) : List (Text × Json) :=
  fields.map fun field => (Text.ofString field.1, field.2.json)

/-- The members of the object that a query stands for. -/
def queryMembers (fields : List (String × String)) : List (Text × Json) :=
  fields.map fun field => (Text.ofString field.1, .string field.2)

namespace ConversionRequest

/-- A field of the schema is read alike from text and from a JSON value. -/
theorem coerce_channels {f : Field} (hf : f ∈ schema.fields) {input : FieldInput}
    (hSuits : input.Suits f.key) :
    f.kind.coerce (.string input.queryText) = f.kind.coerce input.json := by
  cases input with
  | text s => rfl
  | number x =>
    obtain ⟨hKey, hFinite⟩ := hSuits
    have hKinds : ∀ f ∈ schema.fields, f.key = "value" → f.kind = .finiteNumber := by decide
    rw [hKinds f hf hKey]
    exact (FieldKind.isLax_coerce.numberText hFinite).trans (FieldKind.isLax_coerce.number hFinite).symm
  | integer n =>
    obtain ⟨hKey, hSize⟩ := hSuits
    have hKinds : ∀ f ∈ schema.fields, f.key = "decimals" ∨ f.key = "sig_figs" →
        f.kind = .optionalInteger := by decide
    have hLimit : n.natAbs < 10 ^ integerTextLimit :=
      Nat.lt_of_lt_of_le hSize (Nat.pow_le_pow_right (by decide) (by decide))
    rw [hKinds f hf hKey]
    exact (FieldKind.isLax_coerce.integerText hLimit).trans (FieldKind.isLax_coerce.integer n).symm

theorem read_channels {f : Field} (hf : f ∈ schema.fields) {fields : List (String × FieldInput)}
    (hSuit : ∀ field ∈ fields, field.2.Suits field.1) :
    f.read (queryMembers (queryFields fields)) = f.read (bodyMembers fields) := by
  refine Field.read_congr ?_
  induction fields with
  | nil => rfl
  | cons field rest ih =>
    obtain ⟨hHead, hRest⟩ := List.forall_mem_cons.mp hSuit
    obtain ⟨name, input⟩ := field
    simp only [queryMembers, queryFields, bodyMembers, List.map_cons, List.lookup_cons]
    by_cases hKey : f.key = name
    · subst hKey
      simp [coerce_channels hf hHead]
    · have hOther : (Text.ofString f.key == Text.ofString name) = false :=
        beq_eq_false_iff_ne.mpr fun hEq => hKey (Text.ofString_injective hEq)
      rw [hOther]
      exact ih hRest

/-- A query and a JSON object with the same fields make the same request, or have the same faults. -/
theorem ofPayload_channels {fields : List (String × FieldInput)}
    (hSuit : ∀ field ∈ fields, field.2.Suits field.1) :
    ofPayload (.object (queryMembers (queryFields fields))) =
      ofPayload (.object (bodyMembers fields)) := by
  have hNames : (queryMembers (queryFields fields)).map Prod.fst =
      (bodyMembers fields).map Prod.fst := by
    simp [queryMembers, queryFields, bodyMembers]
  rw [ofPayload, ofPayload, Schema.validate_congr hNames fun f hf => read_channels hf hSuit]

end ConversionRequest

end UnitConversion
