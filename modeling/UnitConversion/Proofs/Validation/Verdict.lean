import UnitConversion.Proofs.Validation.Records

/-!
# Verdicts on payloads

What comes of a payload is said here without the code that reads it: which objects are accepted, what their
records hold, and which faults the others have. The faults are one for each field that fails, in the order of the
schema, and then one for each member that is not declared, in the order of the payload. One thing comes before
all this: a name with half of a surrogate pair cannot be reported, and where names matter it is the only fault.

* `ListsEach`: a list with one fault for each element that fails.
* `Schema.Verdict`: what comes of a payload.
* `Schema.IsValidator`, `Schema.isValidator_validate`: what is relied on of a validator, and that this is one.
* `Schema.IsValidator.eq_validate`: there is no other.
* `Schema.validate_eq_iff`: it is what a schema makes of it.
-/

namespace UnitConversion

/-! ## One fault for each failure -/

/-- The faults of those elements that fail, in the order of the elements. -/
inductive ListsEach {α : Type} (fails : α → Fault → Prop) : List α → List Fault → Prop
  | nil : ListsEach fails [] []
  | fault {a : α} {rest : List α} {fault : Fault} {faults : List Fault} (hFails : fails a fault)
      (hRest : ListsEach fails rest faults) : ListsEach fails (a :: rest) (fault :: faults)
  | pass {a : α} {rest : List α} {faults : List Fault} (hPasses : ∀ fault, ¬ fails a fault)
      (hRest : ListsEach fails rest faults) : ListsEach fails (a :: rest) faults

namespace ListsEach

variable {α : Type} {fails : α → Fault → Prop} {as : List α} {faults : List Fault}

theorem iff_flatMap {report : α → List Fault} (hFails : ∀ a fault, fails a fault ↔ report a = [fault])
    (hOne : ∀ a, report a = [] ∨ ∃ fault, report a = [fault]) :
    ListsEach fails as faults ↔ faults = as.flatMap report := by
  constructor
  · intro h
    induction h with
    | nil => rfl
    | fault hHead _ ih => rw [List.flatMap_cons, (hFails _ _).mp hHead, ih, List.singleton_append]
    | @pass a _ _ hPasses _ ih =>
      obtain hNone | ⟨fault, hFault⟩ := hOne a
      · rw [List.flatMap_cons, hNone, ih, List.nil_append]
      · exact absurd ((hFails a fault).mpr hFault) (hPasses fault)
  · rintro rfl
    induction as with
    | nil => exact .nil
    | cons a rest ih =>
      rw [List.flatMap_cons]
      obtain hNone | ⟨fault, hFault⟩ := hOne a
      · rw [hNone]
        refine .pass (fun fault hHead => ?_) ih
        rw [hFails, hNone] at hHead
        cases hHead
      · rw [hFault]
        exact .fault ((hFails a fault).mpr hFault) ih

theorem locations_sublist {location : α → List Text} (h : ListsEach fails as faults)
    (hLocation : ∀ a fault, fails a fault → fault.location = location a) :
    (faults.map Fault.location).Sublist (as.map location) := by
  induction h with
  | nil => exact .slnil
  | fault hHead _ ih =>
    rw [List.map_cons, List.map_cons, hLocation _ _ hHead]
    exact ih.cons_cons _
  | pass _ _ ih => exact ih.cons _

theorem exists_fails {fault : Fault} (h : ListsEach fails as faults) (hMem : fault ∈ faults) :
    ∃ a ∈ as, fails a fault := by
  induction h with
  | nil => cases hMem
  | fault hHead _ ih =>
    cases hMem with
    | head => exact ⟨_, List.mem_cons_self, hHead⟩
    | tail _ hMem =>
      obtain ⟨a, ha, hFails⟩ := ih hMem
      exact ⟨a, List.mem_cons_of_mem _ ha, hFails⟩
  | pass _ _ ih =>
    obtain ⟨a, ha, hFails⟩ := ih hMem
    exact ⟨a, List.mem_cons_of_mem _ ha, hFails⟩

end ListsEach

/-! ## Fields -/

namespace Field

/-- The value of a field in an object. -/
inductive Gives (f : Field) (ms : List (Text × Json)) : FieldValue → Prop
  | present {j : Json} {value : FieldValue} (hMember : ms.lookup (Text.ofString f.key) = some j)
      (hCoerces : f.kind.coerce j = .ok value) : Gives f ms value
  | absent {value : FieldValue} (hMember : ms.lookup (Text.ofString f.key) = none)
      (hDefault : f.default? = some value) : Gives f ms value

/-- The fault of a field in an object. -/
inductive Fails (f : Field) (ms : List (Text × Json)) : Fault → Prop
  | unfit {j : Json} {kind : FaultKind} (hMember : ms.lookup (Text.ofString f.key) = some j)
      (hCoerces : f.kind.coerce j = .error kind) : Fails f ms ⟨[f.key], kind⟩
  | missing (hMember : ms.lookup (Text.ofString f.key) = none) (hRequired : f.default? = none) :
      Fails f ms ⟨[f.key], .missing⟩

variable {f : Field} {ms : List (Text × Json)} {fault : Fault} {value : FieldValue}

theorem Fails.location_eq (h : f.Fails ms fault) : fault.location = [Text.ofString f.key] := by
  cases h with
  | unfit => rfl
  | missing => rfl

theorem read_eq_ok_iff : f.read ms = .ok value ↔ f.Gives ms value := by
  constructor
  · intro h
    unfold read at h
    split at h
    · rename_i j hMember
      exact .present hMember h
    · rename_i hMember
      split at h
      · rename_i hDefault
        cases h
        exact .absent hMember hDefault
      · cases h
  · intro h
    unfold read
    cases h with
    | present hMember hCoerces => rw [hMember, ← hCoerces]
    | absent hMember hDefault => rw [hMember, hDefault]

theorem fails_iff : f.Fails ms fault ↔ ∃ kind, f.read ms = .error kind ∧ fault = ⟨[f.key], kind⟩ := by
  constructor
  · intro h
    cases h with
    | unfit hMember hCoerces =>
      refine ⟨_, ?_, rfl⟩
      rw [read, hMember, ← hCoerces]
    | missing hMember hRequired =>
      refine ⟨_, ?_, rfl⟩
      rw [read, hMember, hRequired]
  · rintro ⟨kind, hRead, rfl⟩
    unfold read at hRead
    split at hRead
    · rename_i j hMember
      exact .unfit hMember hRead
    · rename_i hMember
      split at hRead
      · cases hRead
      · rename_i hRequired
        cases hRead
        exact .missing hMember hRequired

theorem fails_iff_faults : f.Fails ms fault ↔ f.faults ms = [fault] := by
  rw [fails_iff]
  cases hRead : f.read ms with
  | ok value => simp [faults, hRead]
  | error kind => simp [faults, hRead, eq_comm]

theorem faults_eq_nil_iff : f.faults ms = [] ↔ ∃ value, f.Gives ms value := by
  constructor
  · intro h
    obtain ⟨value, hRead⟩ := read_of_faults_eq_nil h
    exact ⟨value, read_eq_ok_iff.mp hRead⟩
  · rintro ⟨value, hGives⟩
    exact faults_of_ok (read_eq_ok_iff.mpr hGives)

theorem faults_nil_or_singleton (f : Field) (ms : List (Text × Json)) :
    f.faults ms = [] ∨ ∃ fault, f.faults ms = [fault] := by
  cases hRead : f.read ms with
  | ok value => exact Or.inl (faults_of_ok hRead)
  | error kind => exact Or.inr ⟨_, faults_of_error hRead⟩

end Field

namespace Schema

/-! ## Objects -/

/-- No field is read from a member of this name, and there may be no others. -/
def Forbids (s : Schema) (name : Text) : Prop :=
  s.ignoresUndeclared = false ∧ ∀ f ∈ s.fields, Text.ofString f.key ≠ name

/-- The names that matter can be reported. -/
def CanName (s : Schema) (ms : List (Text × Json)) : Prop :=
  s.ignoresUndeclared = false → ∀ name ∈ ms.map Prod.fst, name.isWhole = true

/-- The objects that a schema accepts. -/
structure Accepts (s : Schema) (ms : List (Text × Json)) : Prop where
  required : ∀ f ∈ s.fields, f.default? = none → Text.ofString f.key ∈ ms.map Prod.fst
  coerces : ∀ f ∈ s.fields, ∀ j, ms.lookup (Text.ofString f.key) = some j → ∃ value, f.kind.coerce j = .ok value
  permitted : ∀ name ∈ ms.map Prod.fst, ¬ s.Forbids name

/-- The record of an accepted object. -/
def Fills (s : Schema) (ms : List (Text × Json)) (r : Record) : Prop :=
  List.Forall₂ (fun f entry => entry.1 = f.name ∧ f.Gives ms entry.2) s.fields r

/-- The faults of an object: those of the fields and then those of the members. -/
def Lists (s : Schema) (ms : List (Text × Json)) (faults : List Fault) : Prop :=
  ∃ own others, faults = own ++ others ∧ ListsEach (fun f => f.Fails ms) s.fields own ∧
    ListsEach (fun name fault => s.Forbids name ∧ fault = ⟨[name], .undeclared⟩) (ms.map Prod.fst) others

/-- What comes of a payload. -/
inductive Verdict (s : Schema) : Json → Except (List Fault) Record → Prop
  | nothing {payload : Json} {result : Except (List Fault) Record} (hFalsy : payload.isFalsy = true)
      (hEmpty : Verdict s (.object []) result) : Verdict s payload result
  | notAnObject {payload : Json} (hTruthy : payload.isFalsy = false) (hOther : ∀ ms, payload ≠ .object ms) :
      Verdict s payload (.error [⟨[], .notAnObject s.title⟩])
  | unnameable {ms : List (Text × Json)} (hNames : ¬ s.CanName ms) :
      Verdict s (.object ms) (.error [⟨[], .brokenText⟩])
  | accepted {ms : List (Text × Json)} {r : Record} (hNames : s.CanName ms) (hAccepts : s.Accepts ms)
      (hFills : s.Fills ms r) : Verdict s (.object ms) (.ok r)
  | rejected {ms : List (Text × Json)} {faults : List Fault} (hNames : s.CanName ms) (hRejects : ¬ s.Accepts ms)
      (hLists : s.Lists ms faults) : Verdict s (.object ms) (.error faults)

variable {s : Schema} {ms : List (Text × Json)} {faults : List Fault} {r : Record}

theorem declares_eq_true_iff {name : Text} :
    s.declares name = true ↔ ∃ f ∈ s.fields, Text.ofString f.key = name := by
  simp [declares]

theorem canName_iff : s.CanName ms ↔ s.hasBrokenName ms = false := by
  cases hIgnores : s.ignoresUndeclared with
  | true => simp [CanName, hasBrokenName, hIgnores]
  | false => simp [CanName, hasBrokenName, hIgnores]

theorem forbids_iff {name : Text} :
    s.Forbids name ↔ (s.ignoresUndeclared || s.declares name) = false := by
  rw [Bool.or_eq_false_iff, Forbids]
  refine and_congr_right fun _ => ?_
  rw [← Bool.not_eq_true, declares_eq_true_iff]
  simp only [not_exists, not_and, ne_eq]

/-- The fault of a member, if it has one. -/
def memberFaults (s : Schema) (name : Text) : List Fault :=
  if s.ignoresUndeclared || s.declares name then [] else [⟨[name], .undeclared⟩]

theorem undeclaredFaults_eq (s : Schema) (ms : List (Text × Json)) :
    s.undeclaredFaults ms = (ms.map Prod.fst).flatMap s.memberFaults := by
  unfold undeclaredFaults
  induction ms with
  | nil => simp
  | cons m rest ih =>
    rw [List.map_cons, List.flatMap_cons, ← ih, memberFaults]
    cases hIgnores : s.ignoresUndeclared with
    | true => simp
    | false =>
      cases hKnown : s.declares m.1 with
      | true => simp [hKnown]
      | false => simp [hKnown]

theorem lists_iff :
    s.Lists ms faults ↔ faults = s.fields.flatMap (·.faults ms) ++ s.undeclaredFaults ms := by
  have hFields {own : List Fault} :
      ListsEach (fun f => f.Fails ms) s.fields own ↔ own = s.fields.flatMap (·.faults ms) :=
    ListsEach.iff_flatMap (fun _ _ => Field.fails_iff_faults) fun f => f.faults_nil_or_singleton ms
  have hMembers {others : List Fault} :
      ListsEach (fun name fault => s.Forbids name ∧ fault = ⟨[name], .undeclared⟩) (ms.map Prod.fst) others ↔
        others = s.undeclaredFaults ms := by
    rw [undeclaredFaults_eq]
    refine ListsEach.iff_flatMap (fun name fault => ?_) fun name => ?_
    · rw [forbids_iff, memberFaults]
      split
      · rename_i hAllowed
        simp [hAllowed]
      · rename_i hForbidden
        simp [Bool.eq_false_iff.mpr hForbidden, eq_comm]
    · unfold memberFaults
      split
      · exact Or.inl rfl
      · exact Or.inr ⟨_, rfl⟩
  constructor
  · rintro ⟨own, others, rfl, hOwn, hOthers⟩
    rw [hFields.mp hOwn, hMembers.mp hOthers]
  · rintro rfl
    exact ⟨_, _, rfl, hFields.mpr rfl, hMembers.mpr rfl⟩

theorem mem_names_iff {name : Text} : name ∈ ms.map Prod.fst ↔ ∃ j, ms.lookup name = some j := by
  induction ms with
  | nil => simp
  | cons m rest ih =>
    rw [List.map_cons, List.mem_cons, ih, List.lookup_cons]
    by_cases hName : name = m.1
    · simp [hName]
    · simp [hName, beq_eq_false_iff_ne.mpr hName]

theorem accepts_iff : s.Accepts ms ↔ (∀ f ∈ s.fields, f.faults ms = []) ∧ s.undeclaredFaults ms = [] := by
  have hMembers : s.undeclaredFaults ms = [] ↔ ∀ name ∈ ms.map Prod.fst, ¬ s.Forbids name := by
    rw [undeclaredFaults_eq, List.flatMap_eq_nil_iff]
    refine forall₂_congr fun name _ => ?_
    rw [forbids_iff, memberFaults]
    simp
  rw [hMembers]
  constructor
  · intro h
    refine ⟨fun f hf => Field.faults_eq_nil_iff.mpr ?_, h.permitted⟩
    -- A field without a member has its default, since it cannot be one of those that are required.
    cases hMember : ms.lookup (Text.ofString f.key) with
    | some j =>
      obtain ⟨value, hCoerces⟩ := h.coerces f hf j hMember
      exact ⟨value, .present hMember hCoerces⟩
    | none =>
      cases hDefault : f.default? with
      | some value => exact ⟨value, .absent hMember hDefault⟩
      | none =>
        obtain ⟨j, hPresent⟩ := mem_names_iff.mp (h.required f hf hDefault)
        rw [hMember] at hPresent
        cases hPresent
  · rintro ⟨hFields, hPermitted⟩
    refine ⟨fun f hf hRequired => ?_, fun f hf j hMember => ?_, hPermitted⟩
    · obtain ⟨value, hGives⟩ := Field.faults_eq_nil_iff.mp (hFields f hf)
      cases hGives with
      | present hMember _ => exact mem_names_iff.mpr ⟨_, hMember⟩
      | absent _ hDefault =>
        rw [hRequired] at hDefault
        cases hDefault
    · obtain ⟨value, hGives⟩ := Field.faults_eq_nil_iff.mp (hFields f hf)
      cases hGives with
      | present hFound hCoerces =>
        cases hMember.symm.trans hFound
        exact ⟨value, hCoerces⟩
      | absent hFound _ =>
        cases hMember.symm.trans hFound

theorem fills_iff (hFields : ∀ f ∈ s.fields, f.faults ms = []) :
    s.Fills ms r ↔ r = s.fields.flatMap (·.values ms) := by
  unfold Fills
  generalize s.fields = fs at hFields ⊢
  induction fs generalizing r with
  | nil => simp
  | cons f rest ih =>
    obtain ⟨hHead, hRest⟩ := List.forall_mem_cons.mp hFields
    obtain ⟨value, hRead⟩ := Field.read_of_faults_eq_nil hHead
    rw [List.flatMap_cons, Field.values_of_ok hRead, List.singleton_append, List.forall₂_cons_left_iff]
    constructor
    · rintro ⟨⟨name, given⟩, entries, ⟨rfl, hGives⟩, hEntries, rfl⟩
      have hSame := hRead.symm.trans (Field.read_eq_ok_iff.mpr hGives)
      rw [(ih hRest).mp hEntries, Except.ok.inj hSame]
    · rintro rfl
      exact ⟨_, _, ⟨rfl, Field.read_eq_ok_iff.mp hRead⟩, (ih hRest).mpr rfl, rfl⟩

/-! ## Payloads -/

/-- What is relied on of a validator. A payload that stands for nothing is an empty object, and all others that
are no objects are refused as a whole. Of an object each field is checked by itself, and then which members
there are. -/
structure IsValidator (validate : Schema → Json → Except (List Fault) Record) : Prop where
  nothing {s : Schema} {payload : Json} (hFalsy : payload.isFalsy = true) :
    validate s payload = validate s (.object [])
  notAnObject {s : Schema} {payload : Json} (hTruthy : payload.isFalsy = false)
    (hOther : ∀ ms, payload ≠ .object ms) : validate s payload = .error [⟨[], .notAnObject s.title⟩]
  unnameable {s : Schema} {ms : List (Text × Json)} (hNames : ¬ s.CanName ms) :
    validate s (.object ms) = .error [⟨[], .brokenText⟩]
  accepted {s : Schema} {ms : List (Text × Json)} {r : Record} (hNames : s.CanName ms) (hAccepts : s.Accepts ms)
    (hFills : s.Fills ms r) : validate s (.object ms) = .ok r
  rejected {s : Schema} {ms : List (Text × Json)} {faults : List Fault} (hNames : s.CanName ms)
    (hRejects : ¬ s.Accepts ms) (hLists : s.Lists ms faults) : validate s (.object ms) = .error faults

theorem validate_nameable (hNames : s.CanName ms) :
    s.Accepts ms ∧ s.validate (.object ms) = .ok (s.fields.flatMap (·.values ms)) ∨
      ¬ s.Accepts ms ∧
        s.validate (.object ms) = .error (s.fields.flatMap (·.faults ms) ++ s.undeclaredFaults ms) := by
  have hFaults : s.faults ms = s.fields.flatMap (·.faults ms) ++ s.undeclaredFaults ms := by
    rw [faults, canName_iff.mp hNames, if_neg Bool.false_ne_true]
  have hAccepts : s.Accepts ms ↔ s.faults ms = [] := by
    rw [accepts_iff, hFaults, List.append_eq_nil_iff, List.flatMap_eq_nil_iff]
  rw [validate_object, hAccepts, ← hFaults]
  by_cases hNone : s.faults ms = []
  · exact Or.inl ⟨hNone, if_pos hNone⟩
  · exact Or.inr ⟨hNone, if_neg hNone⟩

theorem isValidator_validate : IsValidator validate where
  nothing hFalsy := by
    rw [validate, hFalsy, if_pos rfl]
    rfl
  notAnObject hTruthy hOther := by
    rw [validate, hTruthy, if_neg Bool.false_ne_true]
    split
    · exact absurd rfl (hOther _)
    · rfl
  unnameable hNames := by
    rw [canName_iff, Bool.not_eq_false] at hNames
    simp [validate_object, faults, hNames]
  accepted hNames hAccepts hFills := by
    obtain ⟨-, hResult⟩ | ⟨hRejects, -⟩ := validate_nameable hNames
    · rw [hResult, (fills_iff (accepts_iff.mp hAccepts).1).mp hFills]
    · exact absurd hAccepts hRejects
  rejected hNames hRejects hLists := by
    obtain ⟨hAccepts, -⟩ | ⟨-, hResult⟩ := validate_nameable hNames
    · exact absurd hAccepts hRejects
    · rw [hResult, lists_iff.mp hLists]

theorem verdict_object (s : Schema) (ms : List (Text × Json)) :
    s.Verdict (.object ms) (s.validate (.object ms)) := by
  by_cases hNames : s.CanName ms
  · obtain ⟨hAccepts, hResult⟩ | ⟨hRejects, hResult⟩ := validate_nameable hNames
    · rw [hResult]
      exact .accepted hNames hAccepts ((fills_iff (accepts_iff.mp hAccepts).1).mpr rfl)
    · rw [hResult]
      exact .rejected hNames hRejects (lists_iff.mpr rfl)
  · rw [isValidator_validate.unnameable hNames]
    exact .unnameable hNames

theorem verdict_validate (s : Schema) (payload : Json) : s.Verdict payload (s.validate payload) := by
  cases hFalsy : payload.isFalsy with
  | true =>
    rw [isValidator_validate.nothing hFalsy]
    exact .nothing hFalsy (s.verdict_object [])
  | false =>
    by_cases hObject : ∃ ms, payload = .object ms
    · obtain ⟨ms, rfl⟩ := hObject
      exact s.verdict_object ms
    · have hOther : ∀ ms, payload ≠ .object ms := fun ms hEq => hObject ⟨ms, hEq⟩
      rw [isValidator_validate.notAnObject hFalsy hOther]
      exact .notAnObject hFalsy hOther

/-- A validator finds the verdict. -/
theorem IsValidator.eq_of_verdict {validate : Schema → Json → Except (List Fault) Record} (h : IsValidator validate)
    {payload : Json} {result : Except (List Fault) Record} (hVerdict : s.Verdict payload result) :
    validate s payload = result := by
  induction hVerdict with
  | nothing hFalsy _ ih => exact (h.nothing hFalsy).trans ih
  | notAnObject hTruthy hOther => exact h.notAnObject hTruthy hOther
  | unnameable hNames => exact h.unnameable hNames
  | accepted hNames hAccepts hFills => exact h.accepted hNames hAccepts hFills
  | rejected hNames hRejects hLists => exact h.rejected hNames hRejects hLists

/-- There is one validator only. -/
theorem IsValidator.eq_validate {validate : Schema → Json → Except (List Fault) Record} (h : IsValidator validate) :
    validate = Schema.validate := by
  funext s payload
  exact h.eq_of_verdict (s.verdict_validate payload)

/-! ## Locations -/

/-- The faults lie in different places, each at the key of a field or at the name of a member. -/
theorem Lists.nodup_locations (h : s.Lists ms faults) (hKeys : (s.fields.map (·.key)).Nodup)
    (hNames : (ms.map Prod.fst).Nodup) : (faults.map Fault.location).Nodup := by
  obtain ⟨own, others, rfl, hOwn, hOthers⟩ := h
  have hOwnPlaces : (own.map Fault.location).Nodup := by
    have hPlaces : (s.fields.map fun f => [Text.ofString f.key]).Nodup := by
      have hSingle : Function.Injective fun key : String => [Text.ofString key] := fun a b hEq =>
        Text.ofString_injective (List.singleton_inj.mp hEq)
      have hMapped := hKeys.map hSingle
      rwa [List.map_map] at hMapped
    exact hPlaces.sublist (hOwn.locations_sublist fun _ _ hFails => hFails.location_eq)
  have hOtherPlaces : (others.map Fault.location).Nodup := by
    have hPlaces := hNames.map fun _ _ hEq => List.singleton_inj.mp hEq
    exact hPlaces.sublist (hOthers.locations_sublist fun _ _ hFails => congrArg Fault.location hFails.2)
  rw [List.map_append]
  refine List.nodup_append.mpr ⟨hOwnPlaces, hOtherPlaces, ?_⟩
  -- A member that is read into a field is not forbidden.
  rintro _ hOwnPlace _ hOtherPlace rfl
  obtain ⟨fault, hFault, hLocation⟩ := List.mem_map.mp hOwnPlace
  obtain ⟨other, hOther, hSame⟩ := List.mem_map.mp hOtherPlace
  obtain ⟨f, hf, hFails⟩ := hOwn.exists_fails hFault
  obtain ⟨name, -, ⟨-, hUndeclared⟩, rfl⟩ := hOthers.exists_fails hOther
  have hKey : [name] = [Text.ofString f.key] := hSame.trans (hLocation.symm.trans hFails.location_eq)
  exact hUndeclared f hf (List.singleton_inj.mp hKey).symm

theorem Verdict.nodup_locations {payload : Json} {result : Except (List Fault) Record}
    (h : s.Verdict payload result) (hKeys : (s.fields.map (·.key)).Nodup)
    (hNames : (payload.members.map Prod.fst).Nodup) (hResult : result = .error faults) :
    (faults.map Fault.location).Nodup := by
  induction h with
  | nothing _ _ ih => exact ih List.nodup_nil hResult
  | notAnObject =>
    cases hResult
    exact List.nodup_singleton _
  | unnameable =>
    cases hResult
    exact List.nodup_singleton _
  | accepted => cases hResult
  | rejected _ _ hLists =>
    cases hResult
    exact hLists.nodup_locations hKeys hNames

theorem locations_sublist_of_ignores (hIgnores : s.ignoresUndeclared = true)
    (hFaults : s.validate (.object ms) = .error faults) :
    (faults.map Fault.location).Sublist (s.fields.map fun f => [Text.ofString f.key]) := by
  have hNames : s.CanName ms := fun hStrict => by
    rw [hIgnores] at hStrict
    cases hStrict
  obtain ⟨-, hResult⟩ | ⟨-, hResult⟩ := validate_nameable hNames
  · rw [hResult] at hFaults
    cases hFaults
  · rw [hResult] at hFaults
    -- Nothing is forbidden, so that no member has a fault.
    obtain ⟨own, others, rfl, hOwn, hOthers⟩ := lists_iff.mpr (Except.error.inj hFaults).symm
    have hNone : others = [] := by
      refine List.eq_nil_iff_forall_not_mem.mpr fun fault hFault => ?_
      obtain ⟨name, -, ⟨hStrict, -⟩, -⟩ := hOthers.exists_fails hFault
      rw [hIgnores] at hStrict
      cases hStrict
    rw [hNone, List.append_nil]
    exact hOwn.locations_sublist fun _ _ hFails => hFails.location_eq

/-- What a schema asks of objects: its fields with the members that they are read from, the members that must be
there, and whether there may be others. -/
structure Asks (s : Schema) (fields : List (String × String)) (required : List String) (others : Bool) : Prop where
  fields : (s.fields.map fun f => (f.name, f.key)) = fields
  required : (s.fields.filter (·.default?.isNone)).map (·.key) = required
  others : s.ignoresUndeclared = others

/-- **Verdicts.** A schema makes of a payload what its verdict says, and nothing else. No place is reported
twice. The payloads of both interfaces ask for these members in this order, and the plain one is never at fault
for others. -/
theorem validate_eq_iff :
    (∀ (s : Schema) (payload : Json) (result : Except (List Fault) Record),
      s.validate payload = result ↔ s.Verdict payload result) ∧
    (∀ (s : Schema) (payload : Json) (faults : List Fault), (s.fields.map (·.key)).Nodup →
      (payload.members.map Prod.fst).Nodup → s.validate payload = .error faults →
        (faults.map Fault.location).Nodup) ∧
    precisionSchema.Asks [("decimals", "decimals"), ("sig_figs", "sig_figs")] [] false ∧
    ConversionRequest.schema.Asks
      [("decimals", "decimals"), ("sig_figs", "sig_figs"), ("value", "value"), ("from_unit", "from_unit"),
        ("to_unit", "to_unit")]
      ["value", "from_unit", "to_unit"] false ∧
    PlainRequest.schema.Asks [("from_unit", "from"), ("to_unit", "to"), ("value", "value")] ["value"] true ∧
    ∀ (ms : List (Text × Json)) (faults : List Fault), PlainRequest.schema.validate (.object ms) = .error faults →
      (faults.map Fault.location).Sublist [["from"], ["to"], ["value"]] := by
  refine ⟨fun s payload result => ?_, fun s payload faults hKeys hNames hFaults => ?_, ⟨rfl, rfl, rfl⟩,
    ⟨rfl, rfl, rfl⟩, ⟨rfl, rfl, rfl⟩, fun ms faults hFaults => ?_⟩
  · constructor
    · rintro rfl
      exact s.verdict_validate payload
    · exact isValidator_validate.eq_of_verdict
  · exact (s.verdict_validate payload).nodup_locations hKeys hNames hFaults
  · exact locations_sublist_of_ignores rfl hFaults

/-- An object with a field that is ill-typed, two that are missing, and a member that is not declared. -/
theorem validate_conversion_faults :
    let ms : List (Text × Json) := [("unit", .null), ("value", .int 1), ("decimals", .string "x")]
    let faults : List Fault := [⟨["decimals"], .integerParsing⟩, ⟨["from_unit"], .missing⟩, ⟨["to_unit"], .missing⟩,
      ⟨["unit"], .undeclared⟩]
    ConversionRequest.schema.validate (.object ms) = .error faults ∧
      ConversionRequest.schema.Verdict (.object ms) (.error faults) ∧ (faults.map Fault.location).Nodup := by
  intro ms faults
  have hFaults : ConversionRequest.schema.validate (.object ms) = .error faults := by decide +kernel
  exact ⟨hFaults, (validate_eq_iff.1 _ _ _).mp hFaults,
    validate_eq_iff.2.1 _ _ _ (by decide +kernel) (by decide +kernel) hFaults⟩

/-- The name of the second member is half of a surrogate pair. -/
def unnameable : List (Text × Json) := [("decimals", .string "x"), ([.half 0], .int 1)]

/-- The faults of its field and of its member are not reported, and what is reported lies in neither of them. -/
theorem validate_unnameable_members :
    ¬ precisionSchema.Accepts unnameable ∧
      precisionSchema.validate (.object unnameable) = .error [⟨[], .brokenText⟩] ∧
      ¬ precisionSchema.Lists unnameable [⟨[], .brokenText⟩] ∧
      precisionSchema.Lists unnameable [⟨["decimals"], .integerParsing⟩, ⟨[[.half 0]], .undeclared⟩] := by
  refine ⟨?_, by decide +kernel, ?_, ?_⟩
  · rw [accepts_iff]
    decide +kernel
  · rw [lists_iff]
    decide +kernel
  · rw [lists_iff]
    decide +kernel

end Schema

end UnitConversion
