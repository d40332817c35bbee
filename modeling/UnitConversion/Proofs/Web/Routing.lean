import UnitConversion.Proofs.Web.Query
import UnitConversion.Web.Endpoint

/-!
# Where paths lead

The router looks at the segments of a path. Here each endpoint has its paths written out
(`Endpoint.LiesAt`), and the router is shown to find exactly these: a path is known to a method if one of
its endpoints knows the method, a path that is not known itself is redirected if it is known with its
slashes merged, and all else leads nowhere.

* `Endpoint.ofPath?_eq_some_iff`: the paths of an endpoint.
* `IsRouter`: where requests go.
* `isRouter_route`, `IsRouter.eq_route`: there is one router.
-/

namespace UnitConversion

/-! ## Segments -/

/-- No part between separators has a separator in it. -/
theorem Text.not_mem_of_mem_fields {separator : Char} {cs part : List Char}
    (hPart : part ∈ fields separator cs) : separator ∉ part := by
  induction cs generalizing part with
  | nil =>
    obtain rfl := List.mem_singleton.mp hPart
    exact List.not_mem_nil
  | cons c rest ih =>
    unfold fields at hPart
    split at hPart
    · rcases List.mem_cons.mp hPart with rfl | hRest
      · exact List.not_mem_nil
      · exact ih hRest
    · rename_i hc
      cases hFields : fields separator rest with
      | nil => exact absurd hFields (fields_ne_nil separator rest)
      | cons first others =>
        rw [hFields] at hPart ih
        rcases List.mem_cons.mp hPart with rfl | hOther
        · intro hMem
          rcases List.mem_cons.mp hMem with hEq | hFirst
          · exact hc hEq.symm
          · exact ih List.mem_cons_self hFirst
        · exact ih (List.mem_cons_of_mem first hOther)

theorem map_ofList_eq_iff {segments : List (List Char)} {names : List String} :
    segments.map String.ofList = names ↔ segments = names.map String.toList := by
  constructor
  · rintro rfl
    simp [List.map_map, Function.comp_def]
  · rintro rfl
    simp [List.map_map, Function.comp_def]

/-! ## The paths of the endpoints -/

namespace Endpoint

/-- The endpoint lies at the path. Quantities are one segment, and files may lie in folders. -/
inductive LiesAt (hasPlain : Bool) : Endpoint → List Char → Prop where
  | home : LiesAt hasPlain .home "/".toList
  | plainConversion (hPlain : hasPlain = true) : LiesAt hasPlain .plainConversion "/convert".toList
  | groups : LiesAt hasPlain .groups "/api/unit_converter/groups".toList
  | units {quantity : List Char} (hNonempty : quantity ≠ []) (hSegment : '/' ∉ quantity) :
      LiesAt hasPlain (.units (String.ofList quantity))
        ("/api/unit_converter/units/".toList ++ quantity)
  | conversion : LiesAt hasPlain .conversion "/api/unit_converter/convert".toList
  | file {first : Char} {rest : List Char} (hFirst : first ≠ '/') (hLine : '\n' ∉ rest) :
      LiesAt hasPlain .file ("/static/".toList ++ first :: rest)

variable {hasPlain : Bool} {e : Endpoint} {path : List Char}

theorem isFileName_iff {segments : List (List Char)} :
    isFileName segments = true ↔
      ∃ first rest, Text.join '/' segments = first :: rest ∧ first ≠ '/' ∧ '\n' ∉ rest := by
  unfold isFileName
  cases Text.join '/' segments with
  | nil => simp
  | cons first rest =>
    have hTests : (first != '/' && !rest.contains '\n') = true ↔ first ≠ '/' ∧ '\n' ∉ rest := by simp
    constructor
    · intro h
      exact ⟨first, rest, rfl, hTests.mp h⟩
    · rintro ⟨first', rest', hEq, h⟩
      cases hEq
      exact hTests.mpr h

theorem liesAt_file {segments : List (List Char)} (hFile : isFileName segments = true) :
    LiesAt hasPlain .file ('/' :: Text.join '/' ("static".toList :: segments)) := by
  obtain ⟨first, rest, hJoin, hFirst, hLine⟩ := isFileName_iff.mp hFile
  have hNonempty : segments ≠ [] := by
    rintro rfl
    cases hJoin
  rw [Text.join_cons_of_ne_nil '/' _ hNonempty, hJoin]
  exact .file hFirst hLine

theorem liesAt_of_ofSegments? {rest : List Char}
    (h : ofSegments? hasPlain (Text.fields '/' rest) = some e) : LiesAt hasPlain e ('/' :: rest) := by
  have hJoin := Text.join_fields '/' rest
  have hSegment : ∀ part ∈ Text.fields '/' rest, '/' ∉ part := fun _ => Text.not_mem_of_mem_fields
  generalize Text.fields '/' rest = segments at h hJoin hSegment
  unfold ofSegments? at h
  split at h
  · rename_i hNames
    obtain rfl := map_ofList_eq_iff.mp hNames
    cases h
    subst hJoin
    exact .home
  · rename_i hNames
    obtain rfl := map_ofList_eq_iff.mp hNames
    subst hJoin
    split at h
    · rename_i hPlain
      cases h
      exact .plainConversion hPlain
    · cases h
  · rename_i hNames
    obtain rfl := map_ofList_eq_iff.mp hNames
    cases h
    subst hJoin
    exact .groups
  · rename_i hNames
    obtain rfl := map_ofList_eq_iff.mp hNames
    cases h
    subst hJoin
    exact .conversion
  · rename_i quantity hNames
    obtain rfl := map_ofList_eq_iff.mp hNames
    subst hJoin
    split at h
    · cases h
    · rename_i hNonempty
      cases h
      have hUnits : LiesAt hasPlain (.units (String.ofList quantity.toList))
          ("/api/unit_converter/units/".toList ++ quantity.toList) :=
        .units (by simpa using hNonempty) (hSegment _ (by simp))
      rw [String.ofList_toList] at hUnits
      exact hUnits
  · rename_i others hNames
    obtain rfl := map_ofList_eq_iff.mp hNames
    split at h
    · rename_i hFile
      cases h
      rw [← hJoin]
      exact liesAt_file hFile
    · cases h
  · cases h

/-- The segments of a path that is written out. -/
theorem fields_units {quantity : List Char} (hSegment : '/' ∉ quantity) :
    Text.fields '/' ("api/unit_converter/units/".toList ++ quantity) =
      ["api".toList, "unit_converter".toList, "units".toList, quantity] := by
  have hApi : '/' ∉ "api".toList := by decide
  have hConverter : '/' ∉ "unit_converter".toList := by decide
  have hUnits : '/' ∉ "units".toList := by decide
  have hPath : "api/unit_converter/units/".toList ++ quantity =
      "api".toList ++ '/' :: ("unit_converter".toList ++ '/' :: ("units".toList ++ '/' :: quantity)) :=
    rfl
  rw [hPath, Text.fields_append hApi, Text.fields_append hConverter, Text.fields_append hUnits,
    Text.fields_of_not_mem hSegment]

theorem ofSegments?_file {hasPlain : Bool} {segments : List (List Char)}
    (hFile : isFileName segments = true) :
    ofSegments? hasPlain ("static".toList :: segments) = some .file := by
  simp [ofSegments?, hFile]

/-- The router finds an endpoint exactly at its paths. -/
theorem ofPath?_eq_some_iff : ofPath? hasPlain path = some e ↔ LiesAt hasPlain e path := by
  constructor
  · intro h
    unfold ofPath? at h
    split at h
    · exact liesAt_of_ofSegments? h
    · cases h
  · intro h
    cases h with
    | home => rfl
    | plainConversion hPlain =>
      subst hPlain
      rfl
    | groups => rfl
    | @units quantity hNonempty hSegment =>
      have hPath : "/api/unit_converter/units/".toList ++ quantity =
          '/' :: ("api/unit_converter/units/".toList ++ quantity) := rfl
      rw [hPath, ofPath?, fields_units hSegment]
      simp [ofSegments?, hNonempty]
    | conversion => rfl
    | @file first rest hFirst hLine =>
      have hStatic : '/' ∉ "static".toList := by decide
      have hPath : "/static/".toList ++ first :: rest =
          '/' :: ("static".toList ++ '/' :: first :: rest) := rfl
      rw [hPath, ofPath?, Text.fields_append hStatic]
      apply ofSegments?_file
      exact isFileName_iff.mpr ⟨first, rest, Text.join_fields '/' _, hFirst, hLine⟩

theorem exists_of_liesAt (hPath : LiesAt hasPlain e path) : ∃ rest, path = '/' :: rest := by
  cases hPath <;> exact ⟨_, rfl⟩

theorem options_mem_methods (e : Endpoint) : Method.options ∈ e.methods := by
  cases e <;> simp [methods]

/-- Some endpoint at the path knows the method. -/
def Known (hasPlain : Bool) (method : Method) (path : List Char) : Prop :=
  ∃ e, LiesAt hasPlain e path ∧ method ∈ e.methods

theorem find?_eq_some_iff {method : Method} :
    find? hasPlain method path = some e ↔ LiesAt hasPlain e path ∧ method ∈ e.methods := by
  rw [find?, Option.filter_eq_some_iff, ofPath?_eq_some_iff, List.contains_iff_mem]

theorem find?_eq_none_iff {method : Method} :
    find? hasPlain method path = none ↔ ¬ Known hasPlain method path := by
  rw [Option.eq_none_iff_forall_ne_some]
  simp only [ne_eq, find?_eq_some_iff, Known, not_exists]

end Endpoint

/-! ## Where requests go -/

open Endpoint

/-- What is relied on of a router. A path leads to its endpoint under the methods that the endpoint knows. A
path that is known only with its slashes merged is redirected, and all others lead nowhere. -/
structure IsRouter (platform : Platform) (hasPlain : Bool) (routing : Method → List Char → Routing) : Prop where
  known {method : Method} {path : List Char} {e : Endpoint} (hPath : LiesAt hasPlain e path)
    (hMethod : method ∈ e.methods) : routing method path = .endpoint e
  mergeable {method : Method} {path : List Char} (hUnknown : ¬ Known hasPlain method path)
    (hMerged : Known hasPlain method (betterPath platform path)) :
    routing method path = .redirection (betterPath platform path)
  unknown {method : Method} {path : List Char} (hUnknown : ¬ Known hasPlain method path)
    (hNotMerged : ¬ Known hasPlain method (betterPath platform path)) : routing method path = .nowhere

theorem isRouter_route (platform : Platform) (hasPlain : Bool) :
    IsRouter platform hasPlain (route platform hasPlain) where
  known hPath hMethod := by rw [route, find?_eq_some_iff.mpr ⟨hPath, hMethod⟩]
  mergeable hUnknown hMerged := by
    obtain ⟨e, hPath, hMethod⟩ := hMerged
    rw [route, find?_eq_none_iff.mpr hUnknown, find?_eq_some_iff.mpr ⟨hPath, hMethod⟩]
  unknown hUnknown hNotMerged := by
    rw [route, find?_eq_none_iff.mpr hUnknown, find?_eq_none_iff.mpr hNotMerged]

/-- There is one router only. -/
theorem IsRouter.eq_route {platform : Platform} {hasPlain : Bool} {routing : Method → List Char → Routing}
    (h : IsRouter platform hasPlain routing) : routing = route platform hasPlain := by
  have hRoute := isRouter_route platform hasPlain
  funext method path
  by_cases hKnown : Known hasPlain method path
  · obtain ⟨e, hPath, hMethod⟩ := hKnown
    rw [h.known hPath hMethod, hRoute.known hPath hMethod]
  · by_cases hMerged : Known hasPlain method (betterPath platform path)
    · rw [h.mergeable hKnown hMerged, hRoute.mergeable hKnown hMerged]
    · rw [h.unknown hKnown hMerged, hRoute.unknown hKnown hMerged]

end UnitConversion
