import UnitConversion.Proofs.Json.Sorted
import UnitConversion.Proofs.Server.Channels

/-!
# What is read in answers

The body of an answer in JSON is a line with sorted members. A reader finds the texts in it by paths of
names, and they are those of the value that the answer was made of, if that value can be read at all. The
answers to conversions can: their numbers are finite, and their texts have no halves of surrogate pairs as
long as those of the request have none.

* `Response.textAt?`: the text that a path leads to in an answer.
* `Response.textAt?_json`: such texts are those of the value that is answered.
* `formatted?_success`, `code?_failure`: what is read in the answers to conversions.
-/

namespace UnitConversion

namespace Response

/-- The JSON that answers to conversions are read as. They have at most six collections inside of each other. -/
def dialect : Json.Dialect := { depth := 6 }

/-- The JSON value in the body of an answer. -/
def json? (r : Response) : Option Json :=
  (Json.ofText dialect (Text.ofString r.body)).toOption

/-- The text in the body of an answer that a path of names leads to. -/
def textAt? (r : Response) (path : List String) : Option Text :=
  r.json?.bind fun j => (j.at? (path.map Text.ofString)).bind Json.text?

/-- The formatted result of a conversion. -/
def formatted? (r : Response) : Option Text := r.textAt? ["data", "formatted"]

/-- The result of a plain conversion. -/
def result? (r : Response) : Option Text := r.textAt? ["result"]

/-- The code of an error. -/
def code? (r : Response) : Option Text := r.textAt? ["error", "code"]

theorem toList_body_json (status : Int) (j : Json) :
    (json status j).body.toList = j.sorted.chars ++ ['\n'] := by
  show (String.ofList j.sorted.chars ++ "\n").toList = _
  rw [String.toList_append, String.toList_ofList]
  rfl

theorem isBlank_lineFeed : ∀ p ∈ Text.ofChars ['\n'], Json.isBlank p = true := by decide

/-- The body of an answer in JSON is read as the value that is answered, in order and with the halves of
surrogate pairs joined. -/
theorem ofText_json (d : Json.Dialect) {j : Json} (hLegible : j.Legible d.depth) (status : Int) :
    Json.ofText d (Text.ofString (json status j).body) = .ok j.sorted.joined := by
  rw [Text.ofString, toList_body_json, Json.ofChars_append]
  exact Json.ofText_chars_joined d (Json.legible_sorted j hLegible) isBlank_lineFeed

variable {j : Json} (hFits : j.Fits dialect.depth) (status : Int)

include hFits

theorem json?_json : (json status j).json? = some j.sorted := by
  obtain ⟨hLegible, -⟩ := Json.legible_of_fits j hFits
  obtain ⟨-, hJoined⟩ := Json.legible_of_fits j.sorted (Json.fits_sorted j hFits)
  rw [json?, ofText_json dialect hLegible, hJoined]
  rfl

/-- The texts of an answer are those of the value that is answered. -/
theorem textAt?_json (path : List String) :
    (json status j).textAt? path = (j.at? (path.map Text.ofString)).bind Json.text? := by
  rw [textAt?, json?_json hFits status, Option.bind_some, Json.at?_sorted hFits, Option.bind_map]
  congr 1
  funext value
  exact value.text?_sorted

end Response

/-! ## Texts without halves -/

theorem Text.isWhole_append {s t : Text} (hs : s.isWhole = true) (ht : t.isWhole = true) :
    (s ++ t).isWhole = true := by
  obtain ⟨cs, rfl⟩ := Json.exists_ofChars hs
  obtain ⟨ds, rfl⟩ := Json.exists_ofChars ht
  rw [← Json.ofChars_append]
  exact isWhole_ofChars (cs ++ ds)

theorem nodup_names {names : List String} (hDistinct : names.Nodup) :
    (names.map Text.ofString).Nodup :=
  hDistinct.map fun _ _ => Text.ofString_injective

/-! ## Conversions that were carried out -/

/-- The conversion can be read again. -/
structure Converted.IsReadable (c : Converted) : Prop where
  value : c.value.isFinite = true
  source : c.source.isWhole = true
  target : c.target.isWhole = true
  quantity : c.quantity.isWhole = true

theorem Converted.fits_success {c : Converted} (hReadable : c.IsReadable) (depth : Nat) :
    (Json.object [("success", .bool true), ("data", c.describe)]).Fits (depth + 2) := by
  have hLiteral := isWhole_ofString
  obtain ⟨hValue, hSource, hTarget, hQuantity⟩ := hReadable
  have hNames : (["success", "data"].map Text.ofString).Nodup := nodup_names (by decide)
  have hInnerNames : (["value", "from_unit", "to_unit", "quantity", "formatted"].map
      Text.ofString).Nodup := nodup_names (by decide)
  refine ⟨hNames, hLiteral _, trivial, hLiteral _, ⟨hInnerNames, ?_⟩, trivial⟩
  refine Json.membersFit_iff.mpr ?_
  simp only [List.forall_mem_cons, hLiteral, true_and]
  exact ⟨hValue, hSource, hTarget, hQuantity, hLiteral _, List.forall_mem_nil _⟩

/-- What is read in the answer to a conversion that was carried out: its text, and no code of an error. -/
theorem Response.texts_success {c : Converted} (hReadable : c.IsReadable) :
    (success c.describe).formatted? = some (Text.ofString c.formatted) ∧
      (success c.describe).code? = none := by
  have hTexts := textAt?_json (c.fits_success hReadable 4) 200
  constructor
  · exact hTexts ["data", "formatted"]
  · exact hTexts ["error", "code"]

/-! ## Rejections -/

/-- The texts of the rejection have no halves. -/
def Rejection.IsWhole : Rejection → Prop
  | .invalidRequest faults => ∀ f ∈ faults, ∀ name ∈ f.location, name.isWhole = true
  | .unknownUnit signature => signature.isWhole = true
  | .dimensionMismatch s t =>
    (s.signature.isWhole = true ∧ s.quantity.isWhole = true) ∧
      t.signature.isWhole = true ∧ t.quantity.isWhole = true
  | .overflow q => q.source.isWhole = true ∧ q.target.isWhole = true
  | .invalidPrecision _ => True

namespace Rejection

theorem status_ne (j : Rejection) : j.status ≠ 200 := by
  cases j with
  | invalidRequest faults => exact (by decide : (400 : Int) ≠ 200)
  | unknownUnit signature => exact (by decide : (400 : Int) ≠ 200)
  | dimensionMismatch s t => exact (by decide : (422 : Int) ≠ 200)
  | overflow q => exact (by decide : (422 : Int) ≠ 200)
  | invalidPrecision e => exact (by decide : (400 : Int) ≠ 200)

variable {j : Rejection} (hWhole : j.IsWhole)

include hWhole

theorem isWhole_message : j.message.isWhole = true := by
  have hLiteral := isWhole_ofString
  cases j with
  | invalidRequest faults => exact hLiteral _
  | unknownUnit signature =>
    apply Text.isWhole_append _ (hLiteral _)
    exact Text.isWhole_append (hLiteral _) hWhole
  | dimensionMismatch s t =>
    obtain ⟨⟨hSource, hFrom⟩, hTarget, hTo⟩ := hWhole
    repeat' apply Text.isWhole_append
    all_goals first | assumption | exact hLiteral _
  | overflow q =>
    obtain ⟨hSource, hTarget⟩ := hWhole
    repeat' apply Text.isWhole_append
    all_goals first | assumption | exact hLiteral _
  | invalidPrecision e => exact hLiteral _

theorem membersFit_details (depth : Nat) : Json.MembersFit (depth + 3) j.details := by
  have hLiteral := isWhole_ofString
  cases j with
  | invalidRequest faults =>
    refine ⟨hLiteral _, ?_, trivial⟩
    apply Json.itemsFit_iff.mpr
    intro item hItem
    obtain ⟨f, hf, rfl⟩ := List.mem_map.mp hItem
    have hNames : (["type", "loc", "msg"].map Text.ofString).Nodup := nodup_names (by decide)
    refine ⟨hNames, hLiteral _, hLiteral _, hLiteral _, ?_, hLiteral _, hLiteral _, trivial⟩
    apply Json.itemsFit_iff.mpr
    intro part hPart
    obtain ⟨name, hName, rfl⟩ := List.mem_map.mp hPart
    exact hWhole f hf name hName
  | _ => trivial

theorem fits_failure (depth : Nat) :
    (Json.object [("success", .bool false), ("error", .object j.report.describe)]).Fits
      (depth + 6) := by
  have hLiteral := isWhole_ofString
  have hNames : (["success", "error"].map Text.ofString).Nodup := nodup_names (by decide)
  have hErrorNames : (["code", "message", "details"].map Text.ofString).Nodup :=
    nodup_names (by decide)
  have hDetailNames : (j.details.map Prod.fst).Nodup := by
    cases j with
    | invalidRequest faults => exact List.nodup_singleton _
    | _ => exact List.nodup_nil
  refine ⟨hNames, hLiteral _, trivial, hLiteral _, ⟨hErrorNames, ?_⟩, trivial⟩
  exact ⟨hLiteral _, hLiteral _, hLiteral _, isWhole_message hWhole, hLiteral _,
    ⟨hDetailNames, membersFit_details hWhole depth⟩, trivial⟩

end Rejection

/-- What is read in the answer to a rejected conversion. -/
theorem Response.code?_failure {j : Rejection} (hWhole : j.IsWhole) :
    (failure j.report).code? = some (Text.ofString j.code) :=
  textAt?_json (j.fits_failure hWhole 0) j.report.status ["error", "code"]

end UnitConversion
