import UnitConversion.Proofs.Json.RoundTrip
import UnitConversion.Proofs.Web.Query
import UnitConversion.Web.Page

/-!
# Redirections that can be written

A request is redirected to a location on its own host. The path of the location is escaped, so that only
the host and the query can spoil it. On the host that requests without a host go to, a query of one line
is enough.

* `Location.exists_ascii`: locations on the local host have an ASCII form.
* `Response.exists_redirection`: the redirection of a request to the local host.
-/

namespace UnitConversion

/-! ## Parts of texts -/

theorem Text.isWhole_iff {t : Text} : t.isWhole = true ↔ ∀ p ∈ t, p.char?.isSome = true := by
  constructor
  · intro hWhole p hp
    obtain ⟨cs, rfl⟩ := Json.exists_ofChars hWhole
    obtain ⟨c, -, rfl⟩ := List.mem_map.mp hp
    rfl
  · intro hAll
    have hChars : ∃ cs, t = ofChars cs := by
      induction t with
      | nil => exact ⟨[], rfl⟩
      | cons p rest ih =>
        obtain ⟨hHead, hRest⟩ := List.forall_mem_cons.mp hAll
        obtain ⟨cs, rfl⟩ := ih hRest
        cases p with
        | char c => exact ⟨c :: cs, rfl⟩
        | half n => cases hHead
    obtain ⟨cs, rfl⟩ := hChars
    exact isWhole_ofChars cs

theorem Text.isWhole_of_subset {s t : Text} (hWhole : t.isWhole = true) (hParts : s ⊆ t) :
    s.isWhole = true :=
  isWhole_iff.mpr fun _ hp => isWhole_iff.mp hWhole _ (hParts hp)

namespace Location

/-- Both sides of a cut are parts of the text. -/
theorem cutFirst_subset (c : Char) (t : Text) :
    ((Text.cutFirst c t).getD (t, [])).1 ⊆ t ∧ ((Text.cutFirst c t).getD (t, [])).2 ⊆ t := by
  unfold Text.cutFirst
  split
  · exact ⟨List.Subset.refl t, List.nil_subset t⟩
  · rename_i p rest hDrop
    refine ⟨List.takeWhile_subset _, ?_⟩
    have hRest : rest ⊆ t.dropWhile (· != .char c) := by
      rw [hDrop]
      exact List.subset_cons_self p rest
    exact List.Subset.trans hRest (List.dropWhile_subset _)

theorem exists_encodePart (plain : String) {t : Text} (hWhole : t.isWhole = true) :
    ∃ written, encodePart plain t = .ok written := by
  obtain ⟨cs, rfl⟩ := Json.exists_ofChars hWhole
  rw [encodePart, Text.requireWhole, Text.chars?_ofChars]
  exact ⟨_, rfl⟩

/-- The host that requests without a host go to. -/
def localHost : Text := "localhost"

/-- Nothing is left out of a location that starts with a scheme and a host, unless it stands behind the
first slash. -/
theorem filter_local (cs : List Char) :
    ∃ ds, ((Text.ofChars ("http://localhost/".toList ++ cs)).dropWhile (·.code ≤ 0x20)).filter
      (fun p => !([0x9, 0xA, 0xD].contains p.code)) =
        Text.ofChars ("http://localhost/".toList ++ ds) := by
  refine ⟨cs.filter fun c => !([0x9, 0xA, 0xD].contains c.toNat), ?_⟩
  have hDrop : (Text.ofChars ("http://localhost/".toList ++ cs)).dropWhile (·.code ≤ 0x20) =
      Text.ofString "http://localhost/" ++ Text.ofChars cs := rfl
  have hPrefix : (Text.ofString "http://localhost/").filter
      (fun p => !([0x9, 0xA, 0xD].contains p.code)) = Text.ofString "http://localhost/" := rfl
  rw [hDrop, List.filter_append, hPrefix, Text.ofChars, List.filter_map, Text.ofChars, List.map_append]
  rfl

/-- The location on the local host with the given path, which may have a query and a fragment behind it. -/
def ofLocalPath (t : Text) : Location :=
  let cut := (Text.cutFirst '#' t).getD (t, [])
  let parts := (Text.cutFirst '?' cut.1).getD (cut.1, [])
  { scheme := "http", authority := localHost, path := parts.1, query := parts.2, fragment := cut.2 }

theorem isWhole_ofLocalPath {t : Text} (hWhole : t.isWhole = true) :
    (ofLocalPath t).path.isWhole = true ∧ (ofLocalPath t).query.isWhole = true ∧
      (ofLocalPath t).fragment.isWhole = true := by
  obtain ⟨hRest, hFragment⟩ := cutFirst_subset '#' t
  obtain ⟨hPath, hQuery⟩ := cutFirst_subset '?' ((Text.cutFirst '#' t).getD (t, [])).1
  refine ⟨?_, ?_, Text.isWhole_of_subset hWhole hFragment⟩
  · exact Text.isWhole_of_subset hWhole (List.Subset.trans hPath hRest)
  · exact Text.isWhole_of_subset hWhole (List.Subset.trans hQuery hRest)

theorem ofText_local (cs : List Char) :
    ∃ ds, ofText (Text.ofChars ("http://localhost/".toList ++ cs)) =
      .ok (ofLocalPath (Text.ofChars ('/' :: ds))) := by
  obtain ⟨ds, hKept⟩ := filter_local cs
  refine ⟨ds, ?_⟩
  rw [ofText, hKept]
  rfl

/-- Locations on the local host have an ASCII form. -/
theorem exists_ascii (cs : List Char) :
    ∃ written, ascii (Text.ofChars ("http://localhost/".toList ++ cs)) = .ok written := by
  obtain ⟨ds, hRead⟩ := ofText_local cs
  obtain ⟨hPath, hQuery, hFragment⟩ := isWhole_ofLocalPath (Text.isWhole_ofChars ('/' :: ds))
  have hHost : (ofLocalPath (Text.ofChars ('/' :: ds))).authority = localHost := rfl
  obtain ⟨path, hPath⟩ := exists_encodePart "%!$&'()*+,/:;=@" hPath
  obtain ⟨query, hQuery⟩ := exists_encodePart "%!$&'()*+,/:;=?@" hQuery
  obtain ⟨fragment, hFragment⟩ := exists_encodePart "%!#$&'()*+,/:;=?@" hFragment
  have hAuthority : asciiAuthority localHost = .ok localHost := rfl
  rw [ascii, hRead]
  simp only [bind, Except.bind, hPath, hQuery, hFragment, hHost, hAuthority]
  exact ⟨_, rfl⟩

theorem text_local (path query : Text) :
    text ⟨"http", localHost, .char '/' :: path, query, []⟩ =
      Text.ofString "http://localhost/" ++ path ++ marked '?' query :=
  List.append_nil _

end Location

/-! ## Redirections -/

namespace Response

theorem hasLineBreak_append (s t : Text) : hasLineBreak (s ++ t) = (hasLineBreak s || hasLineBreak t) := by
  simp only [hasLineBreak, List.contains_append]
  grind

theorem hasLineBreak_encode (path : List Char) :
    hasLineBreak (Text.ofChars (Percent.encode isPlainInPath path)) = false := by
  have hBreak {c : Char} (hPlain : isPlainInPath c = false) (hPercent : c ≠ '%')
      (hReserved : Percent.isUnreserved c = false) :
      (Text.ofChars (Percent.encode isPlainInPath path)).contains (.char c) = false := by
    rw [Bool.eq_false_iff, ne_eq, List.contains_iff_mem]
    intro hMem
    obtain ⟨d, hd, hEq⟩ := List.mem_map.mp hMem
    cases hEq
    rcases Percent.plain_or_of_mem_encode hd with h | h | h
    · rw [hPlain] at h
      cases h
    · rw [hReserved] at h
      cases h
    · exact hPercent h
  rw [hasLineBreak, hBreak (by decide) (by decide) (by decide), hBreak (by decide) (by decide) (by decide)]
  rfl

/-- The query behind its mark, if there is one. -/
def markedQuery (r : Request) : List Char := if r.query.isEmpty then [] else '?' :: r.query.toList

theorem marked_query (r : Request) :
    Location.marked '?' (Text.ofString r.query) = Text.ofChars (markedQuery r) := by
  unfold Location.marked markedQuery
  by_cases hEmpty : r.query = ""
  · simp [hEmpty, Text.ofString, Text.ofChars]
  · simp [hEmpty, Text.ofString, Text.ofChars]

section Local

variable {r : Request} (hScheme : r.scheme = "http") (hHost : r.authority = Location.localHost)

include hScheme hHost

theorem host_local : r.host = Location.localHost := by
  unfold Request.host
  rw [hScheme, hHost]
  rfl

theorem text_locationOf (path : List Char) :
    (locationOf r ('/' :: path)).text = Text.ofString "http://localhost/" ++
      (Text.ofChars (Percent.encode isPlainInPath path) ++ Text.ofChars (markedQuery r)) := by
  have hLocal : locationOf r ('/' :: path) = ⟨"http", Location.localHost,
      .char '/' :: Text.ofChars (Percent.encode isPlainInPath path), r.query, []⟩ := by
    unfold locationOf
    rw [hScheme, host_local hScheme hHost]
    rfl
  rw [hLocal, Location.text_local, marked_query, List.append_assoc]

/-- The redirection of a request to the local host can be written if its query is one line. -/
theorem exists_redirection (hLine : hasLineBreak r.query = false) (path : List Char) :
    ∃ response, redirection r ('/' :: path) = .ok response ∧ response.status = 308 := by
  have hText := text_locationOf hScheme hHost path
  have hQuery : hasLineBreak (Text.ofChars (markedQuery r)) = false := by
    rw [← marked_query]
    unfold Location.marked
    split
    · rfl
    · exact hLine
  have hBreak : hasLineBreak (locationOf r ('/' :: path)).text = false := by
    rw [hText, hasLineBreak_append, hasLineBreak_append, hasLineBreak_encode, hQuery]
    rfl
  obtain ⟨written, hWritten⟩ := Location.exists_ascii
    (Percent.encode isPlainInPath path ++ markedQuery r)
  rw [Json.ofChars_append, Json.ofChars_append] at hWritten
  change Location.ascii (Text.ofString "http://localhost/" ++ _) = _ at hWritten
  rw [← hText] at hWritten
  simp only [redirection, hBreak, hWritten, bind, Except.bind, Except.mapError]
  exact ⟨_, rfl, rfl⟩

end Local

end Response

end UnitConversion
