import UnitConversion.Proofs.Json.Bytes
import UnitConversion.Proofs.Json.Same
import UnitConversion.Proofs.Server.Envelope

/-!
# Envelopes round trip

What is answered in an envelope can be sent back: the body is a line of printable characters of ASCII, and the
reader that takes requests finds in it what was put into the envelope, with every text, integer and number as it
was. A platform has room for so many arrays and objects inside of each other; a reader with room for those of
the envelope is enough, and only one without it refuses the body. The order in which members were put in does
not show in the body.

* `Response.Carries`: the body of an answer is that of a value.
* `Response.carries_json`: bodies are those of the values that they were made of.
* `Response.envelopes_round_trip`: the envelopes of results and of errors.
-/

namespace UnitConversion

/-- The report can be written and read. -/
structure ErrorReport.IsPortable (e : ErrorReport) : Prop where
  code : e.code.isWhole = true
  message : e.message.isWhole = true
  details : (Json.object e.details).IsPortable

theorem ErrorReport.IsPortable.portable_describe {e : ErrorReport} (hPortable : e.IsPortable) :
    (Json.object e.describe).IsPortable :=
  ⟨nodup_names (by decide : ["code", "message", "details"].Nodup), isWhole_ofString _, hPortable.code,
    isWhole_ofString _, hPortable.message, isWhole_ofString _, hPortable.details, trivial⟩

namespace Response

/-- The body is a line of printable characters of ASCII. The reader of requests takes it for the value, up to
the order of members, wherever there is room for the arrays and objects inside of each other, and only there. -/
structure Carries (r : Response) (j : Json) : Prop where
  line : ∃ cs, r.body.toList = cs ++ ['\n'] ∧ Json.Printable cs
  read {depth : Nat} (hDepth : j.nesting ≤ depth) :
    ∃ k, Json.ofBytes { depth } (Utf8.encode r.body.toList) = .ok k ∧ j.Same k
  refused {depth : Nat} (hDeep : depth < j.nesting) :
    ∃ inArray, Json.ofBytes { depth } (Utf8.encode r.body.toList) = .error (.tooDeep inArray)

/-! ## Bodies -/

section Bodies

variable {j k : Json} (hPortable : j.IsPortable)

/-- The bytes of a body are read as its characters. -/
theorem ofBytes_json (d : Json.Dialect) (status : Int) (j : Json) :
    Json.ofBytes d (Utf8.encode (json status j).body.toList) =
      Json.ofText d (Text.ofChars j.sorted.chars ++ Text.ofChars ['\n']) := by
  rw [toList_body_json, Json.ofBytes_ascii, Json.ofChars_append]
  intro c hc
  rcases List.mem_append.mp hc with hText | hLineFeed
  · exact (Json.printable_chars _ c hText).isAscii
  · obtain rfl := List.mem_singleton.mp hLineFeed
    exact ⟨by decide, by decide⟩

include hPortable

theorem carries_json (status : Int) : (json status j).Carries j where
  line := ⟨_, toList_body_json status j, Json.printable_chars _⟩
  read {depth} hDepth := by
    have hFits := Json.fits_sorted j ((Json.fits_iff j).mpr ⟨hPortable, hDepth⟩)
    refine ⟨j.sorted, ?_, Json.same_sorted j hPortable⟩
    rw [ofBytes_json, Json.ofText_chars_append { depth } hFits isBlank_lineFeed]
  refused hDeep := by
    rw [← Json.nesting_sorted j] at hDeep
    rw [ofBytes_json]
    exact Json.ofText_tooDeep _ (Json.portable_sorted hPortable) hDeep _

/-- Values that are the same have one body. -/
theorem body_json_of_same (hOther : k.IsPortable) (hSame : j.Same k) (status other : Int) :
    (json status j).body = (json other k).body := by
  apply String.toList_injective
  rw [toList_body_json, toList_body_json, Json.sorted_eq_of_same j hPortable hOther hSame]

end Bodies

/-! ## Envelopes -/

theorem portable_success {data : Json} (hData : data.IsPortable) :
    (Json.object [("success", .bool true), ("data", data)]).IsPortable :=
  ⟨nodup_names (by decide : ["success", "data"].Nodup), isWhole_ofString _, trivial,
    isWhole_ofString _, hData, trivial⟩

theorem portable_failureOf {error : List (Text × Json)} (hError : (Json.object error).IsPortable) :
    (Json.object [("success", .bool false), ("error", .object error)]).IsPortable :=
  ⟨nodup_names (by decide : ["success", "error"].Nodup), isWhole_ofString _, trivial,
    isWhole_ofString _, hError, trivial⟩

theorem same_success {data other : Json} (hSame : data.Same other) :
    (Json.object [("success", .bool true), ("data", data)]).Same
      (.object [("success", .bool true), ("data", other)]) :=
  ⟨_, rfl, rfl, ⟨_, rfl, rfl⟩, ⟨other, rfl, hSame⟩, trivial⟩

theorem same_failureOf {error other : List (Text × Json)}
    (hSame : (Json.object error).Same (.object other)) :
    (Json.object [("success", .bool false), ("error", .object error)]).Same
      (.object [("success", .bool false), ("error", .object other)]) :=
  ⟨_, rfl, rfl, ⟨_, rfl, rfl⟩, ⟨_, rfl, hSame⟩, trivial⟩

theorem same_describe {e other : ErrorReport} (hCode : e.code = other.code)
    (hMessage : e.message = other.message)
    (hDetails : (Json.object e.details).Same (.object other.details)) :
    (Json.object e.describe).Same (.object other.describe) := by
  rw [ErrorReport.describe, hCode, hMessage]
  exact ⟨_, rfl, rfl, ⟨_, rfl, rfl⟩, ⟨_, rfl, rfl⟩, ⟨_, rfl, hDetails⟩, trivial⟩

/-- **Envelopes round trip.** Whatever portable value is put into the envelope of a result, and whatever
portable report or other members into that of an error, the body is a line in ASCII that a reader of
requests takes for the envelope with just that in it, however deep it is nested, as long as there is room for it.
It is the same for all values that are the same up to the order of members. -/
theorem envelopes_round_trip :
    (∀ data status, data.IsPortable →
      (success data status).Carries (.object [("success", .bool true), ("data", data)]) ∧
      ∀ other, other.IsPortable → data.Same other →
        (success data status).body = (success other status).body) ∧
    (∀ (e : ErrorReport) override, e.IsPortable →
      (failure e override).Carries
        (.object
          [("success", .bool false),
            ("error", .object
              [("code", .string e.code), ("message", .string e.message),
                ("details", .object e.details)])]) ∧
      ∀ other : ErrorReport, other.IsPortable → e.code = other.code → e.message = other.message →
        (Json.object e.details).Same (.object other.details) →
        (failure e override).body = (failure other override).body) ∧
    ∀ error override, (Json.object error).IsPortable →
      (failureWith error override).Carries
        (.object [("success", .bool false), ("error", .object error)]) ∧
      ∀ other, (Json.object other).IsPortable → (Json.object error).Same (.object other) →
        (failureWith error override).body = (failureWith other override).body := by
  refine ⟨fun data status hData => ⟨carries_json (portable_success hData) status, ?_⟩,
    fun e override hError => ⟨carries_json (portable_failureOf hError.portable_describe) _, ?_⟩,
    fun error override hError => ⟨carries_json (portable_failureOf hError) _, ?_⟩⟩
  · intro other hOther hSame
    exact body_json_of_same (portable_success hData) (portable_success hOther) (same_success hSame)
      _ _
  · intro other hOther hCode hMessage hDetails
    have hSame := same_failureOf (same_describe hCode hMessage hDetails)
    exact body_json_of_same (portable_failureOf hError.portable_describe)
      (portable_failureOf hOther.portable_describe) hSame _ _
  · intro other hOther hSame
    exact body_json_of_same (portable_failureOf hError) (portable_failureOf hOther)
      (same_failureOf hSame) _ _

end Response

namespace Standard

/-- Members that are not in the order of their names. -/
def unorderedMembers : List (Text × Json) :=
  [("weights", .array [.int (-1), .float (.zero true)]), ("note", .string "½ lb\n")]

/-- The same members the other way round. -/
def reversedMembers : List (Text × Json) :=
  [("note", .string "½ lb\n"), ("weights", .array [.int (-1), .float (.zero true)])]

theorem portable_unorderedMembers :
    (Json.object unorderedMembers).IsPortable ∧ (Json.object reversedMembers).IsPortable ∧
      (Json.object unorderedMembers).Same (.object reversedMembers) := by
  have hWeights : (Json.array [.int (-1), .float (.zero true)]).IsPortable :=
    ⟨Nat.one_lt_pow (by decide) (by decide), rfl, trivial⟩
  have hSame : (Json.array [.int (-1), .float (.zero true)]).Same
      (.array [.int (-1), .float (.zero true)]) := ⟨_, rfl, _, _, rfl, rfl, _, _, rfl, rfl, rfl⟩
  refine ⟨⟨by decide, rfl, hWeights, rfl, rfl, trivial⟩, ?_, ?_⟩
  · exact ⟨by decide, rfl, rfl, rfl, hWeights, trivial⟩
  · exact ⟨_, rfl, rfl, ⟨_, rfl, hSame⟩, ⟨_, rfl, rfl⟩, trivial⟩

/-- A result, a report with details, and an error without a code are read again, and their members may
come in another order. -/
theorem envelopes_round_trip_unorderedMembers :
    (Response.success (.object unorderedMembers)).Carries
        (.object [("success", .bool true), ("data", .object unorderedMembers)]) ∧
      (Response.success (.object unorderedMembers)).body =
        (Response.success (.object reversedMembers)).body ∧
      (Response.failure
          { kind := .validation, message := "Too heavy.", details := unorderedMembers }).body =
        (Response.failure
          { kind := .validation, message := "Too heavy.", details := reversedMembers }).body ∧
      (Response.failureWith unorderedMembers (some 422)).body =
        (Response.failureWith reversedMembers (some 422)).body := by
  obtain ⟨hResults, hReports, hErrors⟩ := Response.envelopes_round_trip
  obtain ⟨hPortable, hReversed, hSame⟩ := portable_unorderedMembers
  obtain ⟨hCarries, hOrder⟩ := hResults (.object unorderedMembers) 200 hPortable
  refine ⟨hCarries, hOrder _ hReversed hSame, ?_, ?_⟩
  · exact (hReports _ none ⟨rfl, rfl, hPortable⟩).2 _ ⟨rfl, rfl, hReversed⟩ rfl rfl hSame
  · exact (hErrors unorderedMembers (some 422) hPortable).2 _ hReversed hSame

end Standard

end UnitConversion
