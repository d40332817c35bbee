import Mathlib.Data.List.Dedup
import Mathlib.Data.List.Induction
import UnitConversion.Proofs.Text.Utf8
import UnitConversion.Web.Query

/-!
# Query strings round trips

A query is read back as the fields that it was written for: no escaped name or value has a character that
separates fields, and the bytes of the escapes are those of the text.

* `Percent.decode_encode`: an escaped text is read as the text.
* `Text.fields_join`: parts without a separator are found again.
* `Query.IsReader`, `Query.isReader_ofText`: what is relied on of a reader of queries, and that this is one.
* `Query.IsReader.eq_ofText`: there is no other.
* `Query.IsReader.read_text`: a query with given fields has these fields.
-/

namespace UnitConversion

/-! ## Escapes -/

namespace Percent

/-- The two digits of an escape are read as its byte. -/
theorem bytes_escape (b : UInt8) (rest : List Char) : bytes (escape b ++ rest) = b :: bytes rest := by
  have hByte : b.toNat < 256 := b.toNat_lt
  have hHigh := Text.hexValue?_upperHex (n := b.toNat / 16) (by omega)
  have hLow := Text.hexValue?_upperHex (n := b.toNat % 16) (by omega)
  have hValue : UInt8.ofNat (b.toNat / 16 * 16 + b.toNat % 16) = b := by
    rw [Nat.div_add_mod']
    exact UInt8.ofNat_toNat
  simp [escape, bytes, hHigh, hLow, hValue]

theorem bytes_flatMap_escape (bs : List UInt8) (rest : List Char) :
    bytes (bs.flatMap escape ++ rest) = bs ++ bytes rest := by
  induction bs with
  | nil => rfl
  | cons b bs ih => rw [List.flatMap_cons, List.append_assoc, bytes_escape, ih, List.cons_append]

theorem bytes_cons {c : Char} (hc : c ≠ '%') (rest : List Char) :
    bytes (c :: rest) = Utf8.encodeCode c.toNat ++ bytes rest := by
  rw [bytes]
  rintro a b rest' rfl
  exact absurd rfl hc

/-- The bytes of an escaped text are those of the text. -/
theorem bytes_encode {plain : Char → Bool} (hPlain : plain '%' = false) (cs : List Char) :
    bytes (encode plain cs) = Utf8.encode cs := by
  induction cs with
  | nil => rfl
  | cons c cs ih =>
    have hEncode : encode plain (c :: cs) =
        (if plain c then [c] else (Utf8.encodeCode c.toNat).flatMap escape) ++ encode plain cs := rfl
    have hBytes : Utf8.encode (c :: cs) = Utf8.encodeCode c.toNat ++ Utf8.encode cs := rfl
    rw [hEncode, hBytes]
    split
    · rename_i hc
      have hPercent : c ≠ '%' := by
        rintro rfl
        rw [hPlain] at hc
        cases hc
      rw [List.singleton_append, bytes_cons hPercent, ih]
    · rw [bytes_flatMap_escape, ih]

/-- An escaped text is read as the text. -/
theorem decode_encode {plain : Char → Bool} (hPlain : plain '%' = false) (cs : List Char) :
    decode (encode plain cs) = cs := by
  rw [decode, bytes_encode hPlain, Utf8.pieces_encode, List.flatMap_map]
  simp [Char.ofNat_toNat]

theorem isUnreserved_upperHex {n : Nat} (hn : n < 16) : isUnreserved (Text.upperHex n) = true := by
  have hAll : ∀ k : Fin 16, isUnreserved (Text.upperHex k) = true := by decide
  exact hAll ⟨n, hn⟩

/-- An escaped text consists of plain and unreserved characters and percent signs. -/
theorem plain_or_of_mem_encode {plain : Char → Bool} {cs : List Char} {c : Char}
    (hc : c ∈ encode plain cs) : plain c = true ∨ isUnreserved c = true ∨ c = '%' := by
  obtain ⟨d, -, hd⟩ := List.mem_flatMap.mp hc
  split at hd
  · rename_i hPlain
    obtain rfl := List.mem_singleton.mp hd
    exact Or.inl hPlain
  · obtain ⟨b, -, hb⟩ := List.mem_flatMap.mp hd
    have hByte : b.toNat < 256 := b.toNat_lt
    rcases List.mem_cons.mp hb with rfl | hb
    · exact Or.inr (Or.inr rfl)
    · rcases List.mem_cons.mp hb with rfl | hb
      · exact Or.inr (Or.inl (isUnreserved_upperHex (by omega)))
      · obtain rfl := List.mem_singleton.mp hb
        exact Or.inr (Or.inl (isUnreserved_upperHex (by omega)))

end Percent

/-! ## Separators -/

namespace Text

theorem fields_of_not_mem {separator : Char} {part : List Char} (hPart : separator ∉ part) :
    fields separator part = [part] := by
  induction part with
  | nil => rfl
  | cons c rest ih =>
    have hc : c ≠ separator := fun hEq => hPart (hEq ▸ List.mem_cons_self)
    have hRest : separator ∉ rest := fun hMem => hPart (List.mem_cons_of_mem c hMem)
    simp [fields, hc, ih hRest]

theorem fields_append {separator : Char} {part : List Char} (hPart : separator ∉ part)
    (rest : List Char) :
    fields separator (part ++ separator :: rest) = part :: fields separator rest := by
  induction part with
  | nil => simp [fields]
  | cons c part ih =>
    have hc : c ≠ separator := fun hEq => hPart (hEq ▸ List.mem_cons_self)
    have hRest : separator ∉ part := fun hMem => hPart (List.mem_cons_of_mem c hMem)
    simp [fields, hc, ih hRest]

/-- Parts without a separator are found again. -/
theorem fields_join {separator : Char} {parts : List (List Char)} (hNonempty : parts ≠ [])
    (hParts : ∀ part ∈ parts, separator ∉ part) : fields separator (join separator parts) = parts := by
  induction parts with
  | nil => exact absurd rfl hNonempty
  | cons part rest ih =>
    have hPart := hParts part List.mem_cons_self
    cases rest with
    | nil => exact fields_of_not_mem hPart
    | cons next others =>
      have hRest := ih (by simp) fun p hp => hParts p (List.mem_cons_of_mem part hp)
      rw [join_cons_of_ne_nil separator part (by simp), fields_append hPart, hRest]

end Text

/-! ## Queries -/

/-- Of entries that are put one after the other, each key stands where it comes first. -/
theorem Association.keys_foldl_put {κ ν : Type} [DecidableEq κ] (entries : List (κ × ν)) :
    ((entries.foldl (fun es entry => put es entry.1 entry.2) []).map Prod.fst).reverse =
      (entries.map Prod.fst).reverse.dedup := by
  -- The induction is from the end: the last entry is put into what comes of the others.
  induction entries using List.reverseRecOn with
  | nil => rfl
  | append_singleton before entry ih =>
    rw [List.foldl_append, List.foldl_cons, List.foldl_nil, List.map_append, List.reverse_append]
    generalize before.foldl (fun es entry => put es entry.1 entry.2) [] = built at ih ⊢
    have hKeys : entry.1 ∈ built.map Prod.fst ↔ entry.1 ∈ (before.map Prod.fst).reverse := by
      rw [← List.mem_reverse, ih, List.mem_dedup]
    by_cases hMem : entry.1 ∈ built.map Prod.fst
    · rw [keys_put_of_mem entry.2 hMem, ih]
      exact (List.dedup_cons_of_mem (hKeys.mp hMem)).symm
    · rw [put_of_not_mem entry.2 hMem, List.map_append, List.reverse_append, ih]
      exact (List.dedup_cons_of_notMem fun hThere => hMem (hKeys.mpr hThere)).symm

namespace Query

theorem not_mem_encodePart {s : String} {c : Char} (hReserved : Percent.isUnreserved c = false)
    (hPercent : c ≠ '%') : c ∉ encodePart s := by
  intro hc
  have hUnreserved : ¬ Percent.isUnreserved c = true := by simp [hReserved]
  rcases Percent.plain_or_of_mem_encode hc with hPlain | hPlain | hEq
  · exact hUnreserved hPlain
  · exact hUnreserved hPlain
  · exact hPercent hEq

theorem decodePart_encodePart (s : String) : decodePart (encodePart s) = s := by
  have hPlus : (encodePart s).map (fun c => if c = '+' then ' ' else c) = encodePart s := by
    refine (List.map_congr_left fun c hc => if_neg ?_).trans (List.map_id' _)
    rintro rfl
    exact not_mem_encodePart (by decide) (by decide) hc
  rw [decodePart, hPlus, encodePart, Percent.decode_encode (by decide), String.ofList_toList]

theorem decodeField_encodeField (field : String × String) :
    decodeField (encodeField field) = field := by
  have hName : ∀ c ∈ encodePart field.1, (c != '=') = true := by
    intro c hc
    rw [bne_iff_ne]
    rintro rfl
    exact not_mem_encodePart (by decide) (by decide) hc
  have hTake : (encodeField field).takeWhile (· != '=') = encodePart field.1 := by
    rw [encodeField, List.takeWhile_append_of_pos hName]
    simp
  have hDrop : (encodeField field).dropWhile (· != '=') = '=' :: encodePart field.2 := by
    rw [encodeField, List.dropWhile_append_of_pos hName]
    simp
  rw [decodeField, hTake, hDrop, List.tail_cons, decodePart_encodePart, decodePart_encodePart]

theorem not_mem_encodeField (field : String × String) : '&' ∉ encodeField field := by
  intro hMem
  rcases List.mem_append.mp hMem with hName | hValue
  · exact not_mem_encodePart (by decide) (by decide) hName
  · rcases List.mem_cons.mp hValue with hEq | hValue
    · exact absurd hEq (by decide)
    · exact not_mem_encodePart (by decide) (by decide) hValue

theorem allFields_text (fields : List (String × String)) : allFields (text fields) = fields := by
  rw [allFields, text, String.toList_ofList]
  cases fields with
  | nil => rfl
  | cons field rest =>
    have hParts : ∀ part ∈ (field :: rest).map encodeField, '&' ∉ part := by
      intro part hPart
      obtain ⟨f, -, rfl⟩ := List.mem_map.mp hPart
      exact not_mem_encodeField f
    have hKept : ((field :: rest).map encodeField).filter (!·.isEmpty) =
        (field :: rest).map encodeField := by
      refine List.filter_eq_self.mpr fun part hPart => ?_
      obtain ⟨f, -, rfl⟩ := List.mem_map.mp hPart
      simp [encodeField]
    rw [Text.fields_join (by simp) hParts, hKept, List.map_map]
    have hId : decodeField ∘ encodeField = id := funext decodeField_encodeField
    rw [hId, List.map_id]

/-- The value of the last field with a name. -/
def last? (query name : String) : Option String := (allFields query).reverse.lookup name

/-- What is relied on of a reader of queries. No name is read twice: each stands where it comes first, and has
the value that comes last. -/
structure IsReader (read : String → List (String × String)) : Prop where
  names (query : String) :
    ((read query).map Prod.fst).reverse = ((allFields query).map Prod.fst).reverse.dedup
  last (query name : String) : (read query).lookup name = last? query name

theorem isReader_ofText : IsReader ofText where
  names query := Association.keys_foldl_put (allFields query)
  last query name := by
    have hFields := Association.lookup_foldl_put [] (allFields query) name
    rwa [List.lookup_nil, Option.or_none] at hFields

namespace IsReader

variable {read : String → List (String × String)} (h : IsReader read)

include h

theorem nodup (query : String) : ((read query).map Prod.fst).Nodup := by
  rw [← List.nodup_reverse, h.names]
  exact List.nodup_dedup _

/-- There is one reader only. -/
theorem eq_ofText : read = ofText := by
  funext query
  refine Association.eq_of_lookup (isReader_ofText.nodup query) ?_ fun name => ?_
  · rw [← List.reverse_inj, h.names, isReader_ofText.names]
  · rw [h.last, isReader_ofText.last]

/-- A query that is written with distinct names has the fields that it was written for. -/
theorem read_text {fields : List (String × String)} (hDistinct : (fields.map Prod.fst).Nodup) :
    read (text fields) = fields := by
  refine Association.eq_of_lookup hDistinct ?_ fun name => ?_
  · rw [← List.reverse_inj, h.names, allFields_text]
    exact (List.nodup_reverse.mpr hDistinct).dedup
  · rw [h.last, last?, allFields_text]
    exact Association.lookup_perm fields.reverse_perm hDistinct name

end IsReader

end Query

end UnitConversion
