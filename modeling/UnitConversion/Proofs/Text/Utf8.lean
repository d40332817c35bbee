import UnitConversion.Text.Utf8

/-!
# UTF-8 round trips

The bytes of a character are read as that character, whatever comes behind them. So the pieces of an
encoded text are its characters, with or without surrogates let through.

* `scan_encodeCode`: the bytes of one code point.
* `scan_encode`: the bytes of a text.
* `codes?_encode`, `pieces_encode`: an encoded text has no stray bytes.
-/

namespace UnitConversion.Utf8

variable {surrogates : Bool} {n : Nat} {rest : List UInt8}

theorem toNat_ofNat_of_lt (hn : n < 256) : (UInt8.ofNat n).toNat = n :=
  UInt8.toNat_ofNat_of_lt' hn

/-! ## The bytes of a code point -/

theorem scan_ascii (hn : n < 0x80) :
    scan surrogates none (.ofNat n :: rest) = .code n :: scan surrogates none rest := by
  have hByte : (UInt8.ofNat n).toNat = n := toNat_ofNat_of_lt (by omega)
  rw [scan, start, hByte, if_pos hn]
  rfl

/-- A first byte that promises more bytes is kept until these are there. -/
theorem scan_lead {p : Pending} (hn : n < 256) (hLarge : 0x80 ≤ n)
    (hLead : lead? surrogates (.ofNat n) = some p) :
    scan surrogates none (.ofNat n :: rest) = scan surrogates (some p) rest := by
  have hByte : (UInt8.ofNat n).toNat = n := toNat_ofNat_of_lt hn
  rw [scan, start, hByte, if_neg (by omega), hLead]
  rfl

section Trail

variable {taken : List UInt8} {missing low high code k : Nat} (hk : k < 64) (hLow : low ≤ 0x80 + k)
  (hHigh : 0x80 + k ≤ high)

include hk hLow hHigh

/-- A byte within the bounds carries six more binary digits. -/
theorem advance_trail :
    advance surrogates ⟨taken, missing, low, high, code⟩ (.ofNat (0x80 + k)) =
      if missing = 1 then ([.code (code * 64 + k)], none)
      else ([], some ⟨taken ++ [.ofNat (0x80 + k)], missing - 1, 0x80, 0xBF, code * 64 + k⟩) := by
  have hByte : (UInt8.ofNat (0x80 + k)).toNat = 0x80 + k := toNat_ofNat_of_lt (by omega)
  have hDigits : (0x80 + k) % 64 = k := by omega
  rw [advance, hByte, if_pos ⟨hLow, hHigh⟩, hDigits]

theorem scan_last :
    scan surrogates (some ⟨taken, 1, low, high, code⟩) (.ofNat (0x80 + k) :: rest) =
      .code (code * 64 + k) :: scan surrogates none rest := by
  rw [scan, advance_trail hk hLow hHigh, if_pos rfl]
  rfl

theorem scan_inner :
    scan surrogates (some ⟨taken, missing + 2, low, high, code⟩) (.ofNat (0x80 + k) :: rest) =
      scan surrogates (some ⟨taken ++ [.ofNat (0x80 + k)], missing + 1, 0x80, 0xBF, code * 64 + k⟩)
        rest := by
  rw [scan, advance_trail hk hLow hHigh, if_neg (by omega)]
  rfl

end Trail

theorem scan_two (hLarge : 0x80 ≤ n) (hSmall : n < 0x800) :
    scan surrogates none (.ofNat (0xC0 + n / 64) :: .ofNat (0x80 + n % 64) :: rest) =
      .code n :: scan surrogates none rest := by
  have hByte : (UInt8.ofNat (0xC0 + n / 64)).toNat = 0xC0 + n / 64 := toNat_ofNat_of_lt (by omega)
  have hLead : lead? surrogates (.ofNat (0xC0 + n / 64)) =
      some ⟨[.ofNat (0xC0 + n / 64)], 1, 0x80, 0xBF, n / 64⟩ := by
    rw [lead?, hByte]
    dsimp only
    rw [if_neg (by omega), if_pos (by omega), Nat.add_sub_cancel_left]
  have hCode : n / 64 * 64 + n % 64 = n := by omega
  rw [scan_lead (by omega) (by omega) hLead, scan_last (by omega) (by omega) (by omega), hCode]

theorem scan_three (hLarge : 0x800 ≤ n) (hSmall : n < 0x10000) (hValid : n.isValidChar) :
    scan surrogates none (.ofNat (0xE0 + n / 4096) :: .ofNat (0x80 + n / 64 % 64) ::
      .ofNat (0x80 + n % 64) :: rest) = .code n :: scan surrogates none rest := by
  have hScalar : n < 0xD800 ∨ 0xDFFF < n := by
    rcases hValid with hLow | hHigh
    · exact Or.inl hLow
    · exact Or.inr hHigh.1
  have hByte : (UInt8.ofNat (0xE0 + n / 4096)).toNat = 0xE0 + n / 4096 :=
    toNat_ofNat_of_lt (by omega)
  -- The bounds on the second byte keep out what fits in fewer bytes, and surrogates.
  obtain ⟨low, high, hLead, hLow, hHigh⟩ : ∃ low high,
      lead? surrogates (.ofNat (0xE0 + n / 4096)) =
        some ⟨[.ofNat (0xE0 + n / 4096)], 2, low, high, n / 4096⟩ ∧
      low ≤ 0x80 + n / 64 % 64 ∧ 0x80 + n / 64 % 64 ≤ high := by
    rw [lead?, hByte]
    dsimp only
    rw [if_neg (by omega), if_neg (by omega), if_pos (by omega), Nat.add_sub_cancel_left]
    refine ⟨_, _, rfl, ?_, ?_⟩
    · split <;> omega
    · split
      · rename_i hSurrogates
        have hFirst : 0xE0 + n / 4096 = 0xED :=
          of_decide_eq_true (Bool.and_eq_true_iff.mp hSurrogates).1
        omega
      · omega
  have hCode : (n / 4096 * 64 + n / 64 % 64) * 64 + n % 64 = n := by omega
  rw [scan_lead (by omega) (by omega) hLead, scan_inner (by omega) hLow hHigh,
    scan_last (by omega) (by omega) (by omega), hCode]

theorem scan_four (hLarge : 0x10000 ≤ n) (hSmall : n < 0x110000) :
    scan surrogates none (.ofNat (0xF0 + n / 262144) :: .ofNat (0x80 + n / 4096 % 64) ::
      .ofNat (0x80 + n / 64 % 64) :: .ofNat (0x80 + n % 64) :: rest) =
      .code n :: scan surrogates none rest := by
  have hByte : (UInt8.ofNat (0xF0 + n / 262144)).toNat = 0xF0 + n / 262144 :=
    toNat_ofNat_of_lt (by omega)
  obtain ⟨low, high, hLead, hLow, hHigh⟩ : ∃ low high,
      lead? surrogates (.ofNat (0xF0 + n / 262144)) =
        some ⟨[.ofNat (0xF0 + n / 262144)], 3, low, high, n / 262144⟩ ∧
      low ≤ 0x80 + n / 4096 % 64 ∧ 0x80 + n / 4096 % 64 ≤ high := by
    rw [lead?, hByte]
    dsimp only
    rw [if_neg (by omega), if_neg (by omega), if_neg (by omega), if_pos (by omega),
      Nat.add_sub_cancel_left]
    refine ⟨_, _, rfl, ?_, ?_⟩
    · split <;> omega
    · split <;> omega
  have hCode : ((n / 262144 * 64 + n / 4096 % 64) * 64 + n / 64 % 64) * 64 + n % 64 = n := by omega
  rw [scan_lead (by omega) (by omega) hLead, scan_inner (by omega) hLow hHigh,
    scan_inner (by omega) (by omega) (by omega),
    scan_last (by omega) (by omega) (by omega), hCode]

/-- The bytes of a code point are read as that code point. -/
theorem scan_encodeCode (hValid : n.isValidChar) :
    scan surrogates none (encodeCode n ++ rest) = .code n :: scan surrogates none rest := by
  have hBound : n < 0x110000 := by
    rcases hValid with hLow | hHigh
    · omega
    · exact hHigh.2
  unfold encodeCode
  split
  · exact scan_ascii (by omega)
  · split
    · exact scan_two (by omega) (by omega)
    · split
      · exact scan_three (by omega) (by omega) hValid
      · exact scan_four (by omega) hBound

/-! ## The bytes of a text -/

theorem isValidChar_toNat (c : Char) : c.toNat.isValidChar := c.valid

theorem scan_encode (cs : List Char) :
    scan surrogates none (encode cs) = cs.map fun c => .code c.toNat := by
  induction cs with
  | nil => rfl
  | cons c cs ih =>
    have hBytes : encode (c :: cs) = encodeCode c.toNat ++ encode cs := rfl
    rw [hBytes, scan_encodeCode (isValidChar_toNat c), ih]
    rfl

theorem pieces_encode (cs : List Char) : pieces (encode cs) = cs.map fun c => .code c.toNat :=
  scan_encode cs

/-- An encoded text has no stray bytes. -/
theorem codes?_encode (surrogates : Bool) (cs : List Char) :
    codes? surrogates (encode cs) = some (cs.map Char.toNat) := by
  rw [codes?, scan_encode]
  induction cs with
  | nil => rfl
  | cons c cs ih =>
    simp only [List.map_cons, List.mapM_cons, ih]
    rfl

end UnitConversion.Utf8
