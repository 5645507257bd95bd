import PriceRelay.Bytes.Utf8
/-!
Text that was written as UTF-8, read again character by character.
-/

namespace PriceRelay.Utf8

theorem encode_eq (text : String) : encode text = text.toList.flatMap String.utf8EncodeChar := by
  rw [encode, String.toUTF8_eq_toByteArray, ← String.utf8Encode_toList, List.utf8Encode,
    List.data_toByteArray]

section Reading

variable {value owed first bits six low high : Nat} {rest : Bytes}

/-- A byte announces how many bytes follow, allows the first of them, and contributes some bits. -/
def Leads (byte owed first bits : Nat) : Prop :=
  ∃ low high, lead? byte = some ⟨owed, low, high, bits⟩ ∧ low ≤ first ∧ first ≤ high

theorem leads_two (least : 0x80 ≤ value) (most : value < 0x800) :
    Leads (value / 64 % 32 + 192) 1 (value % 64 + 128) (value / 64) := by
  have top : value / 64 % 32 = value / 64 := by omega
  refine ⟨0x80, 0xbf, ?_, by omega, by omega⟩
  rw [top, lead?, if_neg (by omega), if_neg (by omega), if_pos (by omega), Nat.add_sub_cancel]

/-- The lowest lead byte allows no overlong form. Surrogates are not characters: behind the lead byte
that they share only the other half of the next byte is allowed. -/
theorem leads_three (least : 0x800 ≤ value) (most : value < 0x10000) (valid : value.isValidChar) :
    Leads (value / 4096 % 16 + 224) 2 (value / 64 % 64 + 128) (value / 4096) := by
  have top : value / 4096 % 16 = value / 4096 := by omega
  rw [top]
  by_cases lowest : value / 4096 = 0
  · exact ⟨0xa0, 0xbf, by rw [lowest]; rfl, by omega, by omega⟩
  by_cases surrogates : value / 4096 = 13
  · have below : value < 0xd800 := by
      rcases valid with below | ⟨above, _⟩ <;> omega
    exact ⟨0x80, 0x9f, by rw [surrogates]; rfl, by omega, by omega⟩
  refine ⟨0x80, 0xbf, ?_, by omega, by omega⟩
  rw [lead?, if_neg (by omega), if_neg (by omega), if_neg (by omega), if_neg (by omega),
    if_neg (by omega), if_pos (by omega), Nat.add_sub_cancel]

theorem leads_four (least : 0x10000 ≤ value) (valid : value.isValidChar) :
    Leads (value / 262144 % 8 + 240) 3 (value / 4096 % 64 + 128) (value / 262144) := by
  have most : value < 0x110000 := by
    rcases valid with below | ⟨_, most⟩ <;> omega
  have top : value / 262144 % 8 = value / 262144 := by omega
  rw [top]
  by_cases lowest : value / 262144 = 0
  · exact ⟨0x90, 0xbf, by rw [lowest]; rfl, by omega, by omega⟩
  by_cases highest : value / 262144 = 4
  · exact ⟨0x80, 0x8f, by rw [highest]; rfl, by omega, by omega⟩
  refine ⟨0x80, 0xbf, ?_, by omega, by omega⟩
  rw [lead?, if_neg (by omega), if_neg (by omega), if_neg (by omega), if_neg (by omega),
    if_neg (by omega), if_neg (by omega), if_neg (by omega), if_pos (by omega), Nat.add_sub_cancel]

theorem toNat_ofNat_of_lt (fits : value < 256) : (UInt8.ofNat value).toNat = value := by
  rw [UInt8.toNat_ofNat']
  exact Nat.mod_eq_of_lt fits

/-- A continuation byte contributes six bits. The last one ends the character. -/
theorem step_inside (fits : six < 64) (above : low ≤ six + 128) (below : six + 128 ≤ high) :
    step (.inside owed low high bits) (UInt8.ofNat (six + 128)).toNat =
      if owed ≤ 1 then ([Char.ofNat (bits * 64 + six)], .start)
      else ([], .inside (owed - 1) 0x80 0xbf (bits * 64 + six)) := by
  rw [toNat_ofNat_of_lt (by omega), step, if_pos (by simp [above, below]), Nat.add_sub_cancel]

theorem decodeFrom_last (fits : six < 64) (above : low ≤ six + 128) (below : six + 128 ≤ high) :
    decodeFrom (.inside 1 low high bits) (UInt8.ofNat (six + 128) :: rest) =
      Char.ofNat (bits * 64 + six) :: decodeFrom .start rest := by
  rw [decodeFrom, step_inside fits above below]
  rfl

theorem decodeFrom_more (fits : six < 64) (above : low ≤ six + 128) (below : six + 128 ≤ high) :
    decodeFrom (.inside (owed + 2) low high bits) (UInt8.ofNat (six + 128) :: rest) =
      decodeFrom (.inside (owed + 1) 0x80 0xbf (bits * 64 + six)) rest := by
  rw [decodeFrom, step_inside fits above below, if_neg (by omega)]
  rfl

theorem decodeFrom_lead (fits : value < 256) (leads : Leads value (owed + 1) first bits) :
    ∃ low high, low ≤ first ∧ first ≤ high ∧
      decodeFrom .start (UInt8.ofNat value :: rest) =
        decodeFrom (.inside (owed + 1) low high bits) rest := by
  obtain ⟨low, high, lead, above, below⟩ := leads
  refine ⟨low, high, above, below, ?_⟩
  rw [decodeFrom, toNat_ofNat_of_lt fits, step, begin, lead]
  simp

theorem decodeFrom_one (ascii : value < 0x80) :
    decodeFrom .start (UInt8.ofNat value :: rest) = Char.ofNat value :: decodeFrom .start rest := by
  rw [decodeFrom, toNat_ofNat_of_lt (by omega), step, begin, lead?, if_pos ascii]
  rfl

theorem decodeFrom_two (least : 0x80 ≤ value) (most : value < 0x800) :
    decodeFrom .start (UInt8.ofNat (value / 64 % 32 + 192) :: UInt8.ofNat (value % 64 + 128) ::
      rest) = Char.ofNat value :: decodeFrom .start rest := by
  obtain ⟨low, high, above, below, lead⟩ := decodeFrom_lead (by omega) (leads_two least most)
  rw [lead, decodeFrom_last (by omega) above below, Nat.div_add_mod']

theorem decodeFrom_three (least : 0x800 ≤ value) (most : value < 0x10000)
    (valid : value.isValidChar) :
    decodeFrom .start (UInt8.ofNat (value / 4096 % 16 + 224) ::
      UInt8.ofNat (value / 64 % 64 + 128) :: UInt8.ofNat (value % 64 + 128) :: rest) =
        Char.ofNat value :: decodeFrom .start rest := by
  obtain ⟨low, high, above, below, lead⟩ :=
    decodeFrom_lead (by omega) (leads_three least most valid)
  rw [lead, decodeFrom_more (by omega) above below,
    decodeFrom_last (by omega) (by omega) (by omega)]
  congr 2
  omega

theorem decodeFrom_four (least : 0x10000 ≤ value) (valid : value.isValidChar) :
    decodeFrom .start (UInt8.ofNat (value / 262144 % 8 + 240) ::
      UInt8.ofNat (value / 4096 % 64 + 128) :: UInt8.ofNat (value / 64 % 64 + 128) ::
      UInt8.ofNat (value % 64 + 128) :: rest) = Char.ofNat value :: decodeFrom .start rest := by
  obtain ⟨low, high, above, below, lead⟩ := decodeFrom_lead (by omega) (leads_four least valid)
  rw [lead, decodeFrom_more (by omega) above below,
    decodeFrom_more (by omega) (by omega) (by omega),
    decodeFrom_last (by omega) (by omega) (by omega)]
  congr 2
  omega

theorem decodeFrom_char (char : Char) :
    decodeFrom .start (String.utf8EncodeChar char ++ rest) = char :: decodeFrom .start rest := by
  have valid : char.val.toNat.isValidChar := char.valid
  suffices reads : decodeFrom .start (String.utf8EncodeChar char ++ rest) =
      Char.ofNat char.val.toNat :: decodeFrom .start rest by
    rw [reads]
    exact congrArg (· :: _) (Char.ofNat_toNat char)
  rw [String.utf8EncodeChar]
  generalize char.val.toNat = value at valid
  split
  case isTrue ascii => exact decodeFrom_one (by omega)
  split
  case isTrue => exact decodeFrom_two (by omega) (by omega)
  split
  case isTrue => exact decodeFrom_three (by omega) (by omega) valid
  case isFalse => exact decodeFrom_four (by omega) valid

end Reading

theorem decodeFrom_chars (chars : List Char) :
    decodeFrom .start (chars.flatMap String.utf8EncodeChar) = chars := by
  induction chars with
  | nil => rfl
  | cons char chars ih => rw [List.flatMap_cons, decodeFrom_char, ih]

theorem decodeLossy_encode (text : String) : decodeLossy (encode text) = text := by
  rw [decodeLossy, encode_eq, decodeFrom_chars, String.ofList_toList]

/-! Zero bytes are written for NULs, and for nothing else. -/

def nul : Char := Char.ofNat 0

theorem utf8EncodeChar_nul : String.utf8EncodeChar nul = [0] := by decide

theorem ofNat_ne_zero {value : Nat} (positive : 0 < value) (fits : value < 256) :
    UInt8.ofNat value ≠ 0 := by
  intro zero
  have same := congrArg UInt8.toNat zero
  rw [toNat_ofNat_of_lt fits] at same
  exact Nat.ne_of_gt positive same

theorem ne_zero_of_mem_utf8EncodeChar {char : Char} (notNul : char ≠ nul) {byte : UInt8}
    (member : byte ∈ String.utf8EncodeChar char) : byte ≠ 0 := by
  have positive : char.val.toNat ≠ 0 := by
    intro zero
    apply notNul
    rw [nul, ← zero]
    exact (Char.ofNat_toNat char).symm
  rw [String.utf8EncodeChar] at member
  generalize char.val.toNat = value at positive member
  split at member
  case isTrue =>
    rw [List.mem_singleton.mp member]
    exact ofNat_ne_zero (by omega) (by omega)
  -- Only the byte of an ASCII character can be small: the others all have their top bit set.
  split at member
  case isTrue =>
    simp only [List.mem_cons, List.not_mem_nil, or_false] at member
    rcases member with rfl | rfl <;> exact ofNat_ne_zero (by omega) (by omega)
  split at member
  case isTrue =>
    simp only [List.mem_cons, List.not_mem_nil, or_false] at member
    rcases member with rfl | rfl | rfl <;> exact ofNat_ne_zero (by omega) (by omega)
  case isFalse =>
    simp only [List.mem_cons, List.not_mem_nil, or_false] at member
    rcases member with rfl | rfl | rfl | rfl <;> exact ofNat_ne_zero (by omega) (by omega)

end PriceRelay.Utf8
