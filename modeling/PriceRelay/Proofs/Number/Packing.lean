import PriceRelay.Proofs.Number.Rounding
/-!
Numbers in their 64 bits. Taken apart, a number is what its bits say, and a number of 53 bits is
found again unless it is too large.
-/

namespace PriceRelay.Binary

open Float.Model Float.Model.UnpackedFloat

def maxExponent : Int := 971

/-- The sign of a number that is negative or not. -/
def signOf (negative : Bool) : Sign := if negative then .negative else .positive

theorem exponentField_toNat (bits : BitVec 64) :
    (@unpackExponent .binary64 bits).toNat = bits.toNat / 2 ^ 52 % 2 ^ 11 := by
  simp [unpackExponent, BitVec.extractLsb, Nat.shiftRight_eq_div_pow]

theorem mantissaField_toNat (bits : BitVec 64) :
    (@unpackMantissa .binary64 bits).toNat = bits.toNat % 2 ^ 52 := by
  simp [unpackMantissa, BitVec.extractLsb]

theorem signField (bits : BitVec 64) :
    Sign.ofBitVec (@unpackSign .binary64 bits) = signOf (decide (2 ^ 63 ≤ bits.toNat)) := by
  have field : (@unpackSign .binary64 bits).toNat = bits.toNat / 2 ^ 63 % 2 := by
    simp [unpackSign, BitVec.extractLsb, Nat.shiftRight_eq_div_pow]
  have small := bits.isLt
  by_cases high : 2 ^ 63 ≤ bits.toNat
  · have one : @unpackSign .binary64 bits = 1#1 := by
      apply BitVec.eq_of_toNat_eq
      rw [field, BitVec.toNat_ofNat]
      omega
    rw [one, decide_eq_true high]
    rfl
  · have zero : @unpackSign .binary64 bits = 0#1 := by
      apply BitVec.eq_of_toNat_eq
      rw [field, BitVec.toNat_ofNat]
      omega
    rw [zero, decide_eq_false high]
    rfl

theorem toNat_implicit (fraction : BitVec 52) :
    (1#1 ++ fraction).toNat = fraction.toNat + leadingBit := by
  rw [BitVec.toNat_append, ← Nat.shiftLeft_add_eq_or_of_lt fraction.isLt, Nat.add_comm]
  rfl

/-- A number taken apart. -/
def Views : Binary → UnpackedFloat → Prop
  | .nan, unpacked => unpacked = .notANumber
  | .infinite negative, unpacked => unpacked = .infinity (signOf negative)
  | .finite negative mantissa exponent, unpacked =>
    Canonical mantissa exponent ∧ exponent ≤ maxExponent ∧
      unpacked = number (signOf negative) mantissa exponent

/-- The exact view of a number is that of the core language. -/
theorem ofFloat_views (number : Float) : Views (ofFloat number) number.toModel.unpack := by
  let bits : BitVec 64 := number.toModel.toBits.toBitVec
  let negative := decide (2 ^ 63 ≤ bits.toNat)
  let exponent := @unpackExponent .binary64 bits
  let fraction := @unpackMantissa .binary64 bits
  have exponentIs : bits.toNat / 2 ^ 52 % 2 ^ 11 = exponent.toNat := (exponentField_toNat bits).symm
  have fractionIs : bits.toNat % 2 ^ 52 = fraction.toNat := (mantissaField_toNat bits).symm
  have opened : number.toModel.unpack = UnpackedFloat.unpack .binary64 bits := rfl
  have word : ofFloat number = ofBits ⟨bits⟩ := rfl
  rw [opened, word]
  unfold UnpackedFloat.unpack ofBits
  dsimp only
  rw [signField bits]
  change Views
    (if bits.toNat / 2 ^ 52 % 2 ^ 11 = 2047 then
      if bits.toNat % 2 ^ 52 = 0 then .infinite negative else .nan
    else if bits.toNat / 2 ^ 52 % 2 ^ 11 = 0 then
      .finite negative (bits.toNat % 2 ^ 52) minExponent
    else .finite negative (bits.toNat % 2 ^ 52 + leadingBit)
      ((bits.toNat / 2 ^ 52 % 2 ^ 11 : Nat) - 1075))
    (if exponent = -1#11 then
      if fraction = 0#52 then .infinity (signOf negative) else .notANumber
    else if exponent = 0#11 then
      if h : fraction = 0#52 then .zero (signOf negative)
      else .finite (signOf negative) fraction.toNat ((exponent.toNat : Int) - 1075 + 1) _
    else .finite (signOf negative) (1#1 ++ fraction).toNat ((exponent.toNat : Int) - 1075) _)
  rw [exponentIs, fractionIs]
  have small : fraction.toNat < 2 ^ 52 := fraction.isLt
  have below : exponent.toNat < 2 ^ 11 := exponent.isLt
  have full : exponent = -1#11 ↔ exponent.toNat = 2047 := by
    rw [← BitVec.toNat_inj]
    rfl
  have least : exponent = 0#11 ↔ exponent.toNat = 0 := by
    rw [← BitVec.toNat_inj]
    rfl
  have none : fraction = 0#52 ↔ fraction.toNat = 0 := by
    rw [← BitVec.toNat_inj]
    rfl
  by_cases infinite : exponent.toNat = 2047
  · rw [if_pos infinite, if_pos (full.mpr infinite)]
    by_cases zero : fraction.toNat = 0
    · rw [if_pos zero, if_pos (none.mpr zero)]
      exact rfl
    · rw [if_neg zero, if_neg (mt none.mp zero)]
      exact rfl
  · rw [if_neg infinite, if_neg (mt full.mp infinite)]
    by_cases low : exponent.toNat = 0
    · rw [if_pos low, if_pos (least.mpr low)]
      refine ⟨⟨by omega, le_refl _, .inr rfl⟩, by decide, ?_⟩
      unfold Binary.number
      by_cases zero : fraction.toNat = 0
      · rw [dif_pos (none.mpr zero), dif_pos zero]
      · rw [dif_neg (mt none.mp zero), dif_neg zero]
        congr 1
        rw [low]
        rfl
    · rw [if_neg low, if_neg (mt least.mp low)]
      have size : leadingBit = 2 ^ 52 := rfl
      have bottom : minExponent = -1074 := rfl
      have top : maxExponent = 971 := rfl
      refine ⟨⟨by omega, by omega, .inl (by omega)⟩, by omega, ?_⟩
      unfold Binary.number
      rw [dif_neg (by omega)]
      congr 1
      exact toNat_implicit fraction

theorem unpack_normal (sign : Sign) {mantissa biased : Nat} (positive : 0 < biased)
    (below : biased < 2047) (least : 2 ^ 52 ≤ mantissa) (most : mantissa < 2 ^ 53) :
    UnpackedFloat.unpack .binary64 (packComponents .binary64 sign (BitVec.ofNat 11 biased)
      (BitVec.ofNat 52 mantissa)) = number sign mantissa (biased - 1075) := by
  have field : (BitVec.ofNat 11 biased).toNat = biased := by
    rw [BitVec.toNat_ofNat]
    omega
  have fraction : (BitVec.ofNat 52 mantissa).toNat = mantissa - 2 ^ 52 := by
    rw [BitVec.toNat_ofNat]
    omega
  have finite : BitVec.ofNat 11 biased ≠ -1#11 := by
    rw [ne_eq, ← BitVec.toNat_inj, field]
    exact Nat.ne_of_lt below
  have normal : BitVec.ofNat 11 biased ≠ 0#11 := by
    rw [ne_eq, ← BitVec.toNat_inj, field]
    exact positive.ne'
  unfold UnpackedFloat.unpack Binary.number
  simp only [unpackExponent_packComponents, unpackMantissa_packComponents, unpackSign_packComponents,
    Sign.ofBitVec_toBitVec]
  rw [if_neg finite, if_neg normal, dif_neg (by omega)]
  congr 1
  · rw [toNat_implicit, fraction, leadingBit]
    omega
  · rw [field]
    rfl

/-- The bits of a number below all normal ones. -/
theorem unpack_subnormal (sign : Sign) {mantissa : Nat} (positive : 0 < mantissa)
    (most : mantissa < 2 ^ 52) :
    UnpackedFloat.unpack .binary64 (packComponents .binary64 sign 0#11 (BitVec.ofNat 52 mantissa)) =
      number sign mantissa minExponent := by
  have fraction : (BitVec.ofNat 52 mantissa).toNat = mantissa := by
    rw [BitVec.toNat_ofNat]
    omega
  have nonzero : BitVec.ofNat 52 mantissa ≠ 0#52 := by
    rw [ne_eq, ← BitVec.toNat_inj, fraction]
    exact positive.ne'
  unfold UnpackedFloat.unpack Binary.number
  simp only [unpackExponent_packComponents, unpackMantissa_packComponents, unpackSign_packComponents,
    Sign.ofBitVec_toBitVec]
  rw [if_neg (by decide), if_pos trivial, dif_neg nonzero, dif_neg positive.ne']
  congr 1

/-- What fits is found again after it was packed, and what is too large has become infinite. -/
theorem unpack_pack {sign : Sign} {mantissa : Nat} {exponent : Int}
    (canonical : Canonical mantissa exponent) :
    UnpackedFloat.unpack .binary64 (UnpackedFloat.pack .binary64 (number sign mantissa exponent)) =
      if exponent ≤ maxExponent then number sign mantissa exponent else .infinity sign := by
  obtain ⟨short, least, full⟩ := canonical
  have bottom : minExponent = -1074 := rfl
  have top : maxExponent = 971 := rfl
  have bit : leadingBit = 2 ^ 52 := rfl
  by_cases zero : mantissa = 0
  · have lowest : exponent = minExponent := full.resolve_left (by omega)
    have none : number sign mantissa exponent = .zero sign := dif_pos zero
    rw [if_pos (by omega), none]
    cases sign <;> rfl
  · have biased : (exponent + (Format.binary64.exponentBias : Int) + (52 : Nat)).toNat =
        (exponent + 1075).toNat := by
      change (exponent + 1023 + 52).toNat = _
      omega
    have packed : UnpackedFloat.pack .binary64 (number sign mantissa exponent) =
        if 2 ^ 11 ≤ (exponent + 1075).toNat + 1 then packedInfinity .binary64 sign
        else if mantissa.log2 + 1 = 53 then
          packComponents .binary64 sign (BitVec.ofNat 11 (exponent + 1075).toNat)
            (BitVec.ofNat 52 mantissa)
        else packComponents .binary64 sign 0#11 (BitVec.ofNat 52 mantissa) := by
      unfold Binary.number
      rw [dif_neg zero, UnpackedFloat.pack, biased]
      rfl
    rw [packed]
    by_cases fits : exponent ≤ maxExponent
    · rw [if_pos fits, if_neg (by omega)]
      by_cases normal : 2 ^ 52 ≤ mantissa
      · have size : mantissa.log2 = 52 := (Nat.log2_eq_iff zero).mpr ⟨normal, short⟩
        rw [if_pos (by omega), unpack_normal sign (by omega) (by omega) normal short]
        congr 1
        omega
      · have size : mantissa.log2 < 52 := (Nat.log2_lt zero).mpr (by omega)
        have lowest : exponent = minExponent := full.resolve_left (by omega)
        rw [if_neg (by omega), unpack_subnormal sign (by omega) (by omega), lowest]
    · rw [if_neg fits, if_pos (by omega)]
      cases sign <;> rfl

end PriceRelay.Binary
