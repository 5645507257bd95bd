import Mathlib.Algebra.Order.Floor.Semifield
import PriceRelay.Proofs.Number.Packing
/-!
Whole numbers and products as binary64 numbers: each is the nearest one to what it should be.
Truncation drops the fraction, and the order is that of the values.
-/

namespace PriceRelay.Binary

open Float.Model Float.Model.UnpackedFloat

/-- A number that is finite and not negative, in its one form. -/
structure Holds (number : Float) (mantissa : Nat) (exponent : Int) : Prop where
  canonical : Canonical mantissa exponent
  fits : exponent ≤ maxExponent
  unpacked : number.toModel.unpack = Binary.number .positive mantissa exponent

section

variable {first second : Float} {mantissa other : Nat} {exponent place : Int}

theorem number_inj {sign side : Sign} (one : Canonical mantissa exponent)
    (two : Canonical other place) (same : number sign mantissa exponent = number side other place) :
    sign = side ∧ mantissa = other ∧ exponent = place := by
  unfold number at same
  by_cases zero : mantissa = 0
  · by_cases null : other = 0
    · rw [dif_pos zero, dif_pos null] at same
      subst zero null
      injection same with same
      have bit : leadingBit = 2 ^ 52 := rfl
      exact ⟨same, rfl, (one.full.resolve_left (by omega)).trans
        (two.full.resolve_left (by omega)).symm⟩
    · rw [dif_pos zero, dif_neg null] at same
      cases same
  · by_cases null : other = 0
    · rw [dif_neg zero, dif_pos null] at same
      cases same
    · rw [dif_neg zero, dif_neg null] at same
      injection same with signs mantissas exponents
      exact ⟨signs, mantissas, exponents⟩

theorem number_finite (sign : Sign) (mantissa : Nat) (exponent : Int) :
    (number sign mantissa exponent).isFinite = true := by
  unfold number
  split <;> rfl

theorem ofFloat_of_finite (finite : first.toModel.unpack.isFinite = true) :
    ∃ negative mantissa exponent, Binary.ofFloat first = .finite negative mantissa exponent ∧
      Views (.finite negative mantissa exponent) first.toModel.unpack := by
  have views := ofFloat_views first
  cases view : Binary.ofFloat first with
  | nan =>
    rw [view] at views
    rw [views] at finite
    cases finite
  | infinite negative =>
    rw [view] at views
    rw [views] at finite
    cases finite
  | finite negative mantissa exponent =>
    rw [view] at views
    exact ⟨negative, mantissa, exponent, rfl, views⟩

theorem Holds.ofFloat (holds : Holds first mantissa exponent) :
    Binary.ofFloat first = .finite false mantissa exponent := by
  obtain ⟨canonical, fits, unpacked⟩ := holds
  have finite : first.toModel.unpack.isFinite = true := by
    rw [unpacked]
    exact number_finite .positive mantissa exponent
  obtain ⟨negative, whole, power, view, own, -, same⟩ := ofFloat_of_finite finite
  obtain ⟨sign, rfl, rfl⟩ := number_inj canonical own (unpacked.symm.trans same)
  cases negative with
  | false => exact view
  | true => cases sign

theorem wholePart_eq (mantissa : Nat) (exponent : Int) :
    wholePart mantissa exponent = ⌊value mantissa exponent⌋₊ := by
  have split : value mantissa exponent =
      ((mantissa * 2 ^ exponent.toNat : Nat) : ℚ) / ((2 ^ (-exponent).toNat : Nat) : ℚ) := by
    have parts : exponent = exponent.toNat - ((-exponent).toNat : Int) := by omega
    unfold value
    rw [parts, zpow_sub₀ (by norm_num), ← parts]
    push_cast
    rw [zpow_natCast, zpow_natCast, mul_div_assoc]
  rw [split, Nat.floor_div_eq_div]
  rfl

theorem Holds.truncate (holds : Holds first mantissa exponent) (limit : Nat) :
    Number.truncate limit first = min limit ⌊value mantissa exponent⌋₊ := by
  unfold Number.truncate
  rw [holds.ofFloat, ← wholePart_eq]
  rfl

theorem value_mul (mantissa other : Nat) (exponent place : Int) :
    value (mantissa * other) (exponent + place) = value mantissa exponent * value other place := by
  unfold value
  rw [zpow_add₀ (by norm_num)]
  push_cast
  ring

theorem nearest_zero : Nearest 0 0 minExponent where
  canonical := canonical_zero
  nearest other place _ := by
    rw [value_zero, sub_self, abs_zero]
    exact abs_nonneg _

/-- A product is the nearest number to the exact one. -/
theorem Holds.mul (one : Holds first mantissa exponent) (two : Holds second other place) :
    ∃ whole power, Nearest (value mantissa exponent * value other place) whole power ∧
      (first * second).toModel.unpack =
        if power ≤ maxExponent then number .positive whole power else .infinity .positive := by
  have product : (first * second).toModel.unpack =
      UnpackedFloat.unpack .binary64 (UnpackedFloat.pack .binary64
        (UnpackedFloat.mul .binary64 first.toModel.unpack second.toModel.unpack)) := rfl
  rw [product, one.unpacked, two.unpacked]
  have bit : leadingBit = 2 ^ 52 := rfl
  by_cases zero : mantissa = 0 ∨ other = 0
  · have none : value mantissa exponent * value other place = 0 := by
      rcases zero with rfl | rfl <;> simp
    have lost : UnpackedFloat.mul .binary64 (number .positive mantissa exponent)
        (number .positive other place) = number .positive 0 minExponent := by
      have lacking (power : Int) : number .positive 0 power = .zero .positive := rfl
      rcases zero with rfl | rfl <;> rw [lacking, lacking, number] <;> split <;> rfl
    refine ⟨0, minExponent, none ▸ nearest_zero, ?_⟩
    rw [lost, unpack_pack canonical_zero]
  · obtain ⟨some, more⟩ := not_or.mp zero
    have positive : 0 < mantissa * other := Nat.mul_pos (Nat.pos_of_ne_zero some)
      (Nat.pos_of_ne_zero more)
    have long : leadingBit ≤ mantissa * other ∨ exponent + place ≤ minExponent := by
      rcases one.canonical.full with full | low
      · exact .inl (Nat.le_trans full (Nat.le_mul_of_pos_right _ (Nat.pos_of_ne_zero more)))
      · rcases two.canonical.full with full | lower
        · exact .inl (Nat.le_trans full (Nat.le_mul_of_pos_left _ (Nat.pos_of_ne_zero some)))
        · exact .inr (by rw [low, lower]; decide)
    obtain ⟨whole, power, nearest, rounded⟩ := roundWithAccuracy_nearest .positive positive long
    rw [value_mul] at nearest
    have multiplied : UnpackedFloat.mul .binary64 (number .positive mantissa exponent)
        (number .positive other place) = number .positive whole power := by
      rw [← rounded, number, number, dif_neg some, dif_neg more]
      rfl
    exact ⟨whole, power, nearest, by rw [multiplied, unpack_pack nearest.canonical]⟩

theorem Holds.value_le (one : Holds first mantissa exponent) (two : Holds second other place)
    (le : first ≤ second) : value mantissa exponent ≤ value other place := by
  have compared : (UnpackedFloat.compare first.toModel.unpack second.toModel.unpack).any
      (·.isLE) = true := of_decide_eq_true le
  rw [one.unpacked, two.unpacked] at compared
  by_cases zero : mantissa = 0
  · rw [zero, value_zero]
    exact value_nonneg other place
  · by_cases null : other = 0
    · rw [number, number, dif_neg zero, dif_pos null] at compared
      cases compared
    · rw [number, number, dif_neg zero, dif_neg null] at compared
      have lexicographic : ((compare exponent place).then (compare mantissa other)).isLE = true :=
        compared
      rcases lt_trichotomy exponent place with less | rfl | more
      · exact (one.canonical.value_lt two.canonical less).le
      · rw [compare_eq_iff_eq.mpr rfl, Ordering.eq_then, Nat.isLE_compare] at lexicographic
        unfold value
        gcongr
      · rw [compare_gt_iff_gt.mpr more] at lexicographic
        cases lexicographic

theorem holds_of_positive (finite : first.isFinite = true) (above : 0.0 < first) :
    ∃ mantissa exponent, 0 < value mantissa exponent ∧ Holds first mantissa exponent := by
  have zero : (0.0 : Float).toModel.unpack = .zero .positive := by rfl
  have compared : (UnpackedFloat.compare (.zero .positive) first.toModel.unpack ==
      some .lt) = true := by
    rw [← zero]
    exact of_decide_eq_true above
  obtain ⟨negative, whole, power, -, canonical, fits, unpacked⟩ := ofFloat_of_finite finite
  rw [unpacked, number] at compared
  by_cases none : whole = 0
  · rw [dif_pos none] at compared
    cases compared
  · rw [dif_neg none] at compared
    cases negative with
    | true => cases compared
    | false =>
      refine ⟨whole, power, ?_, canonical, fits, unpacked⟩
      unfold value
      have some : 0 < whole := Nat.pos_of_ne_zero none
      positivity

theorem truncate_infinite (unpacked : first.toModel.unpack = .infinity .positive) (limit : Nat) :
    Number.truncate limit first = limit := by
  have views := ofFloat_views first
  rw [unpacked] at views
  unfold Number.truncate
  cases view : Binary.ofFloat first with
  | nan =>
    rw [view] at views
    cases views
  | infinite negative =>
    rw [view] at views
    cases negative with
    | false => rfl
    | true => cases views
  | finite negative whole power =>
    rw [view] at views
    have finite := number_finite (signOf negative) whole power
    rw [← views.2.2] at finite
    cases finite

theorem canonical_bound : Canonical (2 ^ 52) 76 := canonical_leadingBit (by decide)

theorem value_bound : value (2 ^ 52) 76 = 2 ^ 128 := by
  unfold value
  norm_num

theorem Canonical.value_large (canonical : Canonical mantissa exponent)
    (large : maxExponent < exponent) : 2 ^ 128 < value mantissa exponent := by
  have top : maxExponent = 971 := rfl
  rw [← value_bound]
  exact canonical_bound.value_lt canonical (by omega)

/-- What is too large for binary64 is truncated as if it were not. -/
theorem truncate_rounded (canonical : Canonical mantissa exponent)
    (unpacked : first.toModel.unpack =
      if exponent ≤ maxExponent then number .positive mantissa exponent else .infinity .positive)
    {limit : Nat} (small : limit ≤ 2 ^ 128) :
    Number.truncate limit first = min limit ⌊value mantissa exponent⌋₊ := by
  by_cases fits : exponent ≤ maxExponent
  · rw [if_pos fits] at unpacked
    have holds : Holds first mantissa exponent := ⟨canonical, fits, unpacked⟩
    exact holds.truncate limit
  · rw [if_neg fits] at unpacked
    have large := canonical.value_large (lt_of_not_ge fits)
    have above : limit ≤ ⌊value mantissa exponent⌋₊ := by
      refine Nat.le_floor ?_
      have cast : (limit : ℚ) ≤ 2 ^ 128 := by exact_mod_cast small
      exact cast.trans large.le
    rw [truncate_infinite unpacked, Nat.min_eq_left above]

theorem Holds.truncate_mul (one : Holds first mantissa exponent) (two : Holds second other place)
    {limit : Nat} (small : limit ≤ 2 ^ 128) :
    ∃ whole power, Nearest (value mantissa exponent * value other place) whole power ∧
      Number.truncate limit (first * second) = min limit ⌊value whole power⌋₊ := by
  obtain ⟨whole, power, nearest, unpacked⟩ := one.mul two
  exact ⟨whole, power, nearest, truncate_rounded nearest.canonical unpacked small⟩

theorem Holds.truncate_mul_mono {factor : Float} {scale : Nat} {shift : Int}
    (one : Holds first mantissa exponent) (two : Holds second other place)
    (three : Holds factor scale shift) (positive : 0 < value scale shift)
    (le : value mantissa exponent ≤ value other place) {limit : Nat} (small : limit ≤ 2 ^ 128) :
    Number.truncate limit (first * factor) ≤ Number.truncate limit (second * factor) := by
  obtain ⟨whole, power, nearest, unpacked⟩ := one.mul three
  rw [truncate_rounded nearest.canonical unpacked small]
  rcases lt_or_eq_of_le le with less | same
  · obtain ⟨later, last, next, truncated⟩ := two.truncate_mul three small
    rw [truncated]
    exact min_le_min_left limit
      (Nat.floor_mono (nearest.mono next (mul_lt_mul_of_pos_right less positive)))
  · -- Of two nearest numbers the same one is chosen.
    obtain ⟨rfl, rfl⟩ := one.canonical.unique two.canonical same
    have equal : (second * factor).toModel.unpack = (first * factor).toModel.unpack := by
      change UnpackedFloat.unpack .binary64 (UnpackedFloat.pack .binary64
        (UnpackedFloat.mul .binary64 second.toModel.unpack factor.toModel.unpack)) = _
      rw [two.unpacked, ← one.unpacked]
      rfl
    rw [truncate_rounded nearest.canonical (equal.trans unpacked) small]

/-- A truncated number is the limit, or a number of 53 bits without its fraction. -/
theorem truncate_cases (limit : Nat) (amount : Float) :
    Number.truncate limit amount = limit ∨ ∃ whole power, Canonical whole power ∧
      Number.truncate limit amount = min limit ⌊value whole power⌋₊ := by
  have views := ofFloat_views amount
  have zero : 0 = min limit ⌊value 0 minExponent⌋₊ := by simp
  unfold Number.truncate
  cases view : Binary.ofFloat amount with
  | nan => exact .inr ⟨0, minExponent, canonical_zero, zero⟩
  | infinite negative =>
    cases negative with
    | false => exact .inl rfl
    | true => exact .inr ⟨0, minExponent, canonical_zero, zero⟩
  | finite negative whole power =>
    rw [view] at views
    cases negative with
    | false => exact .inr ⟨whole, power, views.1, by rw [← wholePart_eq]; rfl⟩
    | true => exact .inr ⟨0, minExponent, canonical_zero, zero⟩

end

section

variable {count : Nat}

theorem value_whole (count : Nat) : value count 0 = count := by
  unfold value
  rw [zpow_zero, mul_one]

theorem value_shiftLeft (mantissa shift : Nat) (exponent : Int) :
    value (mantissa <<< shift) (exponent - shift) = value mantissa exponent := by
  unfold value
  rw [Nat.shiftLeft_eq, zpow_sub₀ (by norm_num), zpow_natCast]
  push_cast
  field_simp

theorem canonical_shiftLeft (positive : 0 < count) (short : count < 2 ^ 53) :
    Canonical (count <<< (52 - count.log2)) (0 - (52 - count.log2 : Nat)) := by
  have few : count.log2 ≤ 52 := Nat.le_of_lt_succ ((Nat.log2_lt positive.ne').mpr short)
  have least := Nat.log2_self_le positive.ne'
  have most := @Nat.lt_log2_self count
  have bottom : minExponent = -1074 := rfl
  refine ⟨?_, by omega, .inl ?_⟩
  · rw [Nat.shiftLeft_eq]
    calc count * 2 ^ (52 - count.log2) < 2 ^ (count.log2 + 1) * 2 ^ (52 - count.log2) :=
          Nat.mul_lt_mul_of_pos_right most (by positivity)
      _ = 2 ^ 53 := by
          rw [← Nat.pow_add]
          congr 1
          omega
  · rw [Nat.shiftLeft_eq]
    calc leadingBit = 2 ^ count.log2 * 2 ^ (52 - count.log2) := by
          rw [← Nat.pow_add, leadingBit]
          congr 1
          omega
      _ ≤ count * 2 ^ (52 - count.log2) := Nat.mul_le_mul_right _ least

theorem toFloat_holds (short : count < 2 ^ 53) :
    ∃ mantissa exponent, value mantissa exponent = count ∧
      Holds count.toUInt64.toFloat mantissa exponent := by
  have kept : count.toUInt64.toNat = count := by
    rw [Nat.toUInt64_eq, UInt64.toNat_ofNat_of_lt' (Nat.lt_trans short (by decide))]
  have opened : count.toUInt64.toFloat.toModel.unpack = UnpackedFloat.unpack .binary64
      (UnpackedFloat.pack .binary64 (UnpackedFloat.normalize .binary64 count.toUInt64.toNat 0
        .positive)) := rfl
  rw [kept] at opened
  by_cases zero : count = 0
  · subst zero
    exact ⟨0, minExponent, by simp, canonical_zero, by decide, opened⟩
  · have positive : 0 < count := Nat.pos_of_ne_zero zero
    have canonical := canonical_shiftLeft positive short
    have few : count.log2 ≤ 52 := Nat.le_of_lt_succ ((Nat.log2_lt zero).mpr short)
    have bottom : minExponent = -1074 := rfl
    obtain ⟨whole, power, nearest, rounded⟩ := roundWithAccuracy_nearest .positive
      (Nat.lt_of_lt_of_le (by decide) (canonical.full.resolve_right (by omega)))
      (.inl (canonical.full.resolve_right (by omega)))
    obtain ⟨rfl, rfl⟩ := nearest.self canonical
    have normal : UnpackedFloat.normalize .binary64 count 0 .positive =
        number .positive (count <<< (52 - count.log2)) (0 - (52 - count.log2 : Nat)) := by
      have shift : (0 - max ((count.log2 : Int) + 0 - 52) minExponent).toNat = 52 - count.log2 := by
        omega
      rw [← rounded, UnpackedFloat.normalize, Int.compare_eq_gt.mpr (by omega)]
      simp only [UnpackedFloat.round, targetExponent_eq, decreaseExponent, Int.toNat_natCast, shift]
    have fits : (0 - (52 - count.log2 : Nat) : Int) ≤ maxExponent := by
      have top : maxExponent = 971 := rfl
      omega
    rw [normal, unpack_pack canonical, if_pos fits] at opened
    refine ⟨_, _, ?_, canonical, fits, opened⟩
    rw [value_shiftLeft, value_whole]

theorem holds_one : Holds 1.0 (2 ^ 52) (-52) :=
  ⟨canonical_leadingBit (by decide), by decide, rfl⟩

theorem value_one : value (2 ^ 52) (-52) = 1 := by
  unfold value
  norm_num

/-- A whole number, as it is read from its digits, is rounded to the nearest number. -/
theorem ofScientific_holds (positive : 0 < count) (small : count ≤ 2 ^ 128) :
    ∃ mantissa exponent, Nearest count mantissa exponent ∧
      Holds ⟨Float.Model.ofScientific count 0⟩ mantissa exponent := by
  have some : 0 < (count <<< 53) * 10 ^ 0 := by
    rw [Nat.shiftLeft_eq]
    positivity
  have long : leadingBit ≤ (count <<< 53) * 10 ^ 0 := by
    rw [Nat.shiftLeft_eq, leadingBit]
    omega
  obtain ⟨whole, power, nearest, rounded⟩ := roundWithAccuracy_nearest .positive some
    (.inl long : _ ∨ (-(53 : Nat) + 0 : Int) ≤ minExponent)
  have same : value ((count <<< 53) * 10 ^ 0) (-(53 : Nat) + 0) = count := by
    have shifted := value_shiftLeft count 53 0
    rw [pow_zero, mul_one, add_zero, ← zero_sub, shifted, value_whole]
  rw [same] at nearest
  have written : UnpackedFloat.ofScientific .binary64 count 0 = number .positive whole power := by
    rw [← rounded, UnpackedFloat.ofScientific, dif_neg positive.ne', if_neg (by decide),
      if_neg (by simp), if_pos (by decide)]
    rfl
  have fits : power ≤ maxExponent := by
    by_contra beyond
    have large := nearest.canonical.value_large (lt_of_not_ge beyond)
    have below := nearest.le canonical_bound (by rw [value_bound]; exact_mod_cast small)
    rw [value_bound] at below
    exact absurd large (not_lt_of_ge below)
  have opened : (Float.Model.ofScientific count 0).unpack =
      UnpackedFloat.unpack .binary64 (UnpackedFloat.pack .binary64
        (UnpackedFloat.ofScientific .binary64 count 0)) := rfl
  rw [written, unpack_pack nearest.canonical, if_pos fits] at opened
  exact ⟨whole, power, nearest, nearest.canonical, fits, opened⟩

theorem ofNat_holds (small : count ≤ 2 ^ 128) :
    ∃ mantissa exponent, Nearest count mantissa exponent ∧
      Holds (Number.ofNat count) mantissa exponent := by
  unfold Number.ofNat Float.ofScientific
  by_cases short : count < 2 ^ 53
  · rw [dif_pos ⟨short, by decide⟩]
    obtain ⟨mantissa, exponent, same, holds⟩ := toFloat_holds short
    have one : Holds Float.exactlyRepresentablePowersOfTen[0] (2 ^ 52) (-52) := holds_one
    obtain ⟨whole, power, nearest, unpacked⟩ := holds.mul one
    rw [value_one, mul_one] at nearest
    obtain ⟨rfl, rfl⟩ := nearest.self holds.canonical
    rw [if_pos holds.fits] at unpacked
    exact ⟨whole, power, same ▸ nearest, nearest.canonical, holds.fits, unpacked⟩
  · rw [dif_neg (fun both => short both.1)]
    have positive : 0 < count := Nat.lt_of_lt_of_le (by decide) (Nat.le_of_not_lt short)
    exact ofScientific_holds positive small

end

end PriceRelay.Binary

namespace PriceRelay.Number

theorem truncate_le (limit : Nat) (value : Float) : truncate limit value ≤ limit := by
  unfold truncate
  split
  · exact Nat.zero_le limit
  · split <;> omega
  · split
    · exact Nat.zero_le limit
    · exact Nat.min_le_left limit _

end PriceRelay.Number
