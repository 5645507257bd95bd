import Mathlib
import PriceRelay.Proofs.Number.Nearest
/-!
Rounding as the core language does it: a mantissa is shifted to its place, the bits that leave it
decide which way to go, and the number that comes out is the nearest one.
-/

namespace PriceRelay.Binary

open Float.Model Float.Model.UnpackedFloat

/-- The mantissa with the first bit that has left it. -/
def halves (shifted : ExtendedMantissa) : ℚ :=
  shifted.mantissa + if shifted.roundBit then 1 / 2 else 0

/-- A shifted mantissa tells which half of its last place a number lies in, and whether it lies at
the beginning of that half. -/
structure Shows (shifted : ExtendedMantissa) (number : ℚ) : Prop where
  least : halves shifted ≤ number
  most : number < halves shifted + 1 / 2
  sticky : shifted.stickyBit = true ↔ number ≠ halves shifted

section

variable {shifted : ExtendedMantissa} {number : ℚ}

theorem shows_start (mantissa : Nat) :
    Shows (ExtendedMantissa.ofMantissaAndAccuracy mantissa .exact) mantissa := by
  constructor <;> simp [ExtendedMantissa.ofMantissaAndAccuracy, halves]

theorem halves_shiftRightOne (shifted : ExtendedMantissa) :
    halves shifted.shiftRightOne = shifted.mantissa / 2 := by
  have split := Nat.div_add_mod shifted.mantissa 2
  have parts : (shifted.mantissa : ℚ) = 2 * (shifted.mantissa / 2 : Nat) + (shifted.mantissa % 2 : Nat) := by
    exact_mod_cast split.symm
  rw [parts]
  rcases Nat.mod_two_eq_zero_or_one shifted.mantissa with even | odd
  · simp [halves, ExtendedMantissa.shiftRightOne, even]
  · simp [halves, ExtendedMantissa.shiftRightOne, odd]
    ring

theorem Shows.shiftOne (shows_ : Shows shifted number) :
    Shows shifted.shiftRightOne (number / 2) := by
  have lost := halves_shiftRightOne shifted
  obtain ⟨least, most, sticky⟩ := shows_
  obtain ⟨mantissa, round, rest⟩ := shifted
  cases round with
  | false =>
    simp only [halves, Bool.false_eq_true, if_false, add_zero] at least most sticky
    refine ⟨by rw [lost]; linarith, by rw [lost]; linarith, ?_⟩
    rw [lost]
    simp only [ExtendedMantissa.shiftRightOne, Bool.false_or, sticky, ne_eq,
      div_left_inj' (two_ne_zero : (2 : ℚ) ≠ 0)]
  | true =>
    simp only [halves, if_true] at least most sticky
    refine ⟨by rw [lost]; linarith, by rw [lost]; linarith, ?_⟩
    rw [lost]
    simp only [ExtendedMantissa.shiftRightOne, Bool.true_or, true_iff]
    linarith

theorem Shows.shift (shows_ : Shows shifted number) (count : Nat) :
    Shows (shifted >>> count) (number / 2 ^ count) := by
  change Shows (Nat.repeat ExtendedMantissa.shiftRightOne count shifted) _
  induction count with
  | zero => simpa [Nat.repeat] using shows_
  | succ count ih =>
    rw [Nat.repeat, pow_succ, ← div_div]
    exact ih.shiftOne

theorem Shows.rounded (shows_ : Shows shifted number) :
    |number - shifted.roundedMantissa| ≤ 1 / 2 := by
  obtain ⟨least, most, sticky⟩ := shows_
  obtain ⟨mantissa, round, rest⟩ := shifted
  rw [abs_le]
  cases round with
  | false =>
    have down : (ExtendedMantissa.mk mantissa false rest).roundedMantissa = mantissa := by
      cases rest <;> rfl
    simp only [halves, Bool.false_eq_true, if_false, add_zero] at least most
    rw [down]
    exact ⟨by linarith, by linarith⟩
  | true =>
    simp only [halves, if_true] at least most sticky
    cases rest with
    | false =>
      -- A tie goes to the even mantissa.
      have tie : number = mantissa + 1 / 2 := by simpa using sticky
      have even : (ExtendedMantissa.mk mantissa true false).roundedMantissa =
          mantissa + mantissa % 2 := rfl
      rw [tie, even]
      rcases Nat.mod_two_eq_zero_or_one mantissa with rest | rest <;> rw [rest] <;> push_cast <;>
        constructor <;> linarith
    | true =>
      have up : (ExtendedMantissa.mk mantissa true true).roundedMantissa = mantissa + 1 := rfl
      rw [up]
      push_cast
      exact ⟨by linarith, by linarith⟩

end

/-- A finite number in the core language, also zero. -/
def number (sign : Sign) (mantissa : Nat) (exponent : Int) : UnpackedFloat :=
  if none : mantissa = 0 then .zero sign
  else .finite sign mantissa exponent (Nat.pos_of_ne_zero none)

section

variable {mantissa : Nat} {exponent : Int}

/-- The place that a mantissa is shifted to: it keeps 53 bits, unless they lie too low. -/
theorem targetExponent_eq (mantissa : Nat) (exponent : Int) :
    Format.binary64.targetExponent (totalExponent mantissa exponent) =
      max (mantissa.log2 + exponent - 52) minExponent := by
  simp only [Format.targetExponent, totalExponent, Format.mantissaBits, Format.minExponent,
    minExponent]
  norm_num
  omega

theorem shift_settled (short : mantissa < 2 ^ 53) (least : minExponent ≤ exponent) :
    shiftToTargetExponent .binary64 mantissa exponent .exact =
      (⟨mantissa, false, false⟩, exponent) := by
  have few : mantissa.log2 ≤ 52 := by
    by_cases zero : mantissa = 0
    · simp [zero]
    · exact Nat.le_of_lt_succ ((Nat.log2_lt zero).mpr short)
  have stays : (max (mantissa.log2 + exponent - 52) minExponent - exponent).toNat = 0 := by omega
  simp only [shiftToTargetExponent, shiftToExponent, targetExponent_eq, stays]
  simp [HShiftRight.hShiftRight, Nat.repeat, ExtendedMantissa.ofMantissaAndAccuracy]

/-- A mantissa that has grown by a bit when it was rounded. -/
theorem shift_carry (least : minExponent ≤ exponent) :
    shiftToTargetExponent .binary64 (2 ^ 53) exponent .exact =
      (⟨2 ^ 52, false, false⟩, exponent + 1) := by
  have one : (max (((2 ^ 53 : Nat).log2 : Int) + exponent - 52) minExponent - exponent).toNat = 1 := by
    rw [Nat.log2_two_pow]
    omega
  simp only [shiftToTargetExponent, shiftToExponent, targetExponent_eq, one]
  rfl

theorem shifted_bounds (positive : 0 < mantissa)
    (long : leadingBit ≤ mantissa ∨ exponent ≤ minExponent) :
    let grid := max (mantissa.log2 + exponent - 52) minExponent
    exponent + (grid - exponent).toNat = grid ∧
      value mantissa exponent / 2 ^ grid = mantissa / 2 ^ (grid - exponent).toNat ∧
      value mantissa exponent / 2 ^ grid < 2 ^ 53 ∧
      (2 ^ 52 ≤ value mantissa exponent / 2 ^ grid ∨ grid = minExponent) := by
  intro grid
  have size : leadingBit ≤ mantissa → 52 ≤ mantissa.log2 := (Nat.le_log2 positive.ne').mpr
  have down : exponent + (grid - exponent).toNat = grid := by
    rcases long with long | low
    · have := size long
      omega
    · omega
  have scaled : value mantissa exponent / 2 ^ grid = mantissa / 2 ^ (grid - exponent).toNat := by
    have nonzero : (2 : ℚ) ^ exponent ≠ 0 := by positivity
    rw [← down, zpow_add₀ (by norm_num), zpow_natCast, value, down, mul_comm ((2 : ℚ) ^ exponent),
      mul_div_mul_right _ _ nonzero]
  refine ⟨down, scaled, ?_, ?_⟩
  · rw [scaled, div_lt_iff₀ (by positivity)]
    have room : mantissa < 2 ^ 53 * 2 ^ (grid - exponent).toNat := by
      rw [← Nat.pow_add]
      exact Nat.lt_of_lt_of_le Nat.lt_log2_self (Nat.pow_le_pow_right (by norm_num) (by omega))
    exact_mod_cast room
  · by_cases lowest : grid = minExponent
    · exact .inr lowest
    · left
      rw [scaled, le_div_iff₀ (by positivity)]
      have most : 2 ^ 52 * 2 ^ (grid - exponent).toNat ≤ mantissa := by
        rw [← Nat.pow_add]
        exact Nat.le_trans (Nat.pow_le_pow_right (by norm_num) (by omega))
          (Nat.log2_self_le positive.ne')
      exact_mod_cast most

/-- The core language rounds to the nearest number, where a mantissa is long enough. -/
theorem roundWithAccuracy_nearest (sign : Sign) (positive : 0 < mantissa)
    (long : leadingBit ≤ mantissa ∨ exponent ≤ minExponent) :
    ∃ whole place, Nearest (value mantissa exponent) whole place ∧
      roundWithAccuracy .binary64 sign mantissa exponent .exact = number sign whole place := by
  obtain ⟨down, scaled, most, high⟩ := shifted_bounds positive long
  generalize gridEq : max (mantissa.log2 + exponent - 52) minExponent = grid at down scaled most high
  let count := (grid - exponent).toNat
  let shifted := ExtendedMantissa.ofMantissaAndAccuracy mantissa .exact >>> count
  have first : shiftToTargetExponent .binary64 mantissa exponent .exact = (shifted, grid) := by
    simp only [shiftToTargetExponent, shiftToExponent, targetExponent_eq, gridEq, down]
    rfl
  have least : minExponent ≤ grid := by omega
  have half : |value mantissa exponent / 2 ^ grid - shifted.roundedMantissa| ≤ 1 / 2 := by
    rw [scaled]
    exact ((shows_start mantissa).shift count).rounded
  have near := abs_le.mp half
  have bound : shifted.roundedMantissa ≤ 2 ^ 53 := by
    have less : (shifted.roundedMantissa : ℚ) < 2 ^ 53 + 1 := by linarith
    exact Nat.le_of_lt_succ (by exact_mod_cast less)
  have full : leadingBit ≤ shifted.roundedMantissa ∨ grid = minExponent := by
    rcases high with high | lowest
    · left
      have more : (2 : ℚ) ^ 52 < shifted.roundedMantissa + 1 := by linarith
      exact Nat.le_of_lt_succ (by exact_mod_cast more)
    · exact .inr lowest
  rcases Nat.lt_or_eq_of_le bound with short | carry
  · refine ⟨shifted.roundedMantissa, grid, nearest_of_grid ⟨short, least, full⟩ rfl half high, ?_⟩
    simp only [roundWithAccuracy, first, shift_settled short least]
    rfl
  · have same : value (2 ^ 52) (grid + 1) = shifted.roundedMantissa * 2 ^ grid := by
      rw [value, carry, zpow_add_one₀ (by norm_num)]
      push_cast
      ring
    have canonical : Canonical (2 ^ 52) (grid + 1) := canonical_leadingBit (by omega)
    refine ⟨2 ^ 52, grid + 1, nearest_of_grid canonical same half high, ?_⟩
    simp only [roundWithAccuracy, first, carry, shift_carry least]
    rfl

end

end PriceRelay.Binary
