import Mathlib.Algebra.Order.Field.Power
import Mathlib.Data.Rat.Floor
import Mathlib.Tactic.Linarith
import Mathlib.Tactic.Positivity
import Mathlib.Tactic.Ring
import PriceRelay.Number.Binary
/-!
Numbers of 53 bits, and the one of them that is nearest to a given number. Nearest numbers keep the
order, and a number of 53 bits is nearest to itself.
-/

namespace PriceRelay.Binary

/-- The value of a mantissa and an exponent. -/
def value (mantissa : Nat) (exponent : Int) : ℚ := mantissa * 2 ^ exponent

/-- The one form of a number: its mantissa is full, unless its exponent is the least. -/
structure Canonical (mantissa : Nat) (exponent : Int) : Prop where
  short : mantissa < 2 ^ 53
  least : minExponent ≤ exponent
  full : leadingBit ≤ mantissa ∨ exponent = minExponent

/-- No number of 53 bits is nearer. -/
structure Nearest (target : ℚ) (mantissa : Nat) (exponent : Int) : Prop where
  canonical : Canonical mantissa exponent
  nearest : ∀ other place, Canonical other place →
    |target - value mantissa exponent| ≤ |target - value other place|

section

variable {target later : ℚ} {mantissa other : Nat} {exponent place : Int}

theorem value_nonneg (mantissa : Nat) (exponent : Int) : 0 ≤ value mantissa exponent := by
  unfold value
  positivity

@[simp]
theorem value_zero (exponent : Int) : value 0 exponent = 0 := by
  unfold value
  rw [Nat.cast_zero, zero_mul]

theorem canonical_zero : Canonical 0 minExponent :=
  ⟨by decide, le_refl _, .inr rfl⟩

theorem canonical_leadingBit (least : minExponent ≤ exponent) : Canonical leadingBit exponent :=
  ⟨by decide, least, .inl (le_refl _)⟩

theorem Canonical.value_lt (small : Canonical mantissa exponent) (great : Canonical other place)
    (less : exponent < place) : value mantissa exponent < value other place := by
  have full : leadingBit ≤ other := great.full.resolve_right (by have := small.least; omega)
  have step : (2 : ℚ) ^ (exponent + 1) ≤ 2 ^ place :=
    zpow_le_zpow_right₀ (by norm_num) (by omega)
  have room : (mantissa : ℚ) < 2 ^ 53 := by exact_mod_cast small.short
  have most : (2 : ℚ) ^ 52 ≤ other := by exact_mod_cast full
  have positive : (0 : ℚ) < 2 ^ exponent := by positivity
  unfold value
  calc (mantissa : ℚ) * 2 ^ exponent < 2 ^ 53 * 2 ^ exponent :=
        mul_lt_mul_of_pos_right room positive
    _ = 2 ^ 52 * 2 ^ (exponent + 1) := by
        rw [zpow_add_one₀ (by norm_num)]
        ring
    _ ≤ other * 2 ^ place := by gcongr

theorem Canonical.unique (one : Canonical mantissa exponent) (two : Canonical other place)
    (same : value mantissa exponent = value other place) :
    mantissa = other ∧ exponent = place := by
  rcases lt_trichotomy exponent place with less | rfl | more
  · exact absurd same (one.value_lt two less).ne
  · have positive : (2 : ℚ) ^ exponent ≠ 0 := by positivity
    exact ⟨by exact_mod_cast mul_right_cancel₀ positive same, rfl⟩
  · exact absurd same (two.value_lt one more).ne'

/-- What is nearest stays below every number of 53 bits that is not exceeded. -/
theorem Nearest.le (near : Nearest target mantissa exponent) (bound : Canonical other place)
    (le : target ≤ value other place) : value mantissa exponent ≤ value other place := by
  by_contra beyond
  have closer := near.nearest other place bound
  rw [abs_of_nonpos (by linarith), abs_of_nonpos (by linarith)] at closer
  linarith

/-- Nearest numbers keep the order. -/
theorem Nearest.mono (near : Nearest target mantissa exponent) (next : Nearest later other place)
    (less : target < later) : value mantissa exponent ≤ value other place := by
  by_contra beyond
  have first := sq_le_sq.mpr (near.nearest other place next.canonical)
  have second := sq_le_sq.mpr (next.nearest mantissa exponent near.canonical)
  nlinarith

theorem Nearest.self (near : Nearest (value other place) mantissa exponent)
    (own : Canonical other place) : mantissa = other ∧ exponent = place := by
  have zero := near.nearest other place own
  rw [sub_self, abs_zero] at zero
  have same : value other place = value mantissa exponent :=
    sub_eq_zero.mp (abs_nonpos_iff.mp zero)
  exact near.canonical.unique own same.symm

theorem half_nearest {number : ℚ} {whole : Int} (half : |number - whole| ≤ 1 / 2) (other : Int) :
    |number - whole| ≤ |number - other| := by
  by_cases same : whole = other
  · rw [same]
  · have apart : (1 : ℚ) ≤ |(whole : ℚ) - other| := by
      have distinct : 1 ≤ |whole - other| := Int.one_le_abs (sub_ne_zero.mpr same)
      exact_mod_cast distinct
    have triangle := abs_sub_le (whole : ℚ) number other
    rw [abs_sub_comm (whole : ℚ) number] at triangle
    linarith

/-- Rounding to a grid gives the nearest number, if the grid has the places of 53 bits there. -/
theorem nearest_of_grid {whole : Nat} {grid : Int} (own : Canonical mantissa exponent)
    (same : value mantissa exponent = whole * 2 ^ grid)
    (half : |target / 2 ^ grid - whole| ≤ 1 / 2)
    (high : 2 ^ 52 ≤ target / 2 ^ grid ∨ grid = minExponent) :
    Nearest target mantissa exponent := by
  refine ⟨own, fun other place canonical => ?_⟩
  have positive : (0 : ℚ) < 2 ^ grid := by positivity
  have scaled : ∀ number : ℚ,
      |target - number| = |target / 2 ^ grid - number / 2 ^ grid| * 2 ^ grid := by
    intro number
    rw [← abs_of_pos positive, ← abs_mul, abs_of_pos positive, sub_mul,
      div_mul_cancel₀ _ positive.ne', div_mul_cancel₀ _ positive.ne']
  rw [scaled, scaled, same, mul_div_cancel_right₀ _ positive.ne']
  refine mul_le_mul_of_nonneg_right ?_ positive.le
  have closest : ∀ integer : Int,
      |target / 2 ^ grid - whole| ≤ |target / 2 ^ grid - integer| := by
    intro integer
    have near : |target / 2 ^ grid - ((whole : Int) : ℚ)| ≤ 1 / 2 := by exact_mod_cast half
    exact_mod_cast half_nearest near integer
  by_cases onGrid : grid ≤ place
  · -- A number on the grid is an integer there.
    have integer : value other place / 2 ^ grid = ((other * 2 ^ (place - grid).toNat : Nat) : Int) := by
      have split : place = (place - grid).toNat + grid := by omega
      unfold value
      rw [split, zpow_add₀ (by norm_num), zpow_natCast, ← split, ← mul_assoc,
        mul_div_cancel_right₀ _ positive.ne']
      push_cast
      rfl
    rw [integer]
    exact closest _
  · -- A number between its lines lies below the first number with all places.
    have above : (2 : ℚ) ^ 52 ≤ target / 2 ^ grid :=
      high.resolve_right (by have := canonical.least; omega)
    have corner : Canonical (2 ^ 52) grid :=
      canonical_leadingBit (by have := canonical.least; omega)
    have below : value other place / 2 ^ grid ≤ 2 ^ 52 := by
      rw [div_le_iff₀ positive]
      have less := canonical.value_lt corner (lt_of_not_ge onGrid)
      unfold value at less ⊢
      push_cast at less
      exact less.le
    have first := closest ((2 ^ 52 : Nat) : Int)
    have cast : (((2 ^ 52 : Nat) : Int) : ℚ) = 2 ^ 52 := by norm_num
    rw [cast] at first
    rw [abs_of_nonneg (by linarith : (0 : ℚ) ≤ target / 2 ^ grid - 2 ^ 52)] at first
    rw [abs_of_nonneg (by linarith : (0 : ℚ) ≤ target / 2 ^ grid - value other place / 2 ^ grid)]
    linarith

end

end PriceRelay.Binary
