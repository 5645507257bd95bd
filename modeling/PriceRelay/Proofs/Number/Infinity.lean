import PriceRelay.Proofs.Number.Products
/-!
Infinite numbers, and products with an infinite factor.
-/

namespace PriceRelay.Binary

open Float.Model Float.Model.UnpackedFloat

section

variable {first second : Float} {mantissa : Nat} {exponent : Int}

theorem value_eq_zero_iff : value mantissa exponent = 0 ↔ mantissa = 0 := by
  have positive : (2 : ℚ) ^ exponent ≠ 0 := by positivity
  simp [value, positive]

theorem infinite_of_positive (endless : first.isFinite = false) (above : 0.0 < first) :
    first.toModel.unpack = .infinity .positive := by
  have zero : (0.0 : Float).toModel.unpack = .zero .positive := by rfl
  have compared : (UnpackedFloat.compare (.zero .positive) first.toModel.unpack ==
      some .lt) = true := by
    rw [← zero]
    exact of_decide_eq_true above
  have unbounded : first.toModel.unpack.isFinite = false := endless
  cases unpacked : first.toModel.unpack with
  | infinity sign =>
    cases sign with
    | positive => rfl
    | negative =>
      rw [unpacked] at compared
      cases compared
  | notANumber =>
    rw [unpacked] at compared
    cases compared
  | zero sign =>
    rw [unpacked] at unbounded
    cases unbounded
  | finite sign whole power positive =>
    rw [unpacked] at unbounded
    cases unbounded

theorem truncate_notANumber (unpacked : first.toModel.unpack = .notANumber) (limit : Nat) :
    Number.truncate limit first = 0 := by
  have views := ofFloat_views first
  rw [unpacked] at views
  unfold Number.truncate
  cases view : Binary.ofFloat first with
  | nan => rfl
  | infinite negative =>
    rw [view] at views
    cases views
  | finite negative whole power =>
    rw [view] at views
    have finite := number_finite (signOf negative) whole power
    rw [← views.2.2] at finite
    cases finite

/-- An infinite factor makes everything of something, and nothing of nothing. -/
theorem Holds.truncate_mul_infinite (holds : Holds first mantissa exponent)
    (infinite : second.toModel.unpack = .infinity .positive) (limit : Nat) :
    Number.truncate limit (first * second) = if mantissa = 0 then 0 else limit := by
  have product : (first * second).toModel.unpack =
      UnpackedFloat.unpack .binary64 (UnpackedFloat.pack .binary64
        (UnpackedFloat.mul .binary64 first.toModel.unpack second.toModel.unpack)) := rfl
  rw [holds.unpacked, infinite] at product
  by_cases zero : mantissa = 0
  · have lost : (first * second).toModel.unpack = .notANumber := by
      rw [product, number, dif_pos zero]
      rfl
    rw [if_pos zero, truncate_notANumber lost]
  · have top : (first * second).toModel.unpack = .infinity .positive := by
      have endless : UnpackedFloat.mul .binary64
          (.finite .positive mantissa exponent (Nat.pos_of_ne_zero zero)) (.infinity .positive) =
            .infinity .positive := rfl
      rw [product, number, dif_neg zero, endless]
      rfl
    rw [if_neg zero, truncate_infinite top]

end

end PriceRelay.Binary
