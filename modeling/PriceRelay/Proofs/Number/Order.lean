import PriceRelay.Proofs.Number.Packing
/-!
The order of binary64 numbers. Whatever is a number compares with every number; of two numbers the
larger one is found, and a quotient of what is not negative by a positive number is not negative.
-/

namespace PriceRelay.Binary

open Float.Model Float.Model.UnpackedFloat

theorem compare_swap (first second : UnpackedFloat) :
    UnpackedFloat.compare second first = (UnpackedFloat.compare first second).map .swap := by
  have lexicographic (exponent place : Int) (mantissa other : Nat) :
      ((compare exponent place).then (compare mantissa other)).swap =
        (compare place exponent).then (compare other mantissa) := by
    rw [Ordering.swap_then, ← Std.OrientedCmp.eq_swap, ← Std.OrientedCmp.eq_swap]
  cases first with
  | notANumber => cases second <;> rfl
  | infinity sign => cases sign <;> rcases second with (_ | _) | _ | _ | _ <;> rfl
  | zero sign => rcases second with (_ | _) | _ | _ | ⟨_ | _, _⟩ <;> rfl
  | finite sign mantissa exponent positive =>
    cases second with
    | notANumber => cases sign <;> rfl
    | infinity side => cases sign <;> cases side <;> rfl
    | zero side => cases sign <;> rfl
    | finite side other place above =>
      cases sign <;> cases side
      · exact congrArg (some ∘ Ordering.swap) (lexicographic exponent place mantissa other).symm
      · rfl
      · rfl
      · exact congrArg some (lexicographic exponent place mantissa other).symm

theorem compare_isSome {first second : UnpackedFloat} (one : first.isNaN = false)
    (two : second.isNaN = false) : (UnpackedFloat.compare first second).isSome = true := by
  cases first with
  | notANumber => cases one
  | infinity sign => cases sign <;> rcases second with (_ | _) | _ | _ | _ <;> trivial
  | zero sign => rcases second with (_ | _) | _ | _ | ⟨_ | _, _⟩ <;> trivial
  | finite sign mantissa exponent positive =>
    cases sign <;> rcases second with (_ | _) | _ | _ | ⟨_ | _, _⟩ <;> trivial

section

variable {first second : Float}

theorem lt_iff_compare : first < second ↔
    UnpackedFloat.compare first.toModel.unpack second.toModel.unpack = some .lt := by
  have opened : first < second ↔ (UnpackedFloat.compare first.toModel.unpack
      second.toModel.unpack == some .lt) = true := ⟨of_decide_eq_true, decide_eq_true⟩
  rw [opened, beq_iff_eq]

theorem le_iff_compare : first ≤ second ↔
    (UnpackedFloat.compare first.toModel.unpack second.toModel.unpack).any (·.isLE) = true :=
  ⟨of_decide_eq_true, decide_eq_true⟩

theorem le_of_lt (less : first < second) : first ≤ second := by
  rw [le_iff_compare, lt_iff_compare.mp less]
  rfl

theorem le_of_not_lt (one : first.isNaN = false) (two : second.isNaN = false)
    (notLess : ¬first < second) : second ≤ first := by
  rw [lt_iff_compare] at notLess
  rw [le_iff_compare, compare_swap first.toModel.unpack]
  obtain ⟨order, compared⟩ := Option.isSome_iff_exists.mp (compare_isSome one two)
  rw [compared] at notLess ⊢
  cases order with
  | lt => exact absurd rfl notLess
  | eq => rfl
  | gt => rfl

theorem le_self (one : first.isNaN = false) : first ≤ first := by
  by_cases less : first < first
  · exact le_of_lt less
  · exact le_of_not_lt one one less

theorem negative_of_lt (less : first < second) (negative : second < 0.0) : first < 0.0 := by
  rw [lt_iff_compare] at less negative ⊢
  have zero : (0.0 : Float).toModel.unpack = .zero .positive := by rfl
  rw [zero] at negative ⊢
  generalize first.toModel.unpack = one at less ⊢
  generalize second.toModel.unpack = two at less negative
  have below : two = .infinity .negative ∨
      ∃ mantissa exponent positive, two = .finite .negative mantissa exponent positive := by
    rcases two with (_ | _) | _ | _ | ⟨_ | _, mantissa, exponent, positive⟩
    · exact .inl rfl
    · cases negative
    · cases negative
    · cases negative
    · exact .inr ⟨mantissa, exponent, positive, rfl⟩
    · cases negative
  rcases below with rfl | ⟨mantissa, exponent, positive, rfl⟩
  · rcases one with (_ | _) | _ | _ | ⟨_ | _, _⟩ <;> first | rfl | cases less
  · rcases one with (_ | _) | _ | _ | ⟨_ | _, _⟩ <;> first | rfl | cases less

/-- The bits of a positive sign never show a negative number. -/
theorem compare_unpack_packComponents (exponent : BitVec 11) (fraction : BitVec 52) :
    UnpackedFloat.compare (UnpackedFloat.unpack .binary64
      (packComponents .binary64 .positive exponent fraction)) (.zero .positive) ≠ some .lt := by
  unfold UnpackedFloat.unpack
  simp only [unpackExponent_packComponents, unpackMantissa_packComponents,
    unpackSign_packComponents, Sign.ofBitVec_toBitVec]
  split
  · split <;> nofun
  · split
    · split <;> nofun
    · nofun

theorem compare_unpack_pack {unpacked : UnpackedFloat}
    (notNegative : UnpackedFloat.compare unpacked (.zero .positive) ≠ some .lt) :
    UnpackedFloat.compare (UnpackedFloat.unpack .binary64 (UnpackedFloat.pack .binary64 unpacked))
      (.zero .positive) ≠ some .lt := by
  cases unpacked with
  | notANumber => nofun
  | zero sign => cases sign <;> nofun
  | infinity sign =>
    cases sign with
    | negative => exact absurd rfl notNegative
    | positive => exact compare_unpack_packComponents _ _
  | finite sign mantissa exponent above =>
    cases sign with
    | negative => exact absurd rfl notNegative
    | positive =>
      unfold UnpackedFloat.pack
      dsimp only
      split
      · exact compare_unpack_packComponents _ _
      · split
        · exact compare_unpack_packComponents _ _
        · exact compare_unpack_packComponents _ _

theorem compare_roundWithAccuracy (mantissa : Nat) (exponent : Int) (accuracy : Accuracy) :
    UnpackedFloat.compare (roundWithAccuracy .binary64 .positive mantissa exponent accuracy)
      (.zero .positive) ≠ some .lt := by
  unfold roundWithAccuracy
  dsimp only
  split <;> nofun

/-- A quotient by a positive number is negative only where the dividend is. -/
theorem div_not_negative (notNegative : ¬first < 0.0) (above : 0.0 < second) :
    ¬first / second < 0.0 := by
  have zero : (0.0 : Float).toModel.unpack = .zero .positive := by rfl
  have quotient : (first / second).toModel.unpack =
      UnpackedFloat.unpack .binary64 (UnpackedFloat.pack .binary64
        (UnpackedFloat.div .binary64 first.toModel.unpack second.toModel.unpack)) := rfl
  rw [lt_iff_compare, zero] at notNegative above ⊢
  rw [quotient]
  apply compare_unpack_pack
  generalize first.toModel.unpack = one at notNegative
  generalize second.toModel.unpack = two at above
  rcases two with (_ | _) | _ | _ | ⟨_ | _, other, place, positive⟩
  · cases above
  · rcases one with (_ | _) | _ | _ | ⟨_ | _, _⟩ <;> nofun
  · cases above
  · cases above
  · cases above
  · -- Only what is finite is rounded.
    rcases one with (_ | _) | _ | (_ | _) | ⟨_ | _, mantissa, exponent, some_bits⟩
    · exact absurd rfl notNegative
    · nofun
    · nofun
    · nofun
    · nofun
    · exact absurd rfl notNegative
    · exact compare_roundWithAccuracy _ _ _

end

end PriceRelay.Binary

namespace PriceRelay.Number

open Binary

/-- The largest of some values. What is not a number does not count, and zero stands in where
nothing counts. -/
structure IsLargest (values : List Float) (largest : Float) : Prop where
  bound : ∀ value ∈ values, value.isNaN = false → value ≤ largest
  attained : largest ∈ values ∨ (∀ value ∈ values, value.isNaN = true) ∧ largest = 0.0

section

variable {first second : Float}

theorem larger_of_notNumber (lost : first.isNaN = true) : larger first second = second :=
  if_pos lost

theorem larger_of_number (one : first.isNaN = false) :
    larger first second =
      if second.isNaN then first else if first < second then second else first := by
  rw [larger, one, if_neg Bool.false_ne_true]

theorem larger_of_numbers (one : first.isNaN = false) (two : second.isNaN = false) :
    larger first second = if first < second then second else first := by
  rw [larger_of_number one, two, if_neg Bool.false_ne_true]

theorem larger_isLargest (first second : Float) :
    IsLargest [first, second] (larger first second) := by
  cases one : first.isNaN with
  | true =>
    rw [larger_of_notNumber one]
    refine ⟨?_, .inl (by simp)⟩
    intro value member number
    rcases List.mem_pair.mp member with rfl | rfl
    · exact absurd (one.symm.trans number) Bool.noConfusion
    · exact le_self number
  | false =>
    cases two : second.isNaN with
    | true =>
      rw [larger_of_number one, if_pos two]
      refine ⟨?_, .inl (by simp)⟩
      intro value member number
      rcases List.mem_pair.mp member with rfl | rfl
      · exact le_self number
      · exact absurd (two.symm.trans number) Bool.noConfusion
    | false =>
      rw [larger_of_numbers one two]
      refine ⟨?_, .inl (by split <;> simp)⟩
      intro value member number
      by_cases less : first < second
      · rw [if_pos less]
        rcases List.mem_pair.mp member with rfl | rfl
        · exact le_of_lt less
        · exact le_self number
      · rw [if_neg less]
        rcases List.mem_pair.mp member with rfl | rfl
        · exact le_self number
        · exact le_of_not_lt one two less

theorem isNaN_zero : (0.0 : Float).isNaN = false := rfl

theorem isNaN_of_isFinite {value : Float} (finite : value.isFinite = true) :
    value.isNaN = false := by
  have number : value.toModel.unpack.isFinite = true := finite
  change value.toModel.unpack.isNaN = false
  cases unpacked : value.toModel.unpack <;> rw [unpacked] at number <;> first | rfl | cases number

theorem larger_zero_isLargest (notNegative : ¬first < 0.0) :
    IsLargest [first] (larger first 0.0) := by
  cases number : first.isNaN with
  | true =>
    rw [larger_of_notNumber number]
    refine ⟨?_, .inr ⟨?_, rfl⟩⟩
    · intro value member counts
      obtain rfl := List.mem_singleton.mp member
      exact absurd (number.symm.trans counts) Bool.noConfusion
    · intro value member
      obtain rfl := List.mem_singleton.mp member
      exact number
  | false =>
    rw [larger_of_numbers number isNaN_zero, if_neg notNegative]
    refine ⟨?_, .inl (by simp)⟩
    intro value member counts
    obtain rfl := List.mem_singleton.mp member
    exact le_self counts

theorem larger_not_negative (number : first.isNaN = false) (notNegative : ¬first < 0.0) :
    (larger first second).isNaN = false ∧ ¬larger first second < 0.0 := by
  cases other : second.isNaN with
  | true =>
    rw [larger_of_number number, if_pos other]
    exact ⟨number, notNegative⟩
  | false =>
    rw [larger_of_numbers number other]
    by_cases less : first < second
    · rw [if_pos less]
      exact ⟨other, fun negative => notNegative (negative_of_lt less negative)⟩
    · rw [if_neg less]
      exact ⟨number, notNegative⟩

end

end PriceRelay.Number
