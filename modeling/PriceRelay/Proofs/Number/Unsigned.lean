import PriceRelay.Proofs.Number.Order
/-!
Numbers without a minus sign. They are in the order of their bits, so two of them that come no later
than each other are the same, which is not so for a zero with a sign. Magnitudes and products of
such numbers are of this kind again.
-/

namespace PriceRelay.Binary

open Float.Model Float.Model.UnpackedFloat

/-- There is no minus sign; what is not a number has no sign. -/
def Plain : UnpackedFloat → Prop
  | .notANumber => True
  | .infinity sign => sign = .positive
  | .zero sign => sign = .positive
  | .finite sign _ _ _ => sign = .positive

theorem plain_number {sign : Sign} {mantissa : Nat} {exponent : Int} :
    Plain (number sign mantissa exponent) ↔ sign = .positive := by
  unfold number
  split <;> rfl

theorem plain_abs (unpacked : UnpackedFloat) : Plain unpacked.abs := by
  cases unpacked with
  | notANumber => trivial
  | infinity sign => rfl
  | zero sign => rfl
  | finite sign mantissa exponent positive => rfl

theorem plain_roundWithAccuracy (mantissa : Nat) (exponent : Int) (accuracy : Accuracy) :
    Plain (roundWithAccuracy .binary64 .positive mantissa exponent accuracy) := by
  unfold roundWithAccuracy
  dsimp only
  split <;> rfl

theorem Plain.mul {first second : UnpackedFloat} (one : Plain first) (two : Plain second) :
    Plain (UnpackedFloat.mul .binary64 first second) := by
  cases first <;> cases second <;> cases one <;> cases two <;>
    first | trivial | rfl | exact plain_roundWithAccuracy _ _ _

theorem plain_unpack_packComponents (exponent : BitVec 11) (fraction : BitVec 52) :
    Plain (UnpackedFloat.unpack .binary64
      (packComponents .binary64 .positive exponent fraction)) := by
  unfold UnpackedFloat.unpack
  simp only [unpackExponent_packComponents, unpackMantissa_packComponents,
    unpackSign_packComponents, Sign.ofBitVec_toBitVec]
  split
  · split <;> trivial
  · split
    · split <;> rfl
    · rfl

theorem Plain.pack {unpacked : UnpackedFloat} (plain : Plain unpacked) :
    Plain (UnpackedFloat.unpack .binary64 (UnpackedFloat.pack .binary64 unpacked)) := by
  cases unpacked with
  | notANumber => exact plain_unpack_packComponents _ _
  | infinity sign =>
    cases plain
    exact plain_unpack_packComponents _ _
  | zero sign =>
    cases plain
    exact plain_unpack_packComponents _ _
  | finite sign mantissa exponent positive =>
    cases plain
    unfold UnpackedFloat.pack
    dsimp only
    split
    · exact plain_unpack_packComponents _ _
    · split
      · exact plain_unpack_packComponents _ _
      · exact plain_unpack_packComponents _ _

/-- The bits of a number without a sign: its exponent, counted from the least one, and its
mantissa. -/
inductive Spells : Nat → UnpackedFloat → Prop where
  | infinite : Spells (2047 * 2 ^ 52) (.infinity .positive)
  | finite {word mantissa : Nat} {exponent : Int} (canonical : Canonical mantissa exponent)
      (fits : exponent ≤ maxExponent)
      (place : word = (exponent - minExponent) * 2 ^ 52 + mantissa) :
      Spells word (number .positive mantissa exponent)

theorem signOf_eq_positive_iff {negative : Bool} :
    signOf negative = .positive ↔ negative = false := by
  cases negative <;> simp [signOf]

theorem Views.spells {word : UInt64} {unpacked : UnpackedFloat}
    (views : Views (ofBits word) unpacked) (number : unpacked.isNaN = false)
    (plain : Plain unpacked) : Spells word.toNat unpacked := by
  have bit : leadingBit = 2 ^ 52 := rfl
  have bottom : minExponent = -1074 := rfl
  have whole : word.toNat < 2 ^ 64 := word.toNat_lt
  have unsigned (positive : signOf (decide (2 ^ 63 ≤ word.toNat)) = .positive) :
      word.toNat < 2 ^ 63 := by
    simpa using signOf_eq_positive_iff.mp positive
  unfold ofBits at views
  dsimp only at views
  split at views
  case isTrue full =>
    split at views
    case isTrue none =>
      obtain rfl := views
      have small := unsigned plain
      have same : word.toNat = 2047 * 2 ^ 52 := by omega
      rw [plain, same]
      exact .infinite
    case isFalse =>
      obtain rfl := views
      cases number
  case isFalse finite =>
    split at views
    case isTrue least =>
      obtain ⟨canonical, -, rfl⟩ := views
      rw [plain_number] at plain
      have small := unsigned plain
      rw [plain]
      exact .finite canonical (by decide) (by omega)
    case isFalse normal =>
      obtain ⟨canonical, fits, rfl⟩ := views
      rw [plain_number] at plain
      have small := unsigned plain
      rw [plain]
      exact .finite canonical fits (by omega)

/-- Of what has no sign, the one with the greater word is the greater one. -/
theorem Spells.le_iff {word other : Nat} {first second : UnpackedFloat} (one : Spells word first)
    (two : Spells other second) :
    (UnpackedFloat.compare first second).any (·.isLE) = true ↔ word ≤ other := by
  have bit : leadingBit = 2 ^ 52 := rfl
  have bottom : minExponent = -1074 := rfl
  have top : maxExponent = 971 := rfl
  cases one with
  | infinite =>
    cases two with
    | infinite => exact iff_of_true rfl (Nat.le_refl _)
    | finite canonical fits place =>
      have short := canonical.short
      refine iff_of_false ?_ (by omega)
      unfold number
      split <;> nofun
  | finite canonical fits place =>
    rename_i mantissa exponent
    obtain ⟨short, least, full⟩ := canonical
    cases two with
    | infinite =>
      refine iff_of_true ?_ (by omega)
      unfold number
      split <;> rfl
    | finite canonical fits' place' =>
      rename_i mantissa' exponent'
      obtain ⟨short', least', full'⟩ := canonical
      unfold number
      by_cases none : mantissa = 0
      · rw [dif_pos none]
        refine iff_of_true ?_ (by omega)
        split <;> rfl
      · rw [dif_neg none]
        by_cases none' : mantissa' = 0
        · rw [dif_pos none']
          refine iff_of_false nofun (by omega)
        · rw [dif_neg none']
          change ((compare exponent exponent').then (compare mantissa mantissa')).isLE = true ↔ _
          rw [Ordering.isLE_then_iff_or, Int.compare_eq_lt, Int.compare_eq_eq, Nat.isLE_compare]
          omega

end PriceRelay.Binary

namespace PriceRelay.Number

open Binary

/-- A number without a minus sign. -/
structure Unsigned (value : Float) : Prop where
  number : value.isNaN = false
  plain : Plain value.toModel.unpack

/-- The bits of a number, read as a natural number. -/
def bits (value : Float) : Nat := value.toBits.toNat

theorem bits_inj {first second : Float} (same : bits first = bits second) : first = second := by
  obtain ⟨⟨one, _⟩⟩ := first
  obtain ⟨⟨two, _⟩⟩ := second
  obtain rfl : one = two := UInt64.toNat_inj.mp same
  rfl

section

variable {first second : Float}

theorem Unsigned.spells (unsigned : Unsigned first) : Spells (bits first) first.toModel.unpack :=
  (ofFloat_views first).spells unsigned.number unsigned.plain

theorem Unsigned.le_iff (one : Unsigned first) (two : Unsigned second) :
    first ≤ second ↔ bits first ≤ bits second := by
  rw [le_iff_compare]
  exact one.spells.le_iff two.spells

theorem Unsigned.antisymm (one : Unsigned first) (two : Unsigned second) (least : first ≤ second)
    (most : second ≤ first) : first = second :=
  bits_inj (Nat.le_antisymm ((one.le_iff two).mp least) ((two.le_iff one).mp most))

theorem unsigned_zero : Unsigned 0.0 := ⟨rfl, rfl⟩

theorem unsigned_greatest : Unsigned greatest := ⟨by decide +kernel, by rfl⟩

theorem unsigned_of_positive (above : 0.0 < first) : Unsigned first := by
  have zero : (0.0 : Float).toModel.unpack = .zero .positive := by rfl
  have opened : first.isNaN = first.toModel.unpack.isNaN := rfl
  rw [lt_iff_compare, zero] at above
  constructor
  · rw [opened]
    generalize first.toModel.unpack = unpacked at above
    cases unpacked with
    | notANumber => cases above
    | infinity sign => rfl
    | zero sign => rfl
    | finite sign mantissa exponent positive => rfl
  · generalize first.toModel.unpack = unpacked at above
    rcases unpacked with (_ | _) | _ | _ | ⟨_ | _, _⟩ <;> first | rfl | cases above

theorem unsigned_abs_mul (first : Float) (two : Unsigned second)
    (number : (first.abs * second).isNaN = false) : Unsigned (first.abs * second) := by
  have product : (first.abs * second).toModel.unpack =
      Float.Model.UnpackedFloat.unpack .binary64 (Float.Model.UnpackedFloat.pack .binary64
        (Float.Model.UnpackedFloat.mul .binary64 first.abs.toModel.unpack
          second.toModel.unpack)) := rfl
  have magnitude : first.abs.toModel.unpack =
      Float.Model.UnpackedFloat.unpack .binary64 (Float.Model.UnpackedFloat.pack .binary64
        first.toModel.unpack.abs) := rfl
  refine ⟨number, ?_⟩
  rw [product, magnitude]
  exact ((plain_abs _).pack.mul two.plain).pack

theorem Unsigned.larger (one : Unsigned first) (two : second.isNaN = false → Unsigned second) :
    Unsigned (larger first second) ∧ ∀ bound, Unsigned bound →
      (bound ≤ Number.larger first second ↔
        bound ≤ first ∨ second.isNaN = false ∧ bound ≤ second) := by
  cases lost : second.isNaN with
  | true =>
    rw [larger_of_number one.number, if_pos lost]
    exact ⟨one, fun bound _ => by simp⟩
  | false =>
    have other := two lost
    rw [larger_of_numbers one.number lost]
    by_cases less : first < second
    · rw [if_pos less]
      refine ⟨other, fun bound unsigned => ?_⟩
      have order := (one.le_iff other).mp (le_of_lt less)
      rw [unsigned.le_iff one, unsigned.le_iff other, eq_self, true_and]
      omega
    · rw [if_neg less]
      refine ⟨one, fun bound unsigned => ?_⟩
      have order := (other.le_iff one).mp (le_of_not_lt one.number lost less)
      rw [unsigned.le_iff one, unsigned.le_iff other, eq_self, true_and]
      omega

theorem not_le_zero (above : 0.0 < first) : ¬first ≤ 0.0 := by
  intro most
  have unsigned := unsigned_of_positive above
  have least := (unsigned_zero.le_iff unsigned).mpr (Nat.zero_le _)
  rw [unsigned.antisymm unsigned_zero most least] at above
  exact absurd above (by decide)

end

/-- The largest of some numbers without a sign, found one by one from a start, is reached by what
one of them reaches. -/
theorem Unsigned.foldl_larger {start : Float} (unsigned : Unsigned start) {values : List Float}
    (plain : ∀ value ∈ values, value.isNaN = false → Unsigned value) :
    Unsigned (values.foldl Number.larger start) ∧ ∀ bound, Unsigned bound →
      (bound ≤ values.foldl Number.larger start ↔
        bound ≤ start ∨ ∃ value ∈ values, value.isNaN = false ∧ bound ≤ value) := by
  induction values generalizing start with
  | nil => exact ⟨unsigned, by simp⟩
  | cons value rest ih =>
    obtain ⟨first, others⟩ := List.forall_mem_cons.mp plain
    obtain ⟨next, step⟩ := unsigned.larger first
    obtain ⟨final, run⟩ := ih next others
    refine ⟨final, fun bound plainBound => ?_⟩
    rw [List.foldl_cons, run bound plainBound, step bound plainBound, List.exists_mem_cons_iff,
      or_assoc]

section

variable {values others : List Float}
  (plain : ∀ value ∈ values, value.isNaN = false → Unsigned value)

include plain

theorem foldl_larger_isLargest : IsLargest values (values.foldl larger 0.0) := by
  obtain ⟨unsigned, reached⟩ := unsigned_zero.foldl_larger plain
  have bound : ∀ value ∈ values, value.isNaN = false → value ≤ values.foldl larger 0.0 := by
    intro value member number
    exact (reached value (plain value member number)).mpr
      (.inr ⟨value, member, number, le_self number⟩)
  have among {value : Float} (member : value ∈ values) (number : value.isNaN = false)
      (most : values.foldl larger 0.0 ≤ value) : values.foldl larger 0.0 ∈ values := by
    rwa [unsigned.antisymm (plain value member number) most (bound value member number)]
  refine ⟨bound, ?_⟩
  rcases (reached _ unsigned).mp (le_self unsigned.number) with zero | ⟨value, member, number, most⟩
  · have least := (unsigned_zero.le_iff unsigned).mpr (Nat.zero_le _)
    have same := unsigned.antisymm unsigned_zero zero least
    by_cases counts : ∃ value ∈ values, value.isNaN = false
    · obtain ⟨value, member, number⟩ := counts
      refine .inl (among member number ?_)
      rw [same]
      exact (unsigned_zero.le_iff (plain value member number)).mpr (Nat.zero_le _)
    · exact .inr ⟨by simpa using counts, same⟩
  · exact .inl (among member number most)

theorem foldl_larger_congr (same : ∀ value, value ∈ others ↔ value ∈ values) :
    others.foldl larger 0.0 = values.foldl larger 0.0 := by
  have plain' : ∀ value ∈ others, value.isNaN = false → Unsigned value :=
    fun value member => plain value ((same value).mp member)
  obtain ⟨one, reached⟩ := unsigned_zero.foldl_larger plain'
  obtain ⟨two, reached'⟩ := unsigned_zero.foldl_larger plain
  have both (bound : Float) (unsigned : Unsigned bound) :
      bound ≤ others.foldl larger 0.0 ↔ bound ≤ values.foldl larger 0.0 := by
    simp only [reached bound unsigned, reached' bound unsigned, same]
  exact one.antisymm two ((both _ one).mp (le_self one.number))
    ((both _ two).mpr (le_self two.number))

end

end PriceRelay.Number
