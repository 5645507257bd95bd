import PriceRelay.Number.Power
/-!
Byte strings and their reading as unsigned big-endian numbers.
-/

namespace PriceRelay

abbrev Bytes := List UInt8

namespace Bytes

/-- The big-endian number that the bytes spell. -/
def toNat (bytes : Bytes) : Nat :=
  bytes.foldl (fun value byte => value * 256 + byte.toNat) 0

/-- The low `width` bytes of a number, most significant first. -/
def ofNat : (width : Nat) → (value : Nat) → Bytes
  | 0, _ => []
  | width + 1, value => ofNat width (value / 256) ++ [UInt8.ofNat value]

/-- How many bytes a number needs; none for zero. -/
def width (value : Nat) : Nat :=
  if value = 0 then 0 else value.log2 / 8 + 1

/-- The bytes of a number without leading zeros. -/
def minimal (value : Nat) : Bytes := ofNat (width value) value

/-- `size` zero bytes. -/
def zeros (size : Nat) : Bytes := List.replicate size 0

/-- Zeros in front, up to `size` bytes. -/
def padLeft (size : Nat) (bytes : Bytes) : Bytes := zeros (size - bytes.length) ++ bytes

/-- Zeros behind, up to `size` bytes. -/
def padRight (size : Nat) (bytes : Bytes) : Bytes := bytes ++ zeros (size - bytes.length)

/-- The first `size` bytes and the rest, if there are that many. -/
def split? (size : Nat) (bytes : Bytes) : Option (Bytes × Bytes) :=
  if size ≤ bytes.length then some (bytes.take size, bytes.drop size) else none

theorem length_ofNat (size value : Nat) : (ofNat size value).length = size := by
  induction size generalizing value with
  | zero => rfl
  | succ size ih => simp [ofNat, ih]

theorem toNat_append_singleton (bytes : Bytes) (byte : UInt8) :
    toNat (bytes ++ [byte]) = toNat bytes * 256 + byte.toNat := by
  simp [toNat]

/-- Writing a number and reading it back keeps it modulo the width. -/
theorem toNat_ofNat (size value : Nat) : toNat (ofNat size value) = value % 256 ^ size := by
  induction size generalizing value with
  | zero => simp [ofNat, toNat, Nat.mod_one]
  | succ size ih =>
    rw [ofNat, toNat_append_singleton, ih]
    have : (UInt8.ofNat value).toNat = value % 256 := by simp
    rw [this, Nat.pow_succ, Nat.mul_comm (256 ^ size) 256, Nat.mod_mul]
    omega

theorem toNat_ofNat_of_lt {size value : Nat} (h : value < 256 ^ size) :
    toNat (ofNat size value) = value := by
  rw [toNat_ofNat, Nat.mod_eq_of_lt h]

/-- Reading bytes and writing the number in as many brings them back. -/
theorem ofNat_toNat {size : Nat} {bytes : Bytes} (length : bytes.length = size) :
    ofNat size bytes.toNat = bytes := by
  induction size generalizing bytes with
  | zero =>
    rw [List.length_eq_zero_iff.mp length]
    rfl
  | succ size ih =>
    obtain ⟨first, last, rfl⟩ : ∃ first last, bytes = first ++ [last] := by
      have nonempty : bytes ≠ [] := List.ne_nil_of_length_eq_add_one length
      exact ⟨_, _, (List.dropLast_concat_getLast nonempty).symm⟩
    have shorter : first.length = size := by simpa using length
    have below : last.toNat < 256 := last.toNat_lt
    have head : (toNat first * 256 + last.toNat) / 256 = toNat first := by omega
    have tail : UInt8.ofNat (toNat first * 256 + last.toNat) = last := by
      apply UInt8.toNat_inj.mp
      rw [UInt8.toNat_ofNat']
      omega
    rw [toNat_append_singleton, ofNat, head, tail, ih shorter]

end Bytes

/-- A byte string of a set length. -/
structure FixedBytes (size : Nat) where
  bytes : Bytes
  length_eq : bytes.length = size
  deriving DecidableEq

/-- An account on the chain. -/
abbrev Address := FixedBytes 20

/-- A 32-byte digest or slot. -/
abbrev Hash := FixedBytes 32

namespace FixedBytes

/-- The bytes, when they have the length. -/
def ofBytes? (size : Nat) (bytes : Bytes) : Option (FixedBytes size) :=
  if h : bytes.length = size then some ⟨bytes, h⟩ else none

/-- The bytes that a list begins with. What stands behind them may not be one more byte. -/
def ofItems? {α : Type} (size : Nat) (byte? : α → Option UInt8) (items : List α) :
    Option (FixedBytes size) := do
  if (items[size]?.bind byte?).isSome then none
  ofBytes? size (← (items.take size).mapM byte?)

/-- The low bytes of a number. -/
def ofNat (size value : Nat) : FixedBytes size :=
  ⟨Bytes.ofNat size value, Bytes.length_ofNat size value⟩

/-- One byte over and over. -/
def repeated (size : Nat) (byte : UInt8) : FixedBytes size :=
  ⟨List.replicate size byte, List.length_replicate⟩

def toNat {size : Nat} (value : FixedBytes size) : Nat := value.bytes.toNat

theorem toNat_inj {size : Nat} {a b : FixedBytes size} : a.toNat = b.toNat ↔ a = b := by
  constructor
  · intro same
    obtain ⟨first, firstLength⟩ := a
    obtain ⟨second, secondLength⟩ := b
    have bytes : first = second := by
      rw [← Bytes.ofNat_toNat firstLength, ← Bytes.ofNat_toNat secondLength]
      exact congrArg (Bytes.ofNat size) same
    subst bytes
    rfl
  · rintro rfl
    rfl

/-- Byte strings of one length in the order of their bytes, which is that of their numbers. -/
def le {size : Nat} (a b : FixedBytes size) : Bool := a.toNat ≤ b.toNat

instance {size : Nat} : Inhabited (FixedBytes size) := ⟨repeated size 0⟩

end FixedBytes

end PriceRelay
