import PriceRelay.Bytes.Basic
/-!
Bytes that were written, read again: pieces of a known length, and numbers without leading zeros.
-/

namespace PriceRelay

/-- What is read as it was written is written differently for different values. -/
theorem eq_iff_of_reads {α β : Type} {write : α → β} {read? : β → Option α}
    (reads : ∀ value, read? (write value) = some value) {first second : α} :
    write first = write second ↔ first = second := by
  constructor
  · intro same
    have read := congrArg read? same
    rwa [reads, reads, Option.some_inj] at read
  · rintro rfl
    rfl

theorem FixedBytes.ofBytes?_bytes {size : Nat} (value : FixedBytes size) :
    ofBytes? size value.bytes = some value := by
  rw [ofBytes?, dif_pos value.length_eq]

namespace Bytes

theorem split?_append {first : Bytes} {size : Nat} (sized : first.length = size) (rest : Bytes) :
    split? size (first ++ rest) = some (first, rest) := by
  rw [split?, if_pos (by simp [sized]), List.take_left' sized, List.drop_left' sized]

theorem toNat_foldl (start : Nat) (bytes : Bytes) :
    bytes.foldl (fun value byte => value * 256 + byte.toNat) start =
      start * 256 ^ bytes.length + bytes.toNat := by
  induction bytes generalizing start with
  | nil => simp [toNat]
  | cons byte rest ih =>
    rw [toNat, List.foldl_cons, List.foldl_cons, ih, ih (0 * 256 + byte.toNat), List.length_cons,
      Nat.pow_succ, Nat.zero_mul, Nat.zero_add, Nat.add_mul, Nat.mul_assoc, Nat.mul_comm 256,
      Nat.add_assoc]

theorem toNat_cons (byte : UInt8) (rest : Bytes) :
    toNat (byte :: rest) = byte.toNat * 256 ^ rest.length + toNat rest := by
  rw [toNat, List.foldl_cons, toNat_foldl, Nat.zero_mul, Nat.zero_add]

theorem toNat_lt (bytes : Bytes) : toNat bytes < 256 ^ bytes.length := by
  induction bytes with
  | nil => decide
  | cons byte rest ih =>
    rw [toNat_cons, List.length_cons, Nat.pow_succ, Nat.mul_comm _ 256]
    have below : byte.toNat + 1 ≤ 256 := byte.toNat_lt
    have spread := Nat.mul_le_mul_right (256 ^ rest.length) below
    rw [Nat.add_mul, Nat.one_mul] at spread
    exact Nat.lt_of_lt_of_le (Nat.add_lt_add_left ih _) spread

theorem length_minimal (value : Nat) : (minimal value).length = width value := length_ofNat _ _

theorem lt_width (value : Nat) : value < 256 ^ width value := by
  unfold width
  split
  case isTrue zero =>
    subst zero
    decide
  case isFalse positive =>
    have bits : value.log2 + 1 ≤ 8 * (value.log2 / 8 + 1) := by omega
    calc value < 2 ^ (value.log2 + 1) := Nat.lt_log2_self
      _ ≤ 2 ^ (8 * (value.log2 / 8 + 1)) := Nat.pow_le_pow_right (by decide) bits
      _ = 256 ^ (value.log2 / 8 + 1) := Nat.pow_mul 2 8 _

theorem width_le {value size : Nat} (fits : value < 256 ^ size) : width value ≤ size := by
  unfold width
  split
  case isTrue => exact Nat.zero_le _
  case isFalse positive =>
    have bits : 2 ^ value.log2 < 2 ^ (8 * size) := by
      rw [Nat.pow_mul]
      exact Nat.lt_of_le_of_lt (Nat.log2_self_le positive) fits
    have short := (Nat.pow_lt_pow_iff_right (by decide)).mp bits
    omega

theorem toNat_minimal (value : Nat) : toNat (minimal value) = value :=
  toNat_ofNat_of_lt (lt_width value)

theorem head?_minimal (value : Nat) : (minimal value).head? ≠ some 0 := by
  intro zero
  obtain ⟨rest, written⟩ := List.head?_eq_some_iff.mp zero
  have same : toNat rest = value := by
    rw [← toNat_minimal value, written, toNat_cons]
    simp
  have shorter := width_le (same ▸ toNat_lt rest)
  rw [← length_minimal, written, List.length_cons] at shorter
  exact Nat.not_succ_le_self _ shorter

end Bytes

end PriceRelay
