import PriceRelay.Bytes.Hex
import PriceRelay.Proofs.Bytes.Written
/-!
Hexadecimal texts, read as what they were written from. The case of a digit does not matter.
-/

namespace PriceRelay.Hex

theorem digitValue?_digit : ∀ value < 16, digitValue? (digit value) = some value := by decide

theorem digitValue?_digitChar : ∀ value < 16, digitValue? value.digitChar = some value := by decide

/-- Only the values of digits decide on what they spell. -/
theorem ofDigits?_congr {digits others : List Char}
    (same : digits.map digitValue? = others.map digitValue?) :
    ofDigits? digits = ofDigits? others := by
  induction digits using ofDigits?.induct generalizing others with
  | case1 =>
    obtain rfl := List.map_eq_nil_iff.mp same.symm
    rfl
  | case2 last =>
    obtain ⟨other, rfl, -⟩ := List.map_eq_singleton_iff.mp same.symm
    rfl
  | case3 high low rest ih =>
    obtain ⟨other, others, rfl, sameHigh, same⟩ := List.map_eq_cons_iff.mp same.symm
    obtain ⟨another, others, rfl, sameLow, same⟩ := List.map_eq_cons_iff.mp same
    rw [ofDigits?, ofDigits?, sameHigh, sameLow, ih same.symm]

theorem ofDigits?_digits (bytes : Bytes) : ofDigits? (digits bytes) = some bytes := by
  induction bytes with
  | nil => rfl
  | cons byte rest ih =>
    have high := digitValue?_digit (byte.toNat / 16) (Nat.div_lt_of_lt_mul byte.toNat_lt)
    have low := digitValue?_digit (byte.toNat % 16) (Nat.mod_lt _ (by decide))
    have whole : UInt8.ofNat (byte.toNat / 16 * 16 + byte.toNat % 16) = byte := by
      rw [Nat.div_add_mod', UInt8.ofNat_toNat]
    rw [digits, List.flatMap_cons, List.cons_append, List.cons_append, List.nil_append, ofDigits?,
      high, low, ← digits, ih]
    simp only [Option.bind_eq_bind, Option.bind_some, Option.pure_def, whole]

theorem decode?_encode (bytes : Bytes) : decode? (encode bytes) = some bytes := by
  rw [decode?, encode, String.toList_ofList]
  exact ofDigits?_digits bytes

theorem encode_inj {first second : Bytes} : encode first = encode second ↔ first = second :=
  eq_iff_of_reads decode?_encode

theorem foldlM_toDigits (value : Nat) :
    (Nat.toDigits 16 value).foldlM (fun value c => (digitValue? c).map (16 * value + ·)) 0 =
      some value := by
  induction value using Nat.strongRecOn with
  | ind value ih =>
    by_cases one : value < 16
    · rw [Nat.toDigits_of_lt_base one, List.foldlM_cons, digitValue?_digitChar value one]
      simp
    · have more : 16 ≤ value := Nat.le_of_not_lt one
      have last := digitValue?_digitChar (value % 16) (Nat.mod_lt _ (by decide))
      rw [Nat.toDigits_of_base_le (by decide) more, List.foldlM_append,
        ih (value / 16) (Nat.div_lt_self (by omega) (by decide))]
      simp [last, Nat.div_add_mod]

theorem toList_quantity (value : Nat) :
    (quantity value).toList = '0' :: 'x' :: Nat.toDigits 16 value := by
  rw [quantity, String.toList_append, String.toList_ofList]
  simp

theorem quantity?_quantity (value : Nat) : quantity? (quantity value) = some value := by
  have reads := foldlM_toDigits value
  obtain ⟨first, rest, digits⟩ : ∃ first rest, Nat.toDigits 16 value = first :: rest :=
    List.exists_cons_of_ne_nil Nat.toDigits_ne_nil
  rw [digits] at reads
  rw [quantity?, toList_quantity, digits]
  exact reads

/-! What can be read as bytes or as a number consists of digits. -/

theorem isSome_of_ofDigits? {digits : List Char} {bytes : Bytes}
    (reads : ofDigits? digits = some bytes) {c : Char} (member : c ∈ digits) :
    (digitValue? c).isSome := by
  induction digits using ofDigits?.induct generalizing bytes with
  | case1 => cases member
  | case2 last => cases reads
  | case3 high low rest ih =>
    rw [ofDigits?] at reads
    obtain ⟨highValue, highReads, reads⟩ := Option.bind_eq_some_iff.mp reads
    obtain ⟨lowValue, lowReads, reads⟩ := Option.bind_eq_some_iff.mp reads
    obtain ⟨others, restReads, -⟩ := Option.bind_eq_some_iff.mp reads
    rcases List.mem_cons.mp member with rfl | member
    · exact Option.isSome_of_eq_some highReads
    rcases List.mem_cons.mp member with rfl | member
    · exact Option.isSome_of_eq_some lowReads
    · exact ih restReads member

theorem isSome_of_foldlM {digits : List Char} {start value : Nat}
    (reads : digits.foldlM (fun value c => (digitValue? c).map (16 * value + ·)) start =
      some value) {c : Char} (member : c ∈ digits) : (digitValue? c).isSome := by
  induction digits generalizing start with
  | nil => cases member
  | cons first rest ih =>
    rw [List.foldlM_cons] at reads
    obtain ⟨next, one, later⟩ := Option.bind_eq_some_iff.mp reads
    rcases List.mem_cons.mp member with rfl | member
    · obtain ⟨digit, reads, -⟩ := Option.map_eq_some_iff.mp one
      exact Option.isSome_of_eq_some reads
    · exact ih later member

end PriceRelay.Hex
