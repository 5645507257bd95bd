import PriceRelay.Bytes.Hex
import PriceRelay.Crypto.Keccak
/-!
The mixed-case text of an address: a letter is upper case where the digest of the lower-case digits
has a high half-byte.
-/

namespace PriceRelay

/-- The half-bytes of a byte string, high half first. -/
def nibbles (bytes : Bytes) : List Nat :=
  bytes.flatMap fun byte => [byte.toNat / 16, byte.toNat % 16]

private def upperLetter (c : Char) : Char :=
  if 'a' ≤ c && c ≤ 'f' then Char.ofNat (c.toNat - 32) else c

private def asciiBytes (characters : List Char) : Bytes :=
  characters.map fun c => UInt8.ofNat c.toNat

/-- The checksummed text of an address. -/
def checksummed (address : Address) : String :=
  let digits := Hex.digits address.bytes
  let digest := nibbles (Keccak.digest (asciiBytes digits)).bytes
  let mixed := List.zipWith (fun c nibble => if 8 ≤ nibble then upperLetter c else c) digits digest
  String.ofList ('0' :: 'x' :: mixed)

/-! Apart from their case the digits are those of the address. -/

theorem length_nibbles (bytes : Bytes) : (nibbles bytes).length = 2 * bytes.length := by
  induction bytes with
  | nil => rfl
  | cons byte rest ih =>
    have two : (nibbles (byte :: rest)).length = 2 + (nibbles rest).length := by
      rw [nibbles, List.flatMap_cons, List.length_append]
      rfl
    rw [two, ih, List.length_cons]
    omega

theorem lt_of_mem_nibbles {bytes : Bytes} {nibble : Nat} (member : nibble ∈ nibbles bytes) :
    nibble < 16 := by
  obtain ⟨byte, -, either⟩ := List.mem_flatMap.mp member
  have below : byte.toNat < 256 := byte.toNat_lt
  rcases List.mem_cons.mp either with rfl | low
  · omega
  · obtain rfl := List.mem_singleton.mp low
    omega

theorem digits_eq (bytes : Bytes) : Hex.digits bytes = (nibbles bytes).map Hex.digit := by
  rw [nibbles, List.map_flatMap]
  rfl

private theorem digitValue?_upperLetter : ∀ value < 16,
    Hex.digitValue? (upperLetter (Hex.digit value)) = Hex.digitValue? (Hex.digit value) := by
  decide

theorem checksummed_reads (address : Address) :
    ∃ mixed, checksummed address = String.ofList ('0' :: 'x' :: mixed) ∧
      mixed.map Hex.digitValue? = (Hex.digits address.bytes).map Hex.digitValue? := by
  refine ⟨_, rfl, ?_⟩
  have enough : (Hex.digits address.bytes).length ≤
      (nibbles (Keccak.digest (asciiBytes (Hex.digits address.bytes))).bytes).length := by
    rw [length_nibbles, digits_eq, List.length_map, length_nibbles, address.length_eq,
      FixedBytes.length_eq]
    decide
  have reads (c : Char) (member : c ∈ Hex.digits address.bytes) :
      Hex.digitValue? (upperLetter c) = Hex.digitValue? c := by
    rw [digits_eq] at member
    obtain ⟨value, below, rfl⟩ := List.mem_map.mp member
    exact digitValue?_upperLetter value (lt_of_mem_nibbles below)
  generalize nibbles _ = digest at enough
  generalize Hex.digits address.bytes = digits at enough reads
  induction digits generalizing digest with
  | nil => rfl
  | cons c rest ih =>
    cases digest with
    | nil => cases enough
    | cons nibble digest =>
      have later := ih digest (Nat.le_of_succ_le_succ enough)
        fun other member => reads other (List.mem_cons_of_mem c member)
      have here : Hex.digitValue? (if 8 ≤ nibble then upperLetter c else c) =
          Hex.digitValue? c := by
        split
        · exact reads c List.mem_cons_self
        · rfl
      rw [List.zipWith_cons_cons, List.map_cons, List.map_cons, here, later]

end PriceRelay
