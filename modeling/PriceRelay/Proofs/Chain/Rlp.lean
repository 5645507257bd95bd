import PriceRelay.Chain.Rlp
import PriceRelay.Proofs.Bytes.Written
/-!
Values in the recursive length format are read as they were written, whatever stands behind them.
-/

namespace PriceRelay.Rlp

def lengthBound : Nat := 2 ^ 64

/-- What is read of a frame: a first byte of its kind, and the content from what follows. -/
structure Frames (kind : Nat) (content rest : Bytes) (first : UInt8) (tail : Bytes) : Prop where
  lower : kind ≤ first.toNat
  upper : first.toNat ≤ kind + 63
  read : content? kind first.toNat tail = some (content, rest)

theorem toNat_first {value : Nat} (fits : value < 256) : (UInt8.ofNat value).toNat = value := by
  rw [UInt8.toNat_ofNat', Nat.mod_eq_of_lt fits]

theorem length_size_le {length : Nat} (short : length < lengthBound) :
    (Bytes.minimal length).length ≤ 8 := by
  rw [Bytes.length_minimal]
  exact Bytes.width_le short

theorem frames_short {kind : Nat} {content : Bytes} (low : kind + 63 < 256)
    (short : content.length ≤ shortLimit) (rest : Bytes) :
    Frames kind content rest (UInt8.ofNat (kind + content.length)) (content ++ rest) := by
  have limit : content.length ≤ 55 := short
  have first := toNat_first (by omega : kind + content.length < 256)
  constructor
  case lower => omega
  case upper => omega
  case read =>
    rw [first, content?, Nat.add_sub_cancel_left, if_pos short]
    exact Bytes.split?_append rfl rest

theorem frames_long {kind : Nat} {content : Bytes} (low : kind + 63 < 256)
    (long : shortLimit < content.length) (short : content.length < lengthBound) (rest : Bytes) :
    let size := Bytes.minimal content.length
    Frames kind content rest (UInt8.ofNat (kind + shortLimit + size.length))
      (size ++ (content ++ rest)) := by
  intro size
  have sized : size.length ≤ 8 := length_size_le short
  have nonempty : size.length ≠ 0 := by
    intro empty
    have fits := Bytes.lt_width content.length
    rw [← Bytes.length_minimal, empty] at fits
    exact absurd long (Nat.not_lt.mpr (Nat.le_of_lt_succ (Nat.lt_trans fits (by decide))))
  have limit : shortLimit = 55 := rfl
  have first := toNat_first (by omega : kind + shortLimit + size.length < 256)
  constructor
  case lower => omega
  case upper => omega
  case read =>
    have behind : kind + shortLimit + size.length - kind = shortLimit + size.length := by omega
    have far : ¬(size.head? = some 0 || size.toNat ≤ shortLimit) = true := by
      simp only [Bool.or_eq_true, decide_eq_true_eq, not_or]
      exact ⟨Bytes.head?_minimal _, Nat.not_le.mpr (Bytes.toNat_minimal _ ▸ long)⟩
    have split := Bytes.split?_append (rfl : size.length = size.length) (content ++ rest)
    rw [first, content?, behind, if_neg (by omega), Nat.add_sub_cancel_left, split]
    simp only [Option.bind_eq_bind, Option.bind_some, if_neg far]
    exact Bytes.split?_append (Bytes.toNat_minimal _).symm rest

theorem exists_frames (kind : Nat) {content : Bytes} (low : kind + 63 < 256)
    (short : content.length < lengthBound) (rest : Bytes) :
    ∃ first tail, frame kind content ++ rest = first :: tail ∧
      Frames kind content rest first tail := by
  unfold frame
  dsimp only
  split
  case isTrue within => exact ⟨_, _, rfl, frames_short low within rest⟩
  case isFalse beyond =>
    refine ⟨_, _, ?_, frames_long low (Nat.lt_of_not_le beyond) short rest⟩
    rw [List.append_assoc, List.cons_append]

theorem length_frame (kind : Nat) (content : Bytes) :
    content.length < (frame kind content).length := by
  unfold frame
  dsimp only
  split
  case isTrue => simp
  case isFalse =>
    simp only [List.length_cons, List.length_append]
    omega

theorem length_encodeBytes (content : Bytes) : content.length ≤ (encodeBytes content).length := by
  unfold encodeBytes
  split
  case h_1 byte =>
    split
    case isTrue => exact Nat.le_refl 1
    case isFalse => exact Nat.le_of_lt (length_frame _ _)
  case h_2 => exact Nat.le_of_lt (length_frame _ _)

theorem encodeBytes_ne_nil (content : Bytes) : encodeBytes content ≠ [] := by
  intro empty
  have bound := length_encodeBytes content
  rw [empty] at bound
  obtain rfl := List.length_eq_zero_iff.mp (Nat.le_zero.mp bound)
  cases empty

theorem encode_ne_nil (value : Rlp) : encode value ≠ [] := by
  cases value with
  | bytes content =>
    rw [encode]
    exact encodeBytes_ne_nil content
  | list items =>
    rw [encode]
    exact List.ne_nil_of_length_pos (Nat.zero_lt_of_lt (length_frame _ _))

/-- A byte string in a frame is read, unless it is a byte that needs none. -/
theorem read?_frame_bytes {content : Bytes}
    (framed : ∀ byte, content = [byte] → ¬byte.toNat < bytesKind)
    (short : content.length < lengthBound) (fuel : Nat) (rest : Bytes) :
    read? (fuel + 1) (frame bytesKind content ++ rest) = some (.bytes content, rest) := by
  obtain ⟨first, tail, same, lower, upper, read⟩ := exists_frames bytesKind (by decide) short rest
  have kind : first.toNat < listKind := Nat.lt_of_le_of_lt upper (by decide)
  rw [same, read?, if_neg (Nat.not_lt.mpr lower), if_pos kind, read]
  simp only [Option.bind_eq_bind, Option.bind_some]
  split
  case h_1 byte => rw [if_neg (framed byte rfl), Option.pure_def]
  case h_2 => rw [Option.pure_def]

theorem read?_encodeBytes {content : Bytes} (short : content.length < lengthBound) (fuel : Nat)
    (rest : Bytes) :
    read? (fuel + 1) (encodeBytes content ++ rest) = some (.bytes content, rest) := by
  unfold encodeBytes
  split
  case h_1 byte =>
    split
    case isTrue low => rw [List.singleton_append, read?, if_pos low]
    case isFalse high =>
      exact read?_frame_bytes (fun other same => by cases same; exact high) short fuel rest
  case h_2 more =>
    exact read?_frame_bytes (fun byte same => absurd same (more byte)) short fuel rest

mutual

/-- How much fuel it takes to read a value. -/
def rounds : Rlp → Nat
  | .bytes _ => 1
  | .list items => roundsAll items + 1

def roundsAll : List Rlp → Nat
  | [] => 0
  | item :: items => max (rounds item) (roundsAll items) + 1

end

mutual

/-- A written value is read, and what stands behind it is left. -/
theorem read?_encode (value : Rlp) {fuel : Nat} (short : (encode value).length < lengthBound)
    (enough : rounds value ≤ fuel) (rest : Bytes) :
    read? fuel (encode value ++ rest) = some (value, rest) := by
  cases value with
  | bytes content =>
    rw [rounds] at enough
    obtain ⟨fuel, rfl⟩ := Nat.exists_eq_add_of_le' enough
    rw [encode] at short ⊢
    exact read?_encodeBytes (Nat.lt_of_le_of_lt (length_encodeBytes content) short) fuel rest
  | list items =>
    rw [rounds] at enough
    obtain ⟨fuel, rfl⟩ := Nat.exists_eq_add_of_le' (Nat.le_of_add_left_le enough)
    rw [encode] at short ⊢
    have within := Nat.lt_trans (length_frame listKind (encodeAll items)) short
    obtain ⟨first, tail, same, lower, upper, read⟩ := exists_frames listKind (by decide) within rest
    have items_read : readAll? fuel (encodeAll items) = some items :=
      readAll?_encodeAll items within (Nat.le_of_succ_le_succ enough)
    have high : ¬first.toNat < bytesKind := Nat.not_lt.mpr (Nat.le_trans (by decide) lower)
    rw [same, read?, if_neg high, if_neg (Nat.not_lt.mpr lower), read]
    simp only [Option.bind_eq_bind, Option.bind_some, items_read, Option.pure_def]

theorem readAll?_encodeAll (items : List Rlp) {fuel : Nat}
    (short : (encodeAll items).length < lengthBound) (enough : roundsAll items ≤ fuel) :
    readAll? fuel (encodeAll items) = some items := by
  cases items with
  | nil => rw [encodeAll, readAll?]
  | cons item items =>
    rw [roundsAll] at enough
    obtain ⟨fuel, rfl⟩ := Nat.exists_eq_add_of_le' (Nat.le_of_add_left_le enough)
    obtain ⟨first, later⟩ := Nat.max_le.mp (Nat.le_of_succ_le_succ enough)
    rw [encodeAll] at short ⊢
    rw [List.length_append] at short
    have item_read := read?_encode item (by omega) first (encodeAll items)
    have items_read := readAll?_encodeAll items (by omega) later
    rw [readAll?, item_read]
    · simp only [Option.bind_eq_bind, Option.bind_some, items_read, Option.pure_def]
    · exact fun empty => encode_ne_nil item (List.append_eq_nil_iff.mp empty).1

end

theorem natural?_natural {bound value : Nat} (fits : value < bound) :
    natural? bound (natural value) = some value := by
  rw [natural, natural?, if_neg (Bytes.head?_minimal value)]
  simp only [Bytes.toNat_minimal, if_pos fits]

theorem length_le_encodeAll (items : List Rlp) : items.length ≤ (encodeAll items).length := by
  induction items with
  | nil => exact Nat.zero_le _
  | cons item items ih =>
    have nonempty := List.length_pos_iff.mpr (encode_ne_nil item)
    rw [encodeAll, List.length_append, List.length_cons]
    omega

theorem roundsAll_le {items : List Rlp} (flat : ∀ item ∈ items, rounds item = 1) :
    roundsAll items ≤ items.length + 1 := by
  induction items with
  | nil => exact Nat.zero_le _
  | cons item items ih =>
    have rest := ih fun other member => flat other (List.mem_cons_of_mem _ member)
    rw [roundsAll, flat item List.mem_cons_self, List.length_cons]
    omega

/-- A list without lists that have items is read from its bytes, whatever stands behind it. -/
theorem decode?_encode {items : List Rlp} (flat : ∀ item ∈ items, rounds item = 1)
    (short : (encode (.list items)).length < lengthBound) (rest : Bytes) :
    decode? (encode (.list items) ++ rest) = some (.list items, rest) := by
  apply read?_encode (.list items) short
  have content : (encodeAll items).length < (encode (.list items)).length := by
    rw [encode]
    exact length_frame _ _
  have few := roundsAll_le flat
  have lengths := length_le_encodeAll items
  rw [rounds, List.length_append]
  omega

theorem length_frame_le (kind : Nat) {content : Bytes} (short : content.length < lengthBound) :
    (frame kind content).length ≤ content.length + 9 := by
  unfold frame
  dsimp only
  split
  case isTrue => simp
  case isFalse =>
    have sized := length_size_le short
    simp only [List.length_cons, List.length_append]
    omega

theorem length_encode_bytes_le {content : Bytes} (short : content.length < lengthBound) :
    (encode (.bytes content)).length ≤ content.length + 9 := by
  rw [encode, encodeBytes.eq_def]
  split
  case h_1 byte =>
    split
    case isTrue => exact Nat.le_add_right 1 9
    case isFalse => exact length_frame_le bytesKind short
  case h_2 => exact length_frame_le bytesKind short

/-- An item that holds a word of the chain or less. -/
structure Slim (item : Rlp) : Prop where
  flat : rounds item = 1
  short : (encode item).length ≤ 41

theorem bytes_slim {content : Bytes} (short : content.length ≤ 32) : (Rlp.bytes content).Slim := by
  have framed := length_encode_bytes_le (Nat.lt_of_le_of_lt short (by decide))
  exact ⟨by rw [rounds], by omega⟩

theorem natural_slim {bits value : Nat} (narrow : bits ≤ 256) (fits : value < 2 ^ bits) :
    (natural value).Slim := by
  have word : value < 2 ^ 256 := Nat.lt_of_lt_of_le fits (Nat.pow_le_pow_right (by decide) narrow)
  exact bytes_slim (Bytes.length_minimal value ▸ Bytes.width_le word)

theorem list_nil_slim : (Rlp.list []).Slim := ⟨by rw [rounds, roundsAll], by decide⟩

theorem length_encodeAll_append (items others : List Rlp) :
    (encodeAll (items ++ others)).length =
      (encodeAll items).length + (encodeAll others).length := by
  induction items with
  | nil => simp [encodeAll]
  | cons item items ih =>
    simp only [List.cons_append, encodeAll, List.length_append, ih, Nat.add_assoc]

theorem length_encodeAll_le {items : List Rlp} (slim : ∀ item ∈ items, item.Slim) :
    (encodeAll items).length ≤ 41 * items.length := by
  induction items with
  | nil => exact Nat.zero_le _
  | cons item items ih =>
    have first := (slim item List.mem_cons_self).short
    have rest := ih fun other member => slim other (List.mem_cons_of_mem _ member)
    rw [encodeAll, List.length_append, List.length_cons]
    omega

section

variable {front back : List Rlp} {data : Bytes} (before : ∀ item ∈ front, item.Slim)
  (after : ∀ item ∈ back, item.Slim) (few : front.length + back.length ≤ 20)
  (size : data.length < 2 ^ 63)

include before after few size

theorem length_encode_record_lt :
    (encode (.list (front ++ .bytes data :: back))).length < lengthBound := by
  have bound : lengthBound = 2 ^ 64 := rfl
  have framed := length_encode_bytes_le (by omega : data.length < lengthBound)
  have first := length_encodeAll_le before
  have last := length_encodeAll_le after
  have content : (encodeAll (front ++ .bytes data :: back)).length ≤ 2 ^ 63 + 1000 := by
    rw [length_encodeAll_append, encodeAll, List.length_append]
    omega
  have whole := length_frame_le listKind (Nat.lt_of_le_of_lt content (by decide))
  rw [encode]
  omega

/-- A list of a few slim items around one byte string is read as it was written. -/
theorem decode?_record (rest : Bytes) :
    decode? (encode (.list (front ++ .bytes data :: back)) ++ rest) =
      some (.list (front ++ .bytes data :: back), rest) := by
  refine decode?_encode ?_ (length_encode_record_lt before after few size) rest
  intro item member
  rcases List.mem_append.mp member with first | last
  · exact (before item first).flat
  rcases List.mem_cons.mp last with rfl | last
  · rw [rounds]
  · exact (after item last).flat

end

end PriceRelay.Rlp
