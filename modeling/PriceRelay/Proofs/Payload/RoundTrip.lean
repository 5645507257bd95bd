import PriceRelay.Payload
import PriceRelay.Proofs.Bytes.Utf8
import PriceRelay.Proofs.Number.Products
import PriceRelay.Proofs.Payload.Reading
import PriceRelay.Proofs.Successes
/-!
Writing a payload and reading it back. Writing succeeds exactly for packages whose parts fit their
fields, and the reading shows these packages, the note, and what the payload was put behind.
-/

namespace PriceRelay

/-- The point has a slot and an integer that stands for its value. -/
structure DataPoint.Fits (point : DataPoint) : Prop where
  feed : (Utf8.encode point.feed).length ≤ 31
  value : ∃ value, Payload.scale point.value point.decimals = .ok value

/-- Every part of the package fits its field. -/
structure Package.Fits (package : Package) : Prop where
  signature : package.signature.length = 65
  points : ∀ point ∈ package.points, point.Fits
  timestamp : package.timestamp < 2 ^ 48
  pointCount : package.points.length < 2 ^ 24

/-- What is read is a point, in the form that it has on the chain. -/
structure ReadPoint.Shows (read : ReadPoint) (point : DataPoint) : Prop where
  slot : FeedSlot.ofFeed? point.feed = some read.slot
  value : Payload.scale point.value point.decimals = .ok read.value

structure ReadPackage.Shows (read : ReadPackage) (package : Package) : Prop where
  points : List.Forall₂ ReadPoint.Shows read.points package.points
  timestamp : read.timestamp = package.timestamp
  signature : read.signature = package.signature

namespace Payload

open ReadPayload

/-! What is written, part by part. -/

theorem ofFeed?_isSome_iff {feed : FeedId} :
    (∃ slot, FeedSlot.ofFeed? feed = some slot) ↔ (Utf8.encode feed).length ≤ 31 := by
  unfold FeedSlot.ofFeed? FeedSlot.maxLength
  by_cases fits : (Utf8.encode feed).length ≤ 31
  · simp [fits]
  · simp [fits]

theorem feedSlot_ok_iff {feed : FeedId} {slot : Hash} :
    feedSlot feed = .ok slot ↔ FeedSlot.ofFeed? feed = some slot := by
  unfold feedSlot
  cases FeedSlot.ofFeed? feed <;> simp

theorem encodePoint_ok_iff {point : DataPoint} {bytes : Bytes} :
    encodePoint point = .ok bytes ↔ ∃ read : ReadPoint, read.Shows point ∧
      bytes = read.slot.bytes ++ Bytes.ofNat 32 read.value := by
  rw [encodePoint, bind_ok_iff]
  constructor
  · rintro ⟨slot, slotted, rest⟩
    obtain ⟨value, scaled, same⟩ := bind_ok_iff.mp rest
    cases same
    exact ⟨⟨slot, value⟩, ⟨feedSlot_ok_iff.mp slotted, scaled⟩, rfl⟩
  · rintro ⟨read, shows, rfl⟩
    exact ⟨read.slot, feedSlot_ok_iff.mpr shows.slot,
      bind_ok_iff.mpr ⟨read.value, shows.value, rfl⟩⟩

theorem exists_encodePoint_iff {point : DataPoint} :
    (∃ bytes, encodePoint point = .ok bytes) ↔ point.Fits := by
  constructor
  · rintro ⟨bytes, success⟩
    obtain ⟨read, shows, _⟩ := encodePoint_ok_iff.mp success
    exact ⟨ofFeed?_isSome_iff.mp ⟨_, shows.slot⟩, _, shows.value⟩
  · rintro ⟨feed, value, scaled⟩
    obtain ⟨slot, slotted⟩ := ofFeed?_isSome_iff.mpr feed
    exact ⟨_, encodePoint_ok_iff.mpr ⟨⟨slot, value⟩, ⟨slotted, scaled⟩, rfl⟩⟩

def packageBytes (package : Package) (points : List Bytes) : Bytes :=
  points.flatten ++ Bytes.ofNat 6 package.timestamp ++ Bytes.ofNat 4 32
    ++ Bytes.ofNat 3 package.points.length ++ package.signature

theorem field_ok_iff {width value : Nat} {bytes : Bytes} :
    field width value = .ok bytes ↔ value < 256 ^ width ∧ bytes = Bytes.ofNat width value := by
  unfold field
  by_cases fits : value < 256 ^ width
  · simp [fits, eq_comm]
  · simp [fits]

theorem encodePackage_ok_iff {package : Package} {bytes : Bytes} :
    encodePackage package = .ok bytes ↔ package.signature.length = 65 ∧
      package.timestamp < 2 ^ 48 ∧ package.points.length < 2 ^ 24 ∧
      ∃ points, package.points.mapM encodePoint = .ok points ∧
        bytes = packageBytes package points := by
  unfold encodePackage
  dsimp only
  split
  case isTrue other =>
    constructor
    · intro success
      obtain ⟨_, thrown, _⟩ := bind_ok_iff.mp success
      cases thrown
    · rintro ⟨sized, _⟩
      exact absurd sized other
  case isFalse sized =>
    have size : package.signature.length = 65 := Decidable.not_not.mp sized
    constructor
    · intro success
      obtain ⟨points, written, rest⟩ := bind_ok_iff.mp success
      obtain ⟨timestamp, stamped, rest⟩ := bind_ok_iff.mp rest
      obtain ⟨valueSize, measured, rest⟩ := bind_ok_iff.mp rest
      obtain ⟨count, counted, same⟩ := bind_ok_iff.mp rest
      obtain ⟨timestampFits, rfl⟩ := field_ok_iff.mp stamped
      obtain ⟨_, rfl⟩ := field_ok_iff.mp measured
      obtain ⟨countFits, rfl⟩ := field_ok_iff.mp counted
      cases same
      exact ⟨size, timestampFits, countFits, points, written, rfl⟩
    · rintro ⟨_, timestampFits, countFits, points, written, rfl⟩
      refine bind_ok_iff.mpr ⟨points, written, ?_⟩
      refine bind_ok_iff.mpr ⟨_, field_ok_iff.mpr ⟨timestampFits, rfl⟩, ?_⟩
      refine bind_ok_iff.mpr ⟨_, field_ok_iff.mpr ⟨by decide, rfl⟩, ?_⟩
      exact bind_ok_iff.mpr ⟨_, field_ok_iff.mpr ⟨countFits, rfl⟩, rfl⟩

theorem exists_encodePackage_iff {package : Package} :
    (∃ bytes, encodePackage package = .ok bytes) ↔ package.Fits := by
  constructor
  · rintro ⟨bytes, success⟩
    obtain ⟨signature, timestamp, count, points, written, _⟩ := encodePackage_ok_iff.mp success
    refine ⟨signature, fun point member => ?_, timestamp, count⟩
    exact exists_encodePoint_iff.mp (mapM_ok_of_mem written member)
  · intro fits
    obtain ⟨points, written⟩ := exists_mapM_ok_iff.mpr fun point member =>
      exists_encodePoint_iff.mpr (fits.points point member)
    exact ⟨_, encodePackage_ok_iff.mpr
      ⟨fits.signature, fits.timestamp, fits.pointCount, points, written, rfl⟩⟩

/-! What is read of it. -/

theorem scale_lt {value : Float} {decimals scaled : Nat}
    (success : scale value decimals = .ok scaled) : scaled < 256 ^ 32 := by
  unfold scale at success
  dsimp only at success
  split at success
  · cases success
  · cases success
    exact Nat.lt_of_le_of_lt (Number.truncate_le _ _) (by decide)

/-- Where each item is read as what it shows, behind anything, so is a whole list. -/
theorem items?_mapM {ε α β : Type} {attempt : α → Except ε Bytes} {shows : β → α → Prop}
    {item? : Bytes → Option (Bytes × β)}
    (each : ∀ {item bytes}, attempt item = .ok bytes →
      ∃ read, shows read item ∧ ∀ front, item? (front ++ bytes) = some (front, read))
    {items : List α} {parts : List Bytes} (written : items.mapM attempt = .ok parts) :
    ∃ reads, List.Forall₂ shows reads items ∧
      ∀ front, items? item? items.length (front ++ parts.flatten) = some (front, reads) := by
  have parted := mapM_ok_iff.mp written
  rw [← parted.length_eq]
  suffices ∃ reads, List.Forall₂ shows reads items ∧
      List.Forall₂ (fun part read => ∀ front, item? (front ++ part) = some (front, read))
        parts reads by
    obtain ⟨reads, shown, readable⟩ := this
    exact ⟨reads, shown, items?_flatten readable⟩
  clear written
  induction parted with
  | nil => exact ⟨[], .nil, .nil⟩
  | cons first rest ih =>
    obtain ⟨read, shown, readable⟩ := each first
    obtain ⟨reads, allShown, allReadable⟩ := ih
    exact ⟨read :: reads, .cons shown allShown, .cons readable allReadable⟩

theorem point?_encodePoint {point : DataPoint} {bytes : Bytes}
    (written : encodePoint point = .ok bytes) :
    ∃ read : ReadPoint, read.Shows point ∧
      ∀ front, point? 32 (front ++ bytes) = some (front, read) := by
  obtain ⟨read, shows, rfl⟩ := encodePoint_ok_iff.mp written
  exact ⟨read, shows, fun front => point?_append front read.slot (scale_lt shows.value)⟩

theorem package?_encodePackage {package : Package} {bytes : Bytes}
    (written : encodePackage package = .ok bytes) :
    ∃ read : ReadPackage, read.Shows package ∧
      ∀ front, package? (front ++ bytes) = some (front, read) := by
  obtain ⟨sized, timestampFits, countFits, points, pointsWritten, rfl⟩ :=
    encodePackage_ok_iff.mp written
  obtain ⟨reads, shown, readable⟩ := items?_mapM point?_encodePoint pointsWritten
  refine ⟨⟨reads, package.timestamp, package.signature⟩, ⟨shown, rfl, rfl⟩, fun front => ?_⟩
  have signature (front : Bytes) := ending?_append front sized
  have count (front : Bytes) : number? 3 (front ++ _) = _ := number?_append front countFits
  have valueSize (front : Bytes) : number? 4 (front ++ Bytes.ofNat 4 32) = some (front, 32) :=
    number?_append front (by decide)
  have timestamp (front : Bytes) : number? 6 (front ++ _) = _ := number?_append front timestampFits
  simp only [packageBytes, ← List.append_assoc, package?, signature, count, valueSize, timestamp,
    readable, Option.bind_eq_bind, Option.bind_some, Option.pure_def]

/-- The bytes of a payload around those of its packages. -/
def payloadBytes (packages : List Package) (timestamp : Millis) (bodies : List Bytes) : Bytes :=
  bodies.flatten ++ Bytes.ofNat 2 packages.length ++ Utf8.encode (metadata timestamp)
    ++ Bytes.ofNat 3 (Utf8.encode (metadata timestamp)).length ++ marker

theorem encode_ok_iff {packages : List Package} {timestamp : Millis} {bytes : Bytes} :
    encode packages timestamp = .ok bytes ↔ packages.length < 2 ^ 16 ∧
      (Utf8.encode (metadata timestamp)).length < 2 ^ 24 ∧
      ∃ bodies, packages.mapM encodePackage = .ok bodies ∧
        bytes = payloadBytes packages timestamp bodies := by
  unfold encode
  constructor
  · intro success
    obtain ⟨bodies, written, rest⟩ := bind_ok_iff.mp success
    obtain ⟨count, counted, rest⟩ := bind_ok_iff.mp rest
    obtain ⟨size, measured, same⟩ := bind_ok_iff.mp rest
    obtain ⟨countFits, rfl⟩ := field_ok_iff.mp counted
    obtain ⟨sizeFits, rfl⟩ := field_ok_iff.mp measured
    cases same
    exact ⟨countFits, sizeFits, bodies, written, rfl⟩
  · rintro ⟨countFits, sizeFits, bodies, written, rfl⟩
    refine bind_ok_iff.mpr ⟨bodies, written, ?_⟩
    refine bind_ok_iff.mpr ⟨_, field_ok_iff.mpr ⟨countFits, rfl⟩, ?_⟩
    exact bind_ok_iff.mpr ⟨_, field_ok_iff.mpr ⟨sizeFits, rfl⟩, rfl⟩

theorem encode_fits {packages : List Package} {timestamp : Millis} {bytes : Bytes}
    (success : encode packages timestamp = .ok bytes) : ∀ package ∈ packages, package.Fits := by
  intro package member
  obtain ⟨_, _, bodies, written, _⟩ := encode_ok_iff.mp success
  exact exists_encodePackage_iff.mp (mapM_ok_of_mem written member)

theorem length_utf8Encode_le (text : String) :
    (Utf8.encode text).length ≤ 4 * text.length := by
  rw [Utf8.encode_eq, ← String.length_toList]
  induction text.toList with
  | nil => exact Nat.le_refl 0
  | cons char rest ih =>
    have one := Char.utf8Size_le_four char
    rw [← String.length_utf8EncodeChar] at one
    rw [List.flatMap_cons, List.length_append, List.length_cons]
    omega

theorem length_metadata_lt (timestamp : UInt64) :
    (Utf8.encode (metadata timestamp.toNat)).length < 2 ^ 24 := by
  have digits : (Nat.toDigits 10 timestamp.toNat).length ≤ 20 := by
    rw [Nat.length_toDigits_le_iff (by decide) (by decide)]
    exact Nat.lt_trans timestamp.toNat_lt (by decide)
  have size := length_utf8Encode_le (metadata timestamp.toNat)
  have length : (metadata timestamp.toNat).length = (Nat.toDigits 10 timestamp.toNat).length + 8 := by
    have text : metadata timestamp.toNat = timestamp.toNat.repr ++ "#relayer" := rfl
    rw [text, String.length_append, Nat.repr, String.length_ofList]
    rfl
  omega

/-- A payload is written exactly where every part of it fits its field. -/
theorem exists_encode_iff {packages : List Package} {timestamp : UInt64} :
    (∃ bytes, encode packages timestamp.toNat = .ok bytes) ↔
      (∀ package ∈ packages, package.Fits) ∧ packages.length < 2 ^ 16 := by
  constructor
  · rintro ⟨bytes, success⟩
    exact ⟨encode_fits success, (encode_ok_iff.mp success).1⟩
  · rintro ⟨each, countFits⟩
    obtain ⟨bodies, written⟩ := exists_mapM_ok_iff.mpr fun package member =>
      exists_encodePackage_iff.mpr (each package member)
    exact ⟨_, encode_ok_iff.mpr ⟨countFits, length_metadata_lt timestamp, bodies, written, rfl⟩⟩

/-- A written payload is read as the packages that it was written from, behind anything. -/
theorem read?_encode {packages : List Package} {timestamp : Millis} {bytes : Bytes}
    (success : encode packages timestamp = .ok bytes) :
    ∃ reads, List.Forall₂ ReadPackage.Shows reads packages ∧
      ∀ lead, read? (lead ++ bytes) = some ⟨lead, reads, metadata timestamp⟩ := by
  obtain ⟨countFits, sizeFits, bodies, written, rfl⟩ := encode_ok_iff.mp success
  obtain ⟨reads, shown, readable⟩ := items?_mapM package?_encodePackage written
  refine ⟨reads, shown, fun lead => ?_⟩
  have ending (front : Bytes) : ending? 9 (front ++ marker) = some (front, marker) :=
    ending?_append front rfl
  have size (front : Bytes) : number? 3 (front ++ _) = _ := number?_append front sizeFits
  let note := Utf8.encode (metadata timestamp)
  have noted (front : Bytes) : ending? note.length (front ++ note) = some (front, note) :=
    ending?_append front rfl
  have count (front : Bytes) : number? 2 (front ++ _) = _ := number?_append front countFits
  simp only [payloadBytes, ← List.append_assoc, read?, ending, size, note, noted, count, readable,
    text?_encode, Option.bind_eq_bind, Option.bind_some, Option.pure_def]
  rfl

/-- A payload is written exactly where every part of it fits its field. What is written is read from
its end: the packages point by point, the note, and whatever the payload was put behind. -/
theorem encode_reads_back (packages : List Package) (timestamp : UInt64) :
    ((∃ bytes, encode packages timestamp.toNat = .ok bytes) ↔
      (∀ package ∈ packages, package.Fits) ∧ packages.length < 2 ^ 16) ∧
    ∀ bytes, encode packages timestamp.toNat = .ok bytes →
      ∃ reads, List.Forall₂ ReadPackage.Shows reads packages ∧
        ∀ lead, read? (lead ++ bytes) =
          some ⟨lead, reads, s!"{timestamp.toNat}#relayer"⟩ :=
  ⟨exists_encode_iff, fun _ success => read?_encode success⟩

/-- One package of two feeds, and one without points. -/
def twoPackages : List Package :=
  [{ id := "MAIN", timestamp := 1700000000000, signer := default,
     points := [{ feed := "ETH", value := 3000.5 }, { feed := "BTC", value := 2.0, decimals? := some 0 }]
     signature := List.replicate 65 7 },
   { id := "EMPTY", timestamp := 2 ^ 48 - 1, signer := default, points := []
     signature := List.replicate 65 9 }]

theorem encode_reads_back_twoPackages :
    ∃ bytes, encode twoPackages (1700000000123 : UInt64).toNat = .ok bytes ∧
      ∃ reads, List.Forall₂ ReadPackage.Shows reads twoPackages ∧
        ∀ lead, read? (lead ++ bytes) =
          some ⟨lead, reads, s!"{(1700000000123 : UInt64).toNat}#relayer"⟩ := by
  have written : (encode twoPackages (1700000000123 : UInt64).toNat).isOk := by decide +kernel
  cases success : encode twoPackages (1700000000123 : UInt64).toNat with
  | error failure =>
    rw [success] at written
    cases written
  | ok bytes => exact ⟨bytes, rfl, (encode_reads_back twoPackages 1700000000123).2 bytes success⟩

example : ((encode twoPackages 5).toOption.bind fun bytes => read? (1 :: bytes)).map
    (fun read => (read.lead, read.packages.map fun package => package.points.map (·.value))) =
      some ([1], [[300050000000, 2], []]) := by decide +kernel

end Payload

end PriceRelay
