import Mathlib.Data.List.Forall2
import PriceRelay.FeedSlot
/-!
Payloads as their consumer reads them, from the end to the front. The widths are those of the
layout, and each reader undoes what stands at the end of the bytes, whatever is in front.
-/

namespace PriceRelay

/-- A data point as it is read: the slot of its feed, and the integer that stands for its value. -/
structure ReadPoint where
  slot : Hash
  value : Nat
  deriving DecidableEq

/-- A package as it is read. -/
structure ReadPackage where
  points : List ReadPoint
  timestamp : Nat
  signature : Bytes
  deriving DecidableEq

/-- A payload as it is read, and what it was put behind. -/
structure ReadPayload where
  lead : Bytes
  packages : List ReadPackage
  metadata : String
  deriving DecidableEq

namespace ReadPayload

variable {α : Type}

/-- The last `size` bytes, and what is in front of them. -/
def ending? (size : Nat) (bytes : Bytes) : Option (Bytes × Bytes) :=
  if size ≤ bytes.length then
    some (bytes.take (bytes.length - size), bytes.drop (bytes.length - size))
  else none

/-- The number in the last `width` bytes, and what is in front of it. -/
def number? (width : Nat) (bytes : Bytes) : Option (Bytes × Nat) := do
  let (front, field) ← ending? width bytes
  return (front, field.toNat)

/-- The last `count` items, and what is in front of them. -/
def items? (item? : Bytes → Option (Bytes × α)) : Nat → Bytes → Option (Bytes × List α)
  | 0, bytes => some (bytes, [])
  | count + 1, bytes => do
    let (front, later) ← items? item? count bytes
    let (front, item) ← item? front
    return (front, item :: later)

def point? (valueSize : Nat) (bytes : Bytes) : Option (Bytes × ReadPoint) := do
  let (front, value) ← number? valueSize bytes
  let (front, slot) ← ending? 32 front
  return (front, ⟨← FixedBytes.ofBytes? 32 slot, value⟩)

def package? (bytes : Bytes) : Option (Bytes × ReadPackage) := do
  let (front, signature) ← ending? 65 bytes
  let (front, pointCount) ← number? 3 front
  let (front, valueSize) ← number? 4 front
  let (front, timestamp) ← number? 6 front
  let (front, points) ← items? (point? valueSize) pointCount front
  return (front, ⟨points, timestamp, signature⟩)

def text? (bytes : Bytes) : Option String := String.fromUTF8? ⟨bytes.toArray⟩

def read? (bytes : Bytes) : Option ReadPayload := do
  let (front, marker) ← ending? 9 bytes
  if marker ≠ [0x00, 0x00, 0x02, 0xed, 0x57, 0x01, 0x1e, 0x00, 0x00] then none
  let (front, metadataSize) ← number? 3 front
  let (front, metadata) ← ending? metadataSize front
  let (front, packageCount) ← number? 2 front
  let (lead, packages) ← items? package? packageCount front
  return ⟨lead, packages, ← text? metadata⟩

theorem ending?_append {size : Nat} {back : Bytes} (front : Bytes) (sized : back.length = size) :
    ending? size (front ++ back) = some (front, back) := by
  have split : (front ++ back).length - size = front.length := by
    rw [List.length_append, sized, Nat.add_sub_cancel]
  have fits : size ≤ (front ++ back).length := by
    rw [List.length_append, sized]
    exact Nat.le_add_left size front.length
  rw [ending?, if_pos fits, split, List.take_left, List.drop_left]

theorem number?_append {width value : Nat} (front : Bytes) (fits : value < 256 ^ width) :
    number? width (front ++ Bytes.ofNat width value) = some (front, value) := by
  rw [number?, ending?_append front (Bytes.length_ofNat width value)]
  exact congrArg (fun value => some (front, value)) (Bytes.toNat_ofNat_of_lt fits)

/-- Items that can each be read behind anything can be read one behind the other. -/
theorem items?_flatten {item? : Bytes → Option (Bytes × α)} {parts : List Bytes} {items : List α}
    (each : List.Forall₂ (fun part item => ∀ front, item? (front ++ part) = some (front, item))
      parts items) (front : Bytes) :
    items? item? parts.length (front ++ parts.flatten) = some (front, items) := by
  induction each generalizing front with
  | nil => simp [items?]
  | cons first rest ih =>
    rw [List.length_cons, List.flatten_cons, ← List.append_assoc, items?, ih]
    simp [first front]

theorem point?_append {valueSize value : Nat} (front : Bytes) (slot : Hash)
    (fits : value < 256 ^ valueSize) :
    point? valueSize (front ++ (slot.bytes ++ Bytes.ofNat valueSize value)) =
      some (front, ⟨slot, value⟩) := by
  rw [← List.append_assoc, point?, number?_append _ fits]
  simp [ending?_append front slot.length_eq, FixedBytes.ofBytes?, slot.length_eq]

theorem text?_encode (text : String) : text? (Utf8.encode text) = some text := by
  have bytes : (⟨(Utf8.encode text).toArray⟩ : ByteArray) = text.toByteArray := by
    rw [Utf8.encode, Array.toArray_toList, String.toUTF8_eq_toByteArray]
  rw [text?, bytes, String.fromUTF8?, dif_pos text.isValidUTF8]
  rfl

end ReadPayload

end PriceRelay
