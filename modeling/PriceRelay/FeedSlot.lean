import PriceRelay.FeedMap
import PriceRelay.Bytes.Utf8
/-!
Feed ids as 32-byte slots of a contract: the UTF-8 bytes of the id with zeros behind.
-/

namespace PriceRelay

namespace FeedSlot

/-- The longest id that leaves a zero byte at the end of the slot. -/
def maxLength : Nat := 31

theorem length_padRight {bytes : Bytes} (h : bytes.length ≤ maxLength) :
    (Bytes.padRight 32 bytes).length = 32 := by
  simp only [Bytes.padRight, Bytes.zeros, List.length_append, List.length_replicate, maxLength] at *
  omega

/-- The slot of an id, unless the id is too long. -/
def ofFeed? (feed : FeedId) : Option Hash :=
  let bytes := Utf8.encode feed
  if h : bytes.length ≤ maxLength then some ⟨Bytes.padRight 32 bytes, length_padRight h⟩ else none

/-- The id in front of the first zero byte of a slot. -/
def toFeed (slot : Hash) : FeedId := Utf8.decodeLossy (slot.bytes.takeWhile (· ≠ 0))

end FeedSlot

end PriceRelay
