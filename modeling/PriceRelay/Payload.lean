import PriceRelay.Package
import PriceRelay.FeedSlot
import PriceRelay.Number.Text
import PriceRelay.Crypto.Checksum
/-!
The payload behind the data of an update call. A consumer reads it backwards from the end:

    package* ‖ package count (2) ‖ metadata ‖ metadata size (3) ‖ marker (9)
    package = point* ‖ timestamp (6) ‖ value size (4) ‖ point count (3) ‖ signature (65)
    point = feed slot (32) ‖ value (32)
-/

namespace PriceRelay

/-- Why packages have no payload. -/
inductive PayloadError where
  | feedTooLong (feed : FeedId)
  | notRepresentable (value : Float) (decimals : Nat)
  | signatureSize (package : String) (signer : Address) (size : Nat)
  | doesNotFit (value width : Nat)
  deriving DecidableEq

def PayloadError.message : PayloadError → String
  | .feedTooLong feed => s!"Feed id '{feed}' is longer than 31 bytes"
  | .notRepresentable value decimals =>
    s!"Value {Number.display value} cannot be represented with {decimals} decimals"
  | .signatureSize package signer size =>
    s!"Package {package} from {checksummed signer} has a {size}-byte signature"
  | .doesNotFit value width => s!"Value {value} does not fit in {width} bytes"

namespace Payload

/-- The end of every payload. -/
def marker : Bytes := [0x00, 0x00, 0x02, 0xed, 0x57, 0x01, 0x1e, 0x00, 0x00]

def timestampWidth : Nat := 6
def valueWidth : Nat := 32
def valueSizeWidth : Nat := 4
def pointCountWidth : Nat := 3
def signatureSize : Nat := 65
def packageCountWidth : Nat := 2
def metadataSizeWidth : Nat := 3

/-- The values of the chain stay below this bound. -/
def valueBound : Nat := 2 ^ 128

/-- A number in a field of `width` bytes, if it fits. -/
def field (width value : Nat) : Except PayloadError Bytes :=
  if value < 256 ^ width then .ok (Bytes.ofNat width value) else .error (.doesNotFit value width)

def feedSlot (feed : FeedId) : Except PayloadError Hash :=
  match FeedSlot.ofFeed? feed with
  | some slot => .ok slot
  | none => .error (.feedTooLong feed)

/-- The integer that stands for a value on the chain: scaled by its decimals and rounded. -/
def scale (value : Float) (decimals : Nat) : Except PayloadError Nat :=
  let scaled := Number.round (value * Number.tenTo decimals)
  if !scaled.isFinite || scaled < 0.0 || Number.ofNat valueBound ≤ scaled then
    .error (.notRepresentable value decimals)
  else .ok (Number.truncate (valueBound - 1) scaled)

def encodePoint (point : DataPoint) : Except PayloadError Bytes := do
  let slot ← feedSlot point.feed
  let value ← scale point.value point.decimals
  return slot.bytes ++ Bytes.ofNat valueWidth value

def encodePackage (package : Package) : Except PayloadError Bytes := do
  if package.signature.length ≠ signatureSize then
    throw (.signatureSize package.id package.signer package.signature.length)
  let points ← package.points.mapM encodePoint
  let timestamp ← field timestampWidth package.timestamp
  let size ← field valueSizeWidth valueWidth
  let count ← field pointCountWidth package.points.length
  return points.flatten ++ timestamp ++ size ++ count ++ package.signature

/-- The unsigned note in the payload. -/
def metadata (timestamp : Millis) : String := s!"{timestamp}#relayer"

/-- The payload of some packages, noted with a timestamp. -/
def encode (packages : List Package) (timestamp : Millis) : Except PayloadError Bytes := do
  let bodies ← packages.mapM encodePackage
  let count ← field packageCountWidth packages.length
  let note := Utf8.encode (metadata timestamp)
  let size ← field metadataSizeWidth note.length
  return bodies.flatten ++ count ++ note ++ size ++ marker

end Payload

end PriceRelay
