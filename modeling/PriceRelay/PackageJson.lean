import PriceRelay.Json.Document
import PriceRelay.Json.Reader
import PriceRelay.PackageSet
/-!
Package sets as JSON documents: an object of feeds, each with a list of packages. A package and a
data point are objects, or arrays of their members in order.
-/

namespace PriceRelay

namespace PackageJson

private def bytes? : Json → Option Bytes
  | .text (some text) => Hex.decode? text
  | .array items => items.mapM Json.byte?
  | _ => none

/-- Is the value neither an array nor an object, nor unreadable? -/
private def isPlain : Json → Bool
  | .null | .bool _ | .number _ | .text (some _) => true
  | _ => false

/-- An address is a text, or a list of its bytes. Behind them one plain value may stand that is no
byte. -/
private def address? : Json → Option Address
  | .text (some text) => Hex.decodeFixed? 20 text
  | .array items =>
    let surplus := items.drop 20
    if surplus.length ≤ 1 && surplus.all isPlain then FixedBytes.ofItems? 20 Json.byte? items
    else none
  | _ => none

private def decimals? : Option Json → Option (Option UInt8)
  | none | some .null => some none
  | some value => value.byte?.map some

private def point? (json : Json) : Option DataPoint := do
  match ← json.record? ["dataFeedId", "value", "decimals"] with
  | [feed, value, decimals] =>
    return {
      feed := ← (← feed).text?
      value := ← (← value).float?
      decimals? := ← decimals? decimals }
  | _ => none

private def memberNames : List String :=
  ["dataPackageId", "timestampMilliseconds", "signerAddress", "dataPoints", "signature"]

private def package? (json : Json) : Option Package := do
  match ← json.record? memberNames with
  | [id, timestamp, signer, points, signature] =>
    return {
      id := ← (← id).text?
      timestamp := ← (← timestamp).word?
      signer := ← address? (← signer)
      points := ← (← (← points).array?).mapM point?
      signature := ← bytes? (← signature) }
  | _ => none

/-- The entries of a document; a later entry of the same feed wins. -/
def ofJson? : Json → Option PackageSet
  | .object members => do
    let entries ← members.mapM fun (name, value) => do
      let packages ← (← value.array?).mapM package?
      return (← name, packages)
    return FeedMap.ofList entries
  | _ => none

def read? (text : String) : Option PackageSet := do ofJson? (← Json.read? text)

private def pointDocument (point : DataPoint) : Document :=
  .object [
    ("dataFeedId", .text point.feed),
    ("value", .number point.value),
    ("decimals", .optional (fun decimals => .natural decimals.toNat) point.decimals?)]

private def packageDocument (package : Package) : Document :=
  .object [
    ("dataPackageId", .text package.id),
    ("timestampMilliseconds", .natural package.timestamp),
    ("signerAddress", .text package.signer.lower),
    ("dataPoints", .each pointDocument package.points),
    ("signature", .text (Hex.encode package.signature))]

/-- The document of a set. -/
def document (set : PackageSet) : Document :=
  .object (set.entries.map fun (feed, packages) => (feed, .each packageDocument packages))

end PackageJson

end PriceRelay
