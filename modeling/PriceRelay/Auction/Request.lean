import PriceRelay.Crypto.Checksum
import PriceRelay.Json.Document
/-!
Requests to the auction, signed by the relayer. The signed message names chain, adapter and payload.
-/

namespace PriceRelay

structure AuctionRequest where
  adapter : Address
  payload : Bytes
  signature : Bytes
  earlyReturn : Bool := true
  chain : String
  deriving DecidableEq

namespace AuctionRequest

/-- A chain id as the auction writes it. -/
def chainText (chain : Nat) : String := Hex.quantity chain

/-- The message that the relayer signs. -/
def message (chain : Nat) (adapter : Address) (payload : Bytes) : String :=
  s!"{chainText chain}:{checksummed adapter}:{Hex.encode payload}"

/-- The request as a document. -/
def document (request : AuctionRequest) : Document :=
  .object [
    ("adapter", .text request.adapter.lower),
    ("updatePayload", .text (Hex.encode request.payload)),
    ("signature", .text (Hex.encode request.signature)),
    ("earlyReturn", .bool request.earlyReturn),
    ("chainId", .text request.chain)]

/-- What is sent. -/
def body (request : AuctionRequest) : String := request.document.render

end AuctionRequest

end PriceRelay
