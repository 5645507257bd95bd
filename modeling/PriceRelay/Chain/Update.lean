import PriceRelay.Chain.Fees
import PriceRelay.Package
/-!
Update calls on their way to the chain, and what comes back.
-/

namespace PriceRelay

/-- A call that writes feeds. -/
structure UpdateCall where
  sender : Address
  target : Address
  data : Bytes
  value? : Option Nat := none
  /-- The feeds whose values the call writes. -/
  feeds : List FeedId
  /-- How old the call was when it was handed over. -/
  age : Millis := 0
  deriving DecidableEq

/-- A transaction handed to the network. -/
structure Dispatched where
  hash : Hash
  nonce : Nat
  gasLimit : Nat
  fees : Fees
  deriving DecidableEq

/-- What became of a transaction. -/
structure Receipt where
  hash : Hash
  success : Bool
  block? : Option Nat
  index? : Option Nat
  gasUsed : Nat
  price : Nat
  deriving DecidableEq

def Receipt.label (receipt : Receipt) : String := if receipt.success then "SUCCESS" else "FAILURE"

end PriceRelay
