import PriceRelay.Chain.Update
/-!
What becomes of an update that was to be delivered.
-/

namespace PriceRelay

inductive DeliveryOutcome where
  /-- A transaction was sent; it is not known yet whether it is included. -/
  | delivered (hash : Hash) (auctionWon fallbackUsed : Bool)
  | skipped (reason : String)
  | failed (reason : String)
  deriving DecidableEq

namespace DeliveryOutcome

def isDelivered : DeliveryOutcome → Bool
  | .delivered .. => true
  | _ => false

/-- The transaction to watch. -/
def hash? : DeliveryOutcome → Option Hash
  | .delivered hash _ _ => some hash
  | _ => none

end DeliveryOutcome

end PriceRelay
