import PriceRelay.Config.Basic
/-!
The settings of delivery and of the auction phase in front of it.
-/

namespace PriceRelay

structure DeliverySettings where
  maxAttempts : Nat
  /-- A call older than this is built anew before it is sent. -/
  freshnessBudget : Millis
  pollInterval : Millis
  receiptTimeout : Millis
  deriving DecidableEq, Repr

def DeliverySettings.ofConfig (config : Config) : DeliverySettings :=
  { maxAttempts := max config.maxAttempts 1
    freshnessBudget := config.timeouts.expectedDelivery
    pollInterval := config.chain.blockTime
    receiptTimeout := 3 * config.timeouts.expectedDelivery }

structure AuctionSettings where
  /-- The bound on the whole phase. -/
  total : Millis
  /-- The bound on one request. -/
  resolve : Millis
  /-- The bound on all checks of one transaction. -/
  verification : Millis
  pollInterval : Millis
  verifyGasPrice : Bool
  omitOptional : Bool
  deriving DecidableEq, Repr

/-- There are settings where the auction is enabled. -/
def AuctionSettings.ofConfig? (config : Config) : Option AuctionSettings :=
  config.activeAuction?.map fun auction =>
    { total := config.timeouts.auctionTotal
      resolve := config.timeouts.auctionResolve
      verification := config.timeouts.verification
      pollInterval := config.chain.blockTime
      verifyGasPrice := !auction.ignoreGasPrice
      omitOptional := auction.omitOptional }

end PriceRelay
