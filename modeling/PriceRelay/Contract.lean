import PriceRelay.Package
/-!
What a contract stores about the feeds.
-/

namespace PriceRelay

/-- The last update of one feed. -/
structure Snapshot where
  /-- The timestamp of the packages of the last update. -/
  dataTimestamp : Millis
  /-- The timestamp of the block of the last update. -/
  blockTimestamp : Millis
  value : Nat
  deriving DecidableEq, Repr

/-- The stored state of some feeds. -/
abbrev ContractState := FeedMap Snapshot

end PriceRelay
