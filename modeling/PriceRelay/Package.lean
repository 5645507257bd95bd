import PriceRelay.FeedMap
import PriceRelay.Bytes.Basic
/-!
Signed data packages: one signer's timestamped observation of one or more feeds.
-/

namespace PriceRelay

/-- A number of milliseconds, or an instant in milliseconds since the epoch. -/
abbrev Millis := Nat

/-- The largest instant and duration that is counted with. -/
def maxMillis : Millis := 2 ^ 64 - 1

/-- Sums stop at the largest duration. -/
def Millis.plus (a b : Millis) : Millis := min (a + b) maxMillis

/-- The decimals of a data point that states none. -/
def defaultDecimals : UInt8 := 8

/-- One observation inside a package. -/
structure DataPoint where
  feed : FeedId
  value : Float
  decimals? : Option UInt8 := none
  deriving DecidableEq

/-- The decimals by which the value is scaled on the chain. -/
def DataPoint.decimals (point : DataPoint) : Nat := (point.decimals?.getD defaultDecimals).toNat

/-- A package signed by one signer. Its id is a feed or names a group of feeds. -/
structure Package where
  id : String
  timestamp : Millis
  signer : Address
  points : List DataPoint
  signature : Bytes
  deriving DecidableEq

namespace Package

/-- The observations of one feed. -/
def pointsFor (package : Package) (feed : FeedId) : List DataPoint :=
  package.points.filter (·.feed = feed)

/-- Does the package observe the feed? -/
def carries (package : Package) (feed : FeedId) : Bool := package.points.any (·.feed = feed)

/-- The feeds that the package observes, each once. -/
def feeds (package : Package) : List FeedId := distinctFeeds (package.points.map (·.feed))

end Package

end PriceRelay
