import PriceRelay.Auction.Failure
import PriceRelay.Condition.Deviation
/-!
Agreement of simulated values with the values that were served: each simulated value lies near the
mean of what was served for its feed.
-/

namespace PriceRelay.Auction

/-- How far simulated and served values may lie apart, relative to the larger. -/
def tolerance : Float := 0.00001

def nearlyEqual (a b : Float) : Bool :=
  (a - b).abs ≤ tolerance * Number.larger a.abs b.abs

/-- The served values of a feed. -/
def servedPoints (feed : FeedId) (packages : PackageSet) : List DataPoint :=
  (packages.listed feed).flatMap (·.pointsFor feed)

/-- A served value as the contract can hold it. -/
def rounded (scale value : Float) : Float := Number.round (value * scale) / scale

/-- The mean of some served values. The sum starts at the zero that leaves every number as it is. -/
def mean (scale : Float) (points : List DataPoint) : Float :=
  (points.foldl (fun sum point => sum + rounded scale point.value) (-0.0))
    / Number.ofNat points.length

def notServed (feed : FeedId) : AuctionFailure :=
  .other (.text s!"There are no data packages for {feed}")

/-- Does a simulated value agree with what was served? The decimals of the first value count. -/
def checkValue (hash : Hash) (packages : PackageSet) (feed : FeedId) (value : Nat) :
    Except AuctionFailure Unit :=
  match servedPoints feed packages with
  | [] => .error (notServed feed)
  | first :: more =>
    let expected := mean (Number.tenTo first.decimals) (first :: more)
    let simulated := Condition.contractValue value first.decimals
    if nearlyEqual expected simulated then .ok ()
    else .error (.priceMismatch hash feed simulated expected)

def wrongCount (values feeds : Nat) : AuctionFailure :=
  .other (.text s!"Simulation returned {values} values for {feeds} feeds")

/-- Check one value per feed, in order. -/
def checkEach (hash : Hash) (packages : PackageSet) :
    List (FeedId × Nat) → Except AuctionFailure Unit
  | [] => .ok ()
  | (feed, value) :: rest => do
    checkValue hash packages feed value
    checkEach hash packages rest

/-- Check simulated values; there has to be one per feed. -/
def checkValues (hash : Hash) (packages : PackageSet) (feeds : List FeedId) (values : List Nat) :
    Except AuctionFailure Unit :=
  if values.length = feeds.length then checkEach hash packages (feeds.zip values)
  else .error (wrongCount values.length feeds.length)

end PriceRelay.Auction
