import PriceRelay.Calendar.Instant
import PriceRelay.Condition.Check
/-!
The configuration of a relayer. What a file leaves out has the default stated here.
-/

namespace PriceRelay

/-- How transactions are priced. -/
inductive PricingModel where
  /-- One gas price. -/
  | legacy
  /-- A base fee and a priority fee. -/
  | eip1559
  deriving DecidableEq, Repr

def PricingModel.name : PricingModel → String
  | .legacy => "Legacy"
  | .eip1559 => "Eip1559"

namespace Config

/-- Gas prices are in gwei. -/
structure Gas where
  pricing : PricingModel := .legacy
  maxPrice : Float := 100.0
  defaultPrice : Float := 1.0
  priorityFee? : Option Float := none
  limit : Nat := 1000000
  multiplier : Float := 1.125
  deriving DecidableEq

structure Chain where
  id : Nat
  name : String := "unknown"
  rpcUrls : List String
  blockTime : Millis := 1000
  gas : Gas := {}
  deriving DecidableEq

structure Adapter where
  kind : String
  contract : Address
  deriving DecidableEq

structure Feed where
  id : FeedId
  deviation? : Option Float := none
  heartbeat? : Option Millis := none
  cron : List String := []
  deriving DecidableEq

def Feed.hasTriggers (feed : Feed) : Bool :=
  feed.deviation?.isSome || feed.heartbeat?.isSome || !feed.cron.isEmpty

structure Timeouts where
  singleProvider : Millis := 5000
  allProviders : Millis := 15000
  auctionTotal : Millis := 30000
  auctionResolve : Millis := 10000
  verification : Millis := 15000
  expectedDelivery : Millis := 20000
  healthPing : Millis := 5000
  deriving DecidableEq

structure Auction where
  enabled : Bool := true
  url? : Option String := none
  /-- An update that meets no deadline is given up when its auction fails. -/
  omitOptional : Bool := false
  ignoreGasPrice : Bool := false
  deriving DecidableEq

structure Override where
  heartbeat : Millis
  duration : Millis
  deriving DecidableEq

end Config

/-- Which feeds are added to an update that is made anyway. -/
structure Optimization where
  /-- Feeds whose deviation comes this near to their threshold. -/
  threshold? : Option Float := none
  /-- Feeds whose heartbeat divides one that fired. -/
  syncHeartbeats : Bool := false
  deriving DecidableEq

def Optimization.isEnabled (optimization : Optimization) : Bool :=
  optimization.threshold?.isSome || optimization.syncHeartbeats

structure Config where
  name : String := "relayer"
  chain : Config.Chain
  adapter : Config.Adapter
  service : String
  gatewayUrls : List String
  historicalGatewayUrls : List String := []
  authorizedSigners? : Option (List Address) := none
  feeds : List Config.Feed
  interval : Millis := 10000
  timeouts : Config.Timeouts := {}
  optimization : Optimization := {}
  fallback : Fallback := {}
  auction? : Option Config.Auction := none
  /-- How often one update is tried. -/
  maxAttempts : Nat := 1
  healthUrl? : Option String := none
  override? : Option Config.Override := none
  pausedUntil? : Option Instant := none
  deriving DecidableEq

namespace Config

def feedIds (config : Config) : List FeedId := config.feeds.map (·.id)

/-- Past packages come from the same gateways unless others are named. -/
def pastGatewayUrls (config : Config) : List String :=
  if config.historicalGatewayUrls.isEmpty then config.gatewayUrls else config.historicalGatewayUrls

def activeAuction? (config : Config) : Option Auction := config.auction?.filter (·.enabled)

def isPaused (config : Config) (now : Instant) : Bool :=
  config.pausedUntil?.any (·.isAfter now)

end Config

end PriceRelay
