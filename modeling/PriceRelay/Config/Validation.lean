import PriceRelay.Config.Basic
import PriceRelay.Config.Error
import PriceRelay.FeedSlot
/-!
The rules that a configuration has to meet before a relayer starts. The first broken rule is
reported; the rules of the feeds are checked feed by feed.
-/

namespace PriceRelay

namespace Config

/-- The adapter family, by its name. -/
def adapterKind (config : Config) : Except ConfigError AdapterKind :=
  match AdapterKind.ofName? config.adapter.kind with
  | some kind => .ok kind
  | none => .error (.unsupportedAdapter config.adapter.kind)

/-- A rule, and the error of breaking it. -/
def require (rule : Bool) (error : ConfigError) : Except ConfigError Unit :=
  if rule then .ok () else .error error

def isPositive (value : Float) : Bool := value.isFinite && 0.0 < value

def isNonNegative (value : Float) : Bool := value.isFinite && !(value < 0.0)

/-- Does an id leave room in its slot? -/
def fitsSlot (feed : FeedId) : Bool := (Utf8.encode feed).length ≤ FeedSlot.maxLength

def checkDeviation (feed : Feed) : Except ConfigError Unit :=
  match feed.deviation? with
  | none => .ok ()
  | some value => require (isPositive value) (.invalidDeviation feed.id value)

def checkSchedules : List String → Except ConfigError Unit
  | [] => .ok ()
  | expression :: rest => do
    let _ ← readSchedule expression
    checkSchedules rest

/-- The rules of one feed, after the feeds of the given ids. -/
def checkFeed (seen : List FeedId) (feed : Feed) : Except ConfigError Unit := do
  require (!seen.contains feed.id) (.duplicateFeed feed.id)
  require (fitsSlot feed.id) (.feedIdTooLong feed.id)
  require feed.hasTriggers (.noTriggers feed.id)
  checkDeviation feed
  checkSchedules feed.cron

def checkFeeds (seen : List FeedId) : List Feed → Except ConfigError Unit
  | [] => .ok ()
  | feed :: rest => do
    checkFeed seen feed
    checkFeeds (feed.id :: seen) rest

def checkAuction (config : Config) : Except ConfigError Unit :=
  match config.activeAuction? with
  | none => .ok ()
  | some auction => require (auction.url?.any (!·.isEmpty)) .missingAuctionUrl

def checkThreshold (config : Config) : Except ConfigError Unit :=
  match config.optimization.threshold? with
  | none => .ok ()
  | some threshold =>
    require (isNonNegative threshold)
      (.invalidValue "optimization.additional_updates_deviation_threshold"
        s!"{Number.display threshold} is not a non-negative ratio")

/-- Check all rules in order. -/
def validate (config : Config) : Except ConfigError Unit := do
  require (!config.chain.rpcUrls.isEmpty) .noRpcUrls
  require (!config.gatewayUrls.isEmpty) .noGatewayUrls
  require (!config.feeds.isEmpty) .noFeeds
  let _ ← config.adapterKind
  checkFeeds [] config.feeds
  checkAuction config
  require (config.interval ≠ 0) (.invalidValue "iteration_interval_ms" "must be positive")
  require (config.maxAttempts ≠ 0)
    (.invalidValue "delivery.max_tx_send_attempts" "must be at least 1")
  checkThreshold config
  require (isPositive config.chain.gas.multiplier)
    (.invalidValue "chain.gas.gas_multiplier" "must be positive")

end Config

end PriceRelay
