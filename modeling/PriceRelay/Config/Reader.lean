import PriceRelay.Config.Basic
import PriceRelay.Toml.Reader
/-!
Configurations as TOML documents. Members that no rule asks for are passed over; a table may also be
an array of its members in order.
-/

namespace PriceRelay

namespace Toml

def text? : Toml → Option String
  | .text value => some value
  | _ => none

def bool? : Toml → Option Bool
  | .bool value => some value
  | _ => none

/-- Integers are read as numbers too. -/
def number? : Toml → Option Float
  | .float value => some value
  | .integer value =>
    let magnitude := Number.ofNat value.natAbs
    some (if value < 0 then -magnitude else magnitude)
  | _ => none

def natural? : Toml → Option Nat
  | .integer value => if 0 ≤ value then some value.toNat else none
  | _ => none

/-- A natural number below a bound. -/
def below? (bound : Nat) (value : Toml) : Option Nat := value.natural?.filter (· < bound)

def list? {α : Type} (item? : Toml → Option α) : Toml → Option (List α)
  | .array _ items => items.mapM item?
  | _ => none

def address? : Toml → Option Address
  | .text value => Hex.decodeFixed? 20 value
  | .array _ items => FixedBytes.ofItems? 20 (fun item => (item.below? 256).map UInt8.ofNat) items
  | _ => none

def instant? (value : Toml) : Option Instant := do Instant.read? (← value.text?)

/-- The values of the named members, as far as they are there. A date counts as a table that has
none of them. -/
def record? (names : List String) : Toml → Option (List (Option Toml))
  | .table _ members => some (names.map fun name => members.lookup name)
  | .date => some (names.map fun _ => none)
  | .array _ items => some (names.mapIdx fun position _ => items[position]?)
  | _ => none

/-- An empty table or array stands for nothing. -/
def isHollow : Toml → Bool
  | .table _ members => members.isEmpty
  | .array _ items => items.isEmpty
  | _ => false

end Toml

namespace ConfigReader

/-- A member that has to be there. -/
def required {α : Type} (read? : Toml → Option α) (member : Option Toml) : Option α :=
  member.bind read?

/-- A member with a default. -/
def withDefault {α : Type} (default : α) (read? : Toml → Option α) (member : Option Toml) :
    Option α :=
  match member with
  | none => some default
  | some value => read? value

def optional {α : Type} (read? : Toml → Option α) : Option Toml → Option (Option α) :=
  withDefault none fun value => (read? value).map some

private def pricing? : Toml → Option PricingModel
  | .text "Legacy" => some .legacy
  | .text "Eip1559" => some .eip1559
  | .table _ [("Legacy", value)] => if value.isHollow then some .legacy else none
  | .table _ [("Eip1559", value)] => if value.isHollow then some .eip1559 else none
  | _ => none

private def gas? (value : Toml) : Option Config.Gas := do
  match ← value.record? ["pricing", "max_gas_price_gwei", "default_gas_price_gwei",
    "priority_fee_gwei", "gas_limit", "gas_multiplier"] with
  | [pricing, maxPrice, defaultPrice, priorityFee, limit, multiplier] =>
    return {
      pricing := ← withDefault .legacy pricing? pricing
      maxPrice := ← withDefault 100.0 Toml.number? maxPrice
      defaultPrice := ← withDefault 1.0 Toml.number? defaultPrice
      priorityFee? := ← optional Toml.number? priorityFee
      limit := ← withDefault 1000000 Toml.natural? limit
      multiplier := ← withDefault 1.125 Toml.number? multiplier }
  | _ => none

private def chain? (value : Toml) : Option Config.Chain := do
  match ← value.record? ["chain_id", "name", "rpc_urls", "block_time_ms", "gas"] with
  | [id, name, rpcUrls, blockTime, gas] =>
    return {
      id := ← required Toml.natural? id
      name := ← withDefault "unknown" Toml.text? name
      rpcUrls := ← required (Toml.list? Toml.text?) rpcUrls
      blockTime := ← withDefault 1000 Toml.natural? blockTime
      gas := ← withDefault {} gas? gas }
  | _ => none

private def adapter? (value : Toml) : Option Config.Adapter := do
  match ← value.record? ["kind", "contract_address"] with
  | [kind, contract] =>
    return {
      kind := ← required Toml.text? kind
      contract := ← required Toml.address? contract }
  | _ => none

private def feed? (value : Toml) : Option Config.Feed := do
  match ← value.record? ["id", "deviation_percentage", "heartbeat_ms", "cron"] with
  | [id, deviation, heartbeat, cron] =>
    return {
      id := ← required Toml.text? id
      deviation? := ← optional Toml.number? deviation
      heartbeat? := ← optional Toml.natural? heartbeat
      cron := ← withDefault [] (Toml.list? Toml.text?) cron }
  | _ => none

private def timeouts? (value : Toml) : Option Config.Timeouts := do
  match ← value.record? ["single_provider_ms", "all_providers_ms", "auction_total_ms",
    "auction_resolve_ms", "verification_ms", "expected_tx_delivery_ms", "health_ping_ms"] with
  | [single, all, total, resolve, verification, delivery, ping] =>
    return {
      singleProvider := ← withDefault 5000 Toml.natural? single
      allProviders := ← withDefault 15000 Toml.natural? all
      auctionTotal := ← withDefault 30000 Toml.natural? total
      auctionResolve := ← withDefault 10000 Toml.natural? resolve
      verification := ← withDefault 15000 Toml.natural? verification
      expectedDelivery := ← withDefault 20000 Toml.natural? delivery
      healthPing := ← withDefault 5000 Toml.natural? ping }
  | _ => none

private def optimization? (value : Toml) : Option Optimization := do
  match ← value.record? ["additional_updates_deviation_threshold", "sync_heartbeats"] with
  | [threshold, sync] =>
    return {
      threshold? := ← optional Toml.number? threshold
      syncHeartbeats := ← withDefault false Toml.bool? sync }
  | _ => none

private def fallback? (value : Toml) : Option Fallback := do
  match ← value.record? ["offset_ms", "skip_deviation_based_frequent_updates", "not_lazy"] with
  | [offset, skip, notLazy] =>
    return {
      offset := ← withDefault 0 Toml.natural? offset
      skipFrequent := ← withDefault false Toml.bool? skip
      notLazy := ← withDefault false Toml.bool? notLazy }
  | _ => none

private def auction? (value : Toml) : Option Config.Auction := do
  match ← value.record? ["enabled", "url", "omit_fallback_when_optional",
    "verify_gas_price_disabled"] with
  | [enabled, url, omitOptional, ignoreGasPrice] =>
    return {
      enabled := ← withDefault true Toml.bool? enabled
      url? := ← optional Toml.text? url
      omitOptional := ← withDefault false Toml.bool? omitOptional
      ignoreGasPrice := ← withDefault false Toml.bool? ignoreGasPrice }
  | _ => none

/-- The number of attempts has 32 bits. -/
private def attempts? (value : Toml) : Option Nat := do
  match ← value.record? ["max_tx_send_attempts"] with
  | [attempts] => withDefault 1 (Toml.below? (2 ^ 32)) attempts
  | _ => none

private def override? (value : Toml) : Option Config.Override := do
  match ← value.record? ["heartbeat_ms", "duration_ms"] with
  | [heartbeat, duration] =>
    return {
      heartbeat := ← required Toml.natural? heartbeat
      duration := ← required Toml.natural? duration }
  | _ => none

/-- The configuration that the members of a document spell. -/
def ofMembers? (members : Toml.Members) : Option Config := do
  let member name := members.lookup name
  return {
    name := ← withDefault "relayer" Toml.text? (member "name")
    chain := ← required chain? (member "chain")
    adapter := ← required adapter? (member "adapter")
    service := ← required Toml.text? (member "data_service_id")
    gatewayUrls := ← required (Toml.list? Toml.text?) (member "gateway_urls")
    historicalGatewayUrls :=
      ← withDefault [] (Toml.list? Toml.text?) (member "historical_gateway_urls")
    authorizedSigners? := ← optional (Toml.list? Toml.address?) (member "authorized_signers")
    feeds := ← required (Toml.list? feed?) (member "feeds")
    interval := ← withDefault 10000 Toml.natural? (member "iteration_interval_ms")
    timeouts := ← withDefault {} timeouts? (member "timeouts")
    optimization := ← withDefault {} optimization? (member "optimization")
    fallback := ← withDefault {} fallback? (member "fallback")
    auction? := ← optional auction? (member "auction")
    maxAttempts := ← withDefault 1 attempts? (member "delivery")
    healthUrl? := ← optional Toml.text? (member "healthcheck_ping_url")
    override? := ← optional override? (member "temporary_override")
    pausedUntil? := ← optional Toml.instant? (member "paused_until") }

end ConfigReader

/-- The configuration that a document spells. -/
def Config.read? (source : String) : Option Config := do
  ConfigReader.ofMembers? (← Toml.read? source)

end PriceRelay
