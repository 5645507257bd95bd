import PriceRelay.Bytes.Hex
import PriceRelay.Config.Basic
import PriceRelay.Json.Document
/-!
The configuration as a document, all defaults filled in.
-/

namespace PriceRelay.Config

private def addresses (values : List Address) : Document := .each (.text ·.lower) values

private def gas (gas : Gas) : Document :=
  .object [
    ("pricing", .text gas.pricing.name),
    ("max_gas_price_gwei", .number gas.maxPrice),
    ("default_gas_price_gwei", .number gas.defaultPrice),
    ("priority_fee_gwei", .optional .number gas.priorityFee?),
    ("gas_limit", .natural gas.limit),
    ("gas_multiplier", .number gas.multiplier)]

private def chainDocument (chain : Chain) : Document :=
  .object [
    ("chain_id", .natural chain.id),
    ("name", .text chain.name),
    ("rpc_urls", .texts chain.rpcUrls),
    ("block_time_ms", .natural chain.blockTime),
    ("gas", gas chain.gas)]

private def feedDocument (feed : Feed) : Document :=
  .object [
    ("id", .text feed.id),
    ("deviation_percentage", .optional .number feed.deviation?),
    ("heartbeat_ms", .optional .natural feed.heartbeat?),
    ("cron", .texts feed.cron)]

private def timeoutsDocument (timeouts : Timeouts) : Document :=
  .object [
    ("single_provider_ms", .natural timeouts.singleProvider),
    ("all_providers_ms", .natural timeouts.allProviders),
    ("auction_total_ms", .natural timeouts.auctionTotal),
    ("auction_resolve_ms", .natural timeouts.auctionResolve),
    ("verification_ms", .natural timeouts.verification),
    ("expected_tx_delivery_ms", .natural timeouts.expectedDelivery),
    ("health_ping_ms", .natural timeouts.healthPing)]

private def auctionDocument (auction : Auction) : Document :=
  .object [
    ("enabled", .bool auction.enabled),
    ("url", .optional .text auction.url?),
    ("omit_fallback_when_optional", .bool auction.omitOptional),
    ("verify_gas_price_disabled", .bool auction.ignoreGasPrice)]

private def overrideDocument (override : Override) : Document :=
  .object [
    ("heartbeat_ms", .natural override.heartbeat),
    ("duration_ms", .natural override.duration)]

def document (config : Config) : Document :=
  .object [
    ("name", .text config.name),
    ("chain", chainDocument config.chain),
    ("adapter", .object [
      ("kind", .text config.adapter.kind),
      ("contract_address", .text config.adapter.contract.lower)]),
    ("data_service_id", .text config.service),
    ("gateway_urls", .texts config.gatewayUrls),
    ("historical_gateway_urls", .texts config.historicalGatewayUrls),
    ("authorized_signers", .optional addresses config.authorizedSigners?),
    ("feeds", .each feedDocument config.feeds),
    ("iteration_interval_ms", .natural config.interval),
    ("timeouts", timeoutsDocument config.timeouts),
    ("optimization", .object [
      ("additional_updates_deviation_threshold",
        .optional .number config.optimization.threshold?),
      ("sync_heartbeats", .bool config.optimization.syncHeartbeats)]),
    ("fallback", .object [
      ("offset_ms", .natural config.fallback.offset),
      ("skip_deviation_based_frequent_updates", .bool config.fallback.skipFrequent),
      ("not_lazy", .bool config.fallback.notLazy)]),
    ("auction", .optional auctionDocument config.auction?),
    ("delivery", .object [("max_tx_send_attempts", .natural config.maxAttempts)]),
    ("healthcheck_ping_url", .optional .text config.healthUrl?),
    ("temporary_override", .optional overrideDocument config.override?),
    ("paused_until", .optional (.text ·.text) config.pausedUntil?)]

end PriceRelay.Config
