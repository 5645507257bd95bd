import PriceRelay.Condition.Cron
import PriceRelay.Number.Text
import PriceRelay.Adapter.Kind
/-!
What can be wrong with a configuration.
-/

namespace PriceRelay

/-- Why a file has no content. -/
inductive FileFailure where
  | notFound
  deriving DecidableEq, Repr

def FileFailure.message : FileFailure → String
  | .notFound => "No such file or directory (os error 2)"

inductive ConfigError where
  | unreadable (path : String) (failure : FileFailure)
  | malformed
  | missingAuctionUrl
  | noTriggers (feed : FeedId)
  | duplicateFeed (feed : FeedId)
  | feedIdTooLong (feed : FeedId)
  | invalidDeviation (feed : FeedId) (value : Float)
  | invalidCron (expression : String) (cause : CronError)
  | noFeeds
  | noRpcUrls
  | noGatewayUrls
  | unsupportedAdapter (kind : String)
  | invalidValue (field reason : String)
  deriving DecidableEq

def ConfigError.message : ConfigError → String
  | .unreadable path failure => s!"Failed to read config file {path}: {failure.message}"
  | .malformed => "Failed to parse config"
  | .missingAuctionUrl => "Auction is enabled but no auction url is configured"
  | .noTriggers feed => s!"Feed {feed} has no update triggers configured"
  | .duplicateFeed feed => s!"Feed {feed} is declared more than once"
  | .feedIdTooLong feed => s!"Feed id {feed} is longer than 31 bytes"
  | .invalidDeviation feed value =>
    s!"Feed {feed} has an invalid deviation threshold: {Number.display value}"
  | .invalidCron expression cause => s!"Invalid cron expression '{expression}': {cause.message}"
  | .noFeeds => "No feeds configured"
  | .noRpcUrls => "No RPC urls configured"
  | .noGatewayUrls => "No gateway urls configured"
  | .unsupportedAdapter kind => AdapterKind.unsupported kind
  | .invalidValue field reason => s!"Invalid value for {field}: {reason}"

/-- Read a schedule; a failure names the expression. -/
def readSchedule (expression : String) : Except ConfigError CronSchedule :=
  (CronSchedule.read expression).mapError (ConfigError.invalidCron expression)

end PriceRelay
