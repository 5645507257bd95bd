import PriceRelay.Config.Reader
import PriceRelay.Config.Validation
import PriceRelay.Config.Placeholder
import PriceRelay.Trigger
/-!
Loading a configuration: placeholders are filled from the environment before the document is read.
-/

namespace PriceRelay

open Placeholder (Environment)

/-- The contents of files. -/
abbrev Files := String → Except FileFailure String

namespace Config

/-- Where the configuration lies unless the environment says otherwise. -/
def defaultPath : String := "./config/relayer.toml"

/-- The variable that names the configuration. -/
def pathVariable : String := "RELAYER_CONFIG"

def ofText (environment : Environment) (source : String) : Except ConfigError Config :=
  match read? (Placeholder.expand environment source) with
  | some config => .ok config
  | none => .error .malformed

def ofFile (environment : Environment) (files : Files) (path : String) :
    Except ConfigError Config :=
  match files path with
  | .ok source => ofText environment source
  | .error failure => .error (.unreadable path failure)

/-- The valid configuration that the environment points to. -/
def load (environment : Environment) (files : Files) : Except ConfigError Config := do
  let config ← ofFile environment files ((environment pathVariable).getD defaultPath)
  config.validate
  return config

end Config

namespace TriggerSet

def triggerOf (feed : Config.Feed) : Except ConfigError Trigger := do
  return {
    feed := feed.id
    deviation? := feed.deviation?
    heartbeat? := feed.heartbeat?
    schedules := ← feed.cron.mapM readSchedule }

/-- The triggers of a configuration; an override begins at the start of the relayer. -/
def ofConfig (config : Config) (startedAt : Millis) : Except ConfigError TriggerSet := do
  return {
    triggers := ← config.feeds.mapM triggerOf
    override? := config.override?.map fun override =>
      ⟨override.heartbeat, Millis.plus startedAt override.duration⟩ }

end TriggerSet

end PriceRelay
