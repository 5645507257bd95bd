import PriceRelay.Condition.Cron
/-!
The triggers of the feeds. A temporary override replaces the heartbeats until it expires; a feed
without a heartbeat does not gain one.
-/

namespace PriceRelay

/-- What makes a feed due. -/
structure Trigger where
  feed : FeedId
  deviation? : Option Float := none
  heartbeat? : Option Millis := none
  schedules : List CronSchedule := []
  deriving DecidableEq

/-- A heartbeat that holds for a time. -/
structure HeartbeatOverride where
  heartbeat : Millis
  expires : Millis
  deriving DecidableEq, Repr

def HeartbeatOverride.isActive (override : HeartbeatOverride) (now : Millis) : Bool :=
  now < override.expires

/-- The triggers in the order of the configuration. -/
structure TriggerSet where
  triggers : List Trigger
  override? : Option HeartbeatOverride := none
  deriving DecidableEq

namespace TriggerSet

def feeds (set : TriggerSet) : List FeedId := set.triggers.map (·.feed)

def get? (set : TriggerSet) (feed : FeedId) : Option Trigger :=
  set.triggers.find? (·.feed = feed)

/-- The heartbeat of a trigger at an instant. -/
def heartbeat? (set : TriggerSet) (trigger : Trigger) (now : Millis) : Option Millis :=
  match trigger.heartbeat?, set.override? with
  | some heartbeat, some override =>
    some (if override.isActive now then override.heartbeat else heartbeat)
  | heartbeat, _ => heartbeat

end TriggerSet

end PriceRelay
