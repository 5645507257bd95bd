import PriceRelay.PackageSet
/-!
Decisions: which feeds an iteration writes, and why.
-/

namespace PriceRelay

/-- The outcome of one evaluation. -/
structure Decision where
  block : Nat := 0
  /-- The feeds to write. -/
  feeds : List FeedId := []
  /-- How near each evaluated deviation came to its threshold. -/
  ratios : FeedMap Float := FeedMap.empty
  /-- The heartbeats that fired, in increasing order. -/
  heartbeats : List Millis := []
  /-- A written feed has a due heartbeat or schedule. -/
  hardDeadline : Bool := false
  messages : List String := []

namespace Decision

def shouldUpdate (decision : Decision) : Bool := !decision.feeds.isEmpty

/-- No deadline depends on the update. -/
def isOptional (decision : Decision) : Bool := !decision.hardDeadline

def rationale (decision : Decision) : String := "; ".intercalate decision.messages

end Decision

/-- Put a heartbeat in its place, once. -/
def insertHeartbeat (heartbeat : Millis) : List Millis → List Millis
  | [] => [heartbeat]
  | first :: rest =>
    if heartbeat < first then heartbeat :: first :: rest
    else if heartbeat = first then first :: rest
    else first :: insertHeartbeat heartbeat rest

end PriceRelay
