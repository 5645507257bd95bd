import PriceRelay.Activity.Run
import PriceRelay.Rehearsal.Node
import PriceRelay.Rehearsal.Partner
/-!
A world that follows scripts and records what it is asked. Relayers are rehearsed on it.
-/

namespace PriceRelay

structure Stage where
  nodes : List NodeRole := []
  latest : Script PackageSet := []
  past : Script PackageSet := []
  /-- Requests for packages, latest first, and whether they were for past ones. -/
  requests : List (Bool × Request) := []
  bids : Script (List Bytes) := []
  bidRequests : List (FeedId × AuctionRequest) := []
  adapter : AdapterRole := {}
  signer : SignerRole := {}
  health : Script Unit := []
  /-- The servers that answer, by URL. No other can be reached. -/
  web : Script WebAnswer := []
  pings : Nat := 0
  events : List Event := []
  now : Millis := 0

namespace Stage

/-- The key under which the answers of a source stand. -/
def sourceKey : String := "source"

/-- Answer from the script of a leg, or from that of all other legs. -/
def bidAnswer (bids : Script (List Bytes)) (leg : FeedId) :
    Timed (List Bytes) × Script (List Bytes) :=
  if bids.has leg then bids.take leg
  else if bids.has "*" then bids.take "*"
  else (⟨0, .error (.text s!"no bid for {leg}")⟩, bids)

/-- Change the node of a number; one that is not there stays silent. -/
def askNode (call : RpcCall) : Nat → List NodeRole → Timed call.Answer × List NodeRole
  | _, [] => (Script.missing call.name, [])
  | 0, role :: rest =>
    let (timed, role) := role.answer call
    (timed, role :: rest)
  | provider + 1, role :: rest =>
    let (timed, rest) := askNode call provider rest
    (timed, role :: rest)

/-- Answer one question. A call is a moment older than it was when it was handed over. -/
def answer : (ask : Ask) → Stage → ask.Reply × Stage
  | .rpc provider call, stage =>
    let (timed, nodes) := askNode call provider stage.nodes
    (timed, { stage with nodes })
  | .packages past request, stage =>
    let stage := { stage with requests := (past, request) :: stage.requests }
    if past then
      let (timed, past) := stage.past.take sourceKey
      (timed, { stage with past })
    else
      let (timed, latest) := stage.latest.take sourceKey
      (timed, { stage with latest })
  | .bids leg request, stage =>
    let (timed, bids) := bidAnswer stage.bids leg
    (timed, { stage with bids, bidRequests := (leg, request) :: stage.bidRequests })
  | .adapter call, stage =>
    let (timed, adapter) := stage.adapter.answer call
    (timed, { stage with adapter })
  | .submit call, stage =>
    let (timed, signer) := stage.signer.submit call
    (timed, { stage with signer })
  | .sign message, stage =>
    let (timed, signer) := stage.signer.sign message
    (timed, { stage with signer })
  | .age call, stage => (call.age + 1, stage)
  | .ping, stage =>
    let stage := { stage with pings := stage.pings + 1 }
    if stage.health.has "ping" then
      let (timed, health) := stage.health.take "ping"
      (timed, { stage with health })
    else (Timed.now (), stage)
  | .fetch call, stage =>
    if stage.web.has call.url then
      let (timed, web) := stage.web.take call.url
      (timed, { stage with web })
    else (⟨0, .error .transport⟩, stage)
  | .clock, stage => (stage.now, stage)
  | .note event, stage => ((), { stage with events := event :: stage.events })

/-- The stage as a world to run in. -/
def host : Host world Stage := ⟨answer⟩

/-- Run an activity on a stage. -/
def play {α : Type} (stage : Stage) (task : Task α) : Run Stage α := task.run host stage

end Stage

end PriceRelay
