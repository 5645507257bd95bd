import PriceRelay.Config.Basic
import PriceRelay.Decision.Engine
import PriceRelay.World
/-!
What an iteration looks at, fetched once: the block number, then the adapter's state and threshold
at that block, then packages. Past packages are asked for only if a decision depends on them.
-/

namespace PriceRelay

/-- What inputs are fetched, and from where. -/
structure Fetcher where
  adapter : Adapter
  rpc : Rpc
  feeds : List FeedId
  service : String
  authorized? : Option (List Address) := none
  fallback : Fallback := {}

/-- The inputs of one iteration. -/
structure Fetched where
  block : Nat
  now : Millis
  /-- How many signers an update needs. -/
  threshold : Nat
  contract : ContractState
  packages : PackageSet
  /-- The request for past packages, where they may be needed. -/
  pastRequest? : Option Request := none

namespace Fetcher

def ofConfig (config : Config) (adapter : Adapter) (rpc : Rpc) : Fetcher :=
  { adapter, rpc
    feeds := config.feedIds
    service := config.service
    authorized? := config.authorizedSigners?
    fallback := config.fallback }

/-- The request for the latest packages of some feeds. -/
def request (fetcher : Fetcher) (feeds : List FeedId) (threshold : Nat) : Request :=
  { service := fetcher.service
    signers := UInt8.ofNat threshold
    feeds
    authorized? := fetcher.authorized? }

/-- A backup may need the packages that the main relayer saw. -/
def pastRequest? (fetcher : Fetcher) (request : Request) (now : Millis) : Option Request :=
  if fetcher.fallback.isActive then some (request.pinned (pastInstant now fetcher.fallback.offset))
  else none

/-- Fetch the inputs at a block. -/
def fetchAt (fetcher : Fetcher) (block : Nat) : Attempt Fetched :=
  Activity.andThen
    (Activity.tryBoth (fetcher.adapter.perform (.readState fetcher.feeds block))
      (fetcher.adapter.perform (.threshold block)))
    fun ((contract, threshold) : ContractState × Nat) =>
  let request := fetcher.request fetcher.feeds threshold
  Activity.andThen (Task.context "Failed to fetch data packages" (Task.packages false request))
    fun packages =>
  Task.clock.bind fun now =>
    .done (.ok
      { block, now, threshold, contract, packages
        pastRequest? := fetcher.pastRequest? request now })

/-- Fetch the inputs of an iteration. -/
def fetch (fetcher : Fetcher) : Attempt Fetched :=
  Activity.andThen
    (Task.context "Failed to fetch block number" (fetcher.rpc.request .blockNumber))
    fun (block : Nat) => fetcher.fetchAt block

end Fetcher

namespace Fetched

/-- The inputs, and the answer that the source of past packages would give. -/
def contextWith (fetched : Fetched) (answer : Option PackageSet) : IterationContext :=
  { block := fetched.block
    now := fetched.now
    contract := fetched.contract
    packages := fetched.packages
    past := match fetched.pastRequest? with
      | some _ => PastPackages.ofAnswer answer
      | none => PastPackages.unavailable }

/-- Does a decision depend on past packages? What they would be does not matter for that. -/
def needsPast (fetched : Fetched) (engine : Engine) : Bool :=
  0 < (engine.evaluate (fetched.contextWith none)).2.requests

/-- Ask for past packages; without them the decision is made as if there were no source. -/
def askPast (request : Request) : Task (Option PackageSet) :=
  (Task.packages true request).bind fun
    | .ok packages => .done (some packages)
    | .error _ => .done none

/-- Decide which feeds to write. -/
def decide (fetched : Fetched) (engine : Engine) : Task Decision :=
  let decideWith (answer : Option PackageSet) : Decision :=
    (engine.evaluate (fetched.contextWith answer)).1
  match fetched.pastRequest? with
  | some request =>
    if fetched.needsPast engine then
      (askPast request).bind fun answer => .done (decideWith answer)
    else .done (decideWith none)
  | none => .done (decideWith none)

end Fetched

end PriceRelay
