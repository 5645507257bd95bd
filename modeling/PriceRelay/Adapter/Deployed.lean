import PriceRelay.Adapter.Contract
import PriceRelay.Payload
import PriceRelay.Text.Quoted
import PriceRelay.World
/-!
Adapters over deployed contracts: they read the stored state through a node of the chain, and write
feeds by update calls with a payload behind.
-/

namespace PriceRelay

namespace Adapter

/-- A contract of some kind, and how it is reached. -/
structure Site where
  kind : AdapterKind
  contract : Address
  rpc : Rpc
  /-- The account that sends updates. -/
  sender : Address

namespace Site

def payloadFailure (error : PayloadError) : Failure := .text error.message

/-- The slots of some feeds. -/
def slots (feeds : List FeedId) : Except Failure (List Hash) :=
  (feeds.mapM Payload.feedSlot).mapError payloadFailure

/-- Read an answer of the contract. -/
def decoded {α : Type} (failure : Failure) (read? : Bytes → Option α) (answer : Bytes) :
    Attempt α :=
  match read? answer with
  | some value => .done (.ok value)
  | none => .done (.error failure)

def call (site : Site) (data : Bytes) (block : Nat) : Attempt Bytes :=
  site.rpc.request (.call site.contract data block)

/-- A state for as many feeds as the contract reports, in order. -/
def stateOf (feeds : List FeedId) (snapshots : List Snapshot) : ContractState :=
  FeedMap.ofList (feeds.zip snapshots)

def readEach (site : Site) (feeds : List FeedId) (block : Nat) : Attempt ContractState :=
  Activity.andThen (Task.ofExcept (slots feeds)) fun slots =>
  Activity.andThen (Task.context "Failed to read last update details"
    (site.call (AdapterContract.detailsCall slots) block)) fun answer =>
  Activity.andThen (decoded (.text "Malformed last update details") AdapterContract.details? answer)
    fun snapshots => .done (.ok (stateOf feeds snapshots))

def readTimestamps (site : Site) (block : Nat) : Attempt (Nat × Nat) :=
  Activity.andThen (Task.context "Failed to read latest update timestamps"
    (site.call AdapterContract.timestampsCall block))
    (decoded .undecodable AdapterContract.timestamps?)

def readValues (site : Site) (slots : List Hash) (block : Nat) : Attempt (List Nat) :=
  Activity.andThen (Task.context "Failed to read feed values"
    (site.call (AdapterContract.valuesCall slots) block))
    (decoded .undecodable AdapterContract.values?)

def readTogether (site : Site) (feeds : List FeedId) (block : Nat) :
    Attempt ContractState :=
  Activity.andThen (Task.ofExcept (slots feeds)) fun slots =>
  Activity.andThen (Activity.tryBoth (site.readTimestamps block) (site.readValues slots block))
    fun ((dataTimestamp, blockSeconds), values) =>
      .done (.ok (stateOf feeds
        (values.map (AdapterContract.snapshot dataTimestamp blockSeconds))))

def readState (site : Site) (feeds : List FeedId) (block : Nat) : Attempt ContractState :=
  match site.kind with
  | .multiFeed => site.readEach feeds block
  | .priceFeeds => site.readTogether feeds block

def threshold (site : Site) (block : Nat) : Attempt Nat :=
  Activity.andThen (site.call AdapterContract.thresholdCall block)
    (decoded .undecodable AdapterContract.threshold?)

private def payload (packages : List Package) (timestamp : Millis) : Except Failure Bytes :=
  (Payload.encode packages timestamp).mapError payloadFailure

private def updateCall (site : Site) (data : Bytes) (feeds : List FeedId) : UpdateCall :=
  { sender := site.sender, target := site.contract, data, feeds }

private def noPackages (feeds : List FeedId) : Failure :=
  .text s!"No packages available for feeds {Text.quotedList feeds}"

/-- Write the feeds that have packages. -/
def buildSome (site : Site) (feeds : List FeedId) (set : PackageSet) (timestamp : Millis) :
    Except Failure UpdateCall := do
  let covered := feeds.filter (set.has ·)
  let packages := set.packagesFor covered
  if packages.isEmpty then throw (noPackages feeds)
  let head := AdapterContract.updateSomeCall (← slots covered)
  return site.updateCall (head ++ (← payload packages timestamp)) covered

/-- Write all feeds, under the oldest timestamp of their packages. -/
def buildAll (site : Site) (feeds : List FeedId) (set : PackageSet) (timestamp : Millis) :
    Except Failure UpdateCall := do
  let missing := feeds.filter fun feed => !set.has feed
  if !missing.isEmpty then
    throw (.text s!"Cannot update all feeds, no packages for {Text.quotedList missing}")
  let packages := set.packagesFor feeds
  match (packages.map (·.timestamp)).min? with
  | none => throw (noPackages feeds)
  | some proposed =>
    let head := AdapterContract.updateAllCall proposed
    return site.updateCall (head ++ (← payload packages timestamp)) feeds

def build (site : Site) (feeds : List FeedId) (set : PackageSet) (timestamp : Millis) :
    Except Failure UpdateCall :=
  match site.kind with
  | .multiFeed => site.buildSome feeds set timestamp
  | .priceFeeds => site.buildAll feeds set timestamp

/-- The data of the second of two successful results. -/
private def secondResult (results : List Multicall.Result) : Except Failure Bytes :=
  match results with
  | [_, read] =>
    if read.success then .ok read.data
    else .error (.text "Simulated update returned no feed values")
  | _ => .error (.text "Simulated update returned no feed values")

/-- The values that can be read right after an update. -/
def simulate (site : Site) (update : Bytes) (feeds : List FeedId) (block : Nat) :
    Attempt (List Nat) :=
  Activity.andThen (Task.ofExcept (slots feeds)) fun slots =>
  Activity.andThen (Task.context "Update simulation failed"
    (site.rpc.request (.call Multicall.address
      (Multicall.call site.contract [update, AdapterContract.valuesCall slots]) block)))
    fun answer =>
  Activity.andThen (decoded (.text "Malformed simulation result") Multicall.results? answer)
    fun results =>
  Activity.andThen (Task.ofExcept (secondResult results))
    (decoded .undecodable AdapterContract.values?)

def perform (site : Site) : (call : AdapterCall) → Attempt call.Answer
  | .readState feeds block => site.readState feeds block
  | .threshold block => site.threshold block
  | .build feeds packages timestamp => .done (site.build feeds packages timestamp)
  | .submit call => Task.submit call
  | .simulate update feeds block => site.simulate update feeds block

end Site

/-- The adapter at a site. -/
def atSite (site : Site) : Adapter := ⟨site.kind, site.contract, site.perform⟩

/-- An adapter that the world answers for. -/
def ofWorld (kind : AdapterKind) (contract : Address) : Adapter := ⟨kind, contract, Task.adapter⟩

end Adapter

end PriceRelay
