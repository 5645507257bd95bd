import PriceRelay.Auction.Agreement
import PriceRelay.Chain.Inclusion
import PriceRelay.Chain.SignedTransaction
import PriceRelay.Delivery.Settings
/-!
The auction phase of delivery. An update is offered in legs, one per feed where feeds are written
one by one. The legs race, and so do the transactions that a leg gets back: the first that passes
all checks wins.
-/

namespace PriceRelay

/-- A leg that was won by a transaction. -/
structure AuctionWin where
  leg : FeedId
  hash : Hash
  deriving DecidableEq

/-- What an auction works with. -/
structure AuctionLane where
  adapter : Adapter
  rpc : Rpc
  chain : Nat
  settings : AuctionSettings

namespace AuctionLane

/-- An activity that ends with a result, or with why there is none. -/
abbrev Trial (α : Type) := Task (Except AuctionFailure α)

variable {α : Type}

/-- The leg of an update that writes all feeds. -/
def batchLeg : FeedId := "all-feeds"

def trial (attempt : Attempt α) : Trial α := Activity.mapError .other attempt

/-- Build one call per feed. -/
def feedLegs (lane : AuctionLane) (packages : PackageSet) (timestamp : Millis) :
    List FeedId → Attempt (List (FeedId × UpdateCall))
  | [] => .done (.ok [])
  | feed :: rest =>
    Activity.andThen (lane.adapter.perform (.build [feed] packages timestamp))
      fun (call : UpdateCall) =>
    Activity.andThen (feedLegs lane packages timestamp rest) fun legs =>
      .done (.ok ((feed, call) :: legs))

def legs (lane : AuctionLane) (call : UpdateCall) (packages : PackageSet) (timestamp : Millis) :
    Attempt (List (FeedId × UpdateCall)) :=
  match lane.adapter.kind.scope with
  | .allFeeds => .done (.ok [(batchLeg, call)])
  | .perFeed => lane.feedLegs packages timestamp call.feeds

/-- The transaction has to write the values that were served. -/
def checkPrices (lane : AuctionLane) (transaction : SignedTransaction) (feeds : List FeedId)
    (packages : PackageSet) (block : Nat) : Trial Unit :=
  Activity.andThen (trial (lane.adapter.perform (.simulate transaction.input feeds block)))
    fun (values : List Nat) =>
      .done (Auction.checkValues transaction.hash packages feeds values)

/-- The transaction has to be included, and successful. -/
def checkIncluded (lane : AuctionLane) (hash : Hash) : Trial Unit :=
  (Inclusion.wait lane.rpc hash lane.settings.pollInterval lane.settings.verification).bind fun
    | .error _ => .done (.error (.verificationTimedOut hash))
    | .ok receipt => .done (if receipt.success then .ok () else .error (.reverted hash))

/-- The transaction has to pay the current price, unless that does not matter. -/
def checkGasPrice (lane : AuctionLane) (transaction : SignedTransaction) : Trial Unit :=
  if lane.settings.verifyGasPrice then
    Activity.andThen (trial (lane.rpc.request .gasPrice)) fun (current : Nat) =>
      .done <|
        if transaction.maxFee < current then
          .error (.gasPriceTooLow transaction.hash transaction.maxFee current)
        else .ok ()
  else .done (.ok ())

/-- All checks side by side; the first that fails decides. -/
def checks (lane : AuctionLane) (transaction : SignedTransaction) (feeds : List FeedId)
    (packages : PackageSet) (block : Nat) : Trial Unit :=
  Activity.andThen
    (Activity.tryBoth (lane.checkPrices transaction feeds packages block)
      (Activity.tryBoth (lane.checkIncluded transaction.hash) (lane.checkGasPrice transaction)))
    fun _ => .done (.ok ())

/-- Check a transaction for some feeds. It is sent again first; whether that works does not
matter. -/
def verifyTransaction (lane : AuctionLane) (transaction : SignedTransaction) (feeds : List FeedId)
    (packages : PackageSet) (block : Nat) : Trial Hash :=
  if transaction.target? = some lane.adapter.contract then
    (lane.rpc.request (.send transaction.raw)).bind fun _ =>
    (Activity.within lane.settings.verification
      (lane.checks transaction feeds packages block)).bind fun
        | none => .done (.error (.verificationTimedOut transaction.hash))
        | some (.error failure) => .done (.error failure)
        | some (.ok ()) => .done (.ok transaction.hash)
  else .done (.error (.wrongTarget transaction.hash transaction.target?))

/-- Check one of the blobs that an auction returned. -/
def verify (lane : AuctionLane) (feeds : List FeedId) (packages : PackageSet) (block : Nat)
    (blob : Bytes) : Trial Hash :=
  match SignedTransaction.decode blob with
  | .error failure => .done (.error (.other failure))
  | .ok transaction => lane.verifyTransaction transaction feeds packages block

def verified : Event := ⟨.auction, .info, "Auction transaction verified", ""⟩

def rejected (failure : AuctionFailure) : Event :=
  ⟨.auction, .debug, "Auction transaction rejected", failure.message⟩

def legFailed (failure : AuctionFailure) : Event :=
  ⟨.auction, .warn, "Auction leg failed", failure.message⟩

/-- Report a failure. -/
def reporting (event : AuctionFailure → Event) (trial : Trial α) : Trial α :=
  trial.bind fun
    | .ok result => .done (.ok result)
    | .error failure => (Task.note (event failure)).bind fun _ => .done (.error failure)

def request (lane : AuctionLane) (payload signature : Bytes) : AuctionRequest :=
  { adapter := lane.adapter.contract
    payload
    signature
    chain := AuctionRequest.chainText lane.chain }

/-- Ask for transactions. There has to be one, and it has to come soon. -/
def blobs (lane : AuctionLane) (leg : FeedId) (request : AuctionRequest) : Trial (List Bytes) :=
  (Activity.within lane.settings.resolve (Task.bids leg request)).bind fun
    | none =>
      .done (.error (.leg leg s!"no answer within {Text.duration lane.settings.resolve}"))
    | some (.error failure) => .done (.error (.leg leg failure.message))
    | some (.ok []) => .done (.error (.leg leg "auction returned no transactions"))
    | some (.ok blobs) => .done (.ok blobs)

/-- The first of some blobs that passes all checks. -/
def firstVerified (lane : AuctionLane) (leg : FeedId) (feeds : List FeedId)
    (packages : PackageSet) (block : Nat) (blobs : List Bytes) : Trial Hash :=
  Activity.race (.leg leg "no transaction verified")
    (blobs.map fun blob => reporting rejected (lane.verify feeds packages block blob))

/-- One leg: sign, offer, and check what comes back. -/
def runLeg (lane : AuctionLane) (packages : PackageSet) (block : Nat) (leg : FeedId)
    (call : UpdateCall) : Trial AuctionWin :=
  Activity.andThen
    (trial (Task.sign (AuctionRequest.message lane.chain lane.adapter.contract call.data)))
    fun signature =>
  Activity.andThen (lane.blobs leg (lane.request call.data signature)) fun blobs =>
  Activity.andThen (lane.firstVerified leg call.feeds packages block blobs) fun hash =>
    (Task.note verified).bind fun _ => .done (.ok ⟨leg, hash⟩)

/-- The first leg that is won. -/
def raceLegs (lane : AuctionLane) (packages : PackageSet) (block : Nat)
    (legs : List (FeedId × UpdateCall)) : Trial AuctionWin :=
  Activity.race .noVerifiedLeg
    (legs.map fun (leg, call) => reporting legFailed (lane.runLeg packages block leg call))

/-- Run an auction for an update on top of a block. -/
def run (lane : AuctionLane) (call : UpdateCall) (packages : PackageSet) (timestamp : Millis)
    (block : Nat) : Trial AuctionWin :=
  Activity.andThen (trial (lane.legs call packages timestamp)) fun legs =>
  (Activity.within lane.settings.total (lane.raceLegs packages block legs)).bind fun
    | none => .done (.error (.timedOut lane.settings.total))
    | some (.error _) => .done (.error .noVerifiedLeg)
    | some (.ok win) => .done (.ok win)

end AuctionLane

end PriceRelay
