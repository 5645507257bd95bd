import PriceRelay.Auction.Lane
import PriceRelay.Delivery.Outcome
/-!
Delivery of an update, once. Where there is an auction it comes first; the update is sent in any
case, unless the auction was lost and the update can wait. Sending is tried several times, and calls
that have grown old are built anew. A delivery is a procedure over those who hold the auction, know
the age of calls, build them and send them.
-/

namespace PriceRelay

/-- An update to deliver. -/
structure DeliveryRequest where
  call : UpdateCall
  /-- What the call was built from. -/
  packages : PackageSet
  timestamp : Millis
  /-- The block that the decision was made on. -/
  block : Nat
  /-- No deadline depends on the update. -/
  canOmit : Bool
  /-- Builds the call from fresh packages, after that many times before. -/
  regenerate? : Option (Nat → Attempt UpdateCall) := none

/-- What a delivery asks for. -/
inductive DeliveryAsk where
  /-- Offer the update in an auction. -/
  | auction (lane : AuctionLane)
  | age (call : UpdateCall)
  /-- Build the call anew, after that many times before. -/
  | regenerate (build : Nat → Attempt UpdateCall) (before : Nat)
  | submit (call : UpdateCall)

def DeliveryAsk.Reply : DeliveryAsk → Type
  | .auction _ => Except AuctionFailure AuctionWin
  | .age _ => Millis
  | .regenerate .. => Except Failure UpdateCall
  | .submit _ => Except Failure Dispatched

/-- The interface of those who take part in a delivery. -/
def deliveryParties : Interface := ⟨DeliveryAsk, DeliveryAsk.Reply⟩

/-- An activity among those who take part in a delivery. -/
abbrev Procedure (α : Type) := Activity deliveryParties α

namespace Procedure

def auction (lane : AuctionLane) : Procedure (Except AuctionFailure AuctionWin) :=
  Activity.question (I := deliveryParties) (.auction lane)

def age (call : UpdateCall) : Procedure Millis :=
  Activity.question (I := deliveryParties) (.age call)

def regenerate (build : Nat → Attempt UpdateCall) (before : Nat) :
    Procedure (Except Failure UpdateCall) :=
  Activity.question (I := deliveryParties) (.regenerate build before)

def submit (call : UpdateCall) : Procedure (Except Failure Dispatched) :=
  Activity.question (I := deliveryParties) (.submit call)

end Procedure

/-- What delivers updates. -/
structure DeliveryManager where
  adapter : Adapter
  rpc : Rpc
  settings : DeliverySettings
  auction? : Option AuctionLane := none

namespace DeliveryManager

/-- The state of a delivery between two attempts. -/
structure Progress where
  /-- Attempts made. -/
  attempts : Nat := 0
  /-- How often the call was built anew, or tried to. -/
  regenerations : Nat := 0
  call : UpdateCall

/-- The call to send in an attempt; none where the attempt is lost. -/
structure Prepared where
  call? : Option UpdateCall
  regenerations : Nat

/-- Is a call of that age too old to be sent as it is? -/
def isStale (manager : DeliveryManager) (age : Millis) : Bool :=
  manager.settings.freshnessBudget < age

/-- Prepare an attempt. An old call is built anew, and so is every call in the first attempt after
an auction. An old call that cannot be built anew is not sent. -/
def prepare (manager : DeliveryManager) (request : DeliveryRequest) (afterAuction : Bool)
    (progress : Progress) : Procedure Prepared :=
  (Procedure.age progress.call).bind fun age =>
  let stale := manager.isStale age
  let refresh := stale || (progress.attempts = 0 && afterAuction)
  match request.regenerate? with
  | some regenerate =>
    if refresh then
      (Procedure.regenerate regenerate progress.regenerations).bind fun
        | .ok fresh => .done ⟨some fresh, progress.regenerations + 1⟩
        | .error _ =>
          .done ⟨if stale then none else some progress.call, progress.regenerations + 1⟩
    else .done ⟨some progress.call, progress.regenerations⟩
  | none => .done ⟨some progress.call, progress.regenerations⟩

/-- Try to send, as often as there are attempts left. The first success ends the delivery. -/
def attempt (manager : DeliveryManager) (request : DeliveryRequest) (afterAuction : Bool) :
    Nat → Progress → Procedure (Option Dispatched)
  | 0, _ => .done none
  | left + 1, progress =>
    (manager.prepare request afterAuction progress).bind fun prepared =>
    let next (call : UpdateCall) : Progress :=
      ⟨progress.attempts + 1, prepared.regenerations, call⟩
    match prepared.call? with
    | none => manager.attempt request afterAuction left (next progress.call)
    | some call =>
      (Procedure.submit call).bind fun
        | .ok dispatched => .done (some dispatched)
        | .error _ => manager.attempt request afterAuction left (next call)

/-- Send a call. -/
def send (manager : DeliveryManager) (request : DeliveryRequest) :
    Procedure (Option Dispatched) :=
  manager.attempt request manager.auction?.isSome manager.settings.maxAttempts
    { call := request.call }

def skipReason (failure : AuctionFailure) : String :=
  s!"auction failed ({failure.message}) and the update was optional"

def failReason (attempts : Nat) : String := s!"Delivery failed after {attempts} attempt(s)"

/-- Send a call, and say how the auction went. -/
def sendAfter (manager : DeliveryManager) (request : DeliveryRequest)
    (auctionWon fallbackUsed : Bool) : Procedure DeliveryOutcome :=
  (manager.send request).bind fun
    | some dispatched => .done (.delivered dispatched.hash auctionWon fallbackUsed)
    | none => .done (.failed (failReason manager.settings.maxAttempts))

/-- The steps of a delivery. -/
def procedure (manager : DeliveryManager) (request : DeliveryRequest) :
    Procedure DeliveryOutcome :=
  match manager.auction? with
  | none => manager.sendAfter request false false
  | some lane =>
    (Procedure.auction lane).bind fun
      | .ok _ => manager.sendAfter request true false
      | .error failure =>
        if request.canOmit && lane.settings.omitOptional then
          .done (.skipped (skipReason failure))
        else manager.sendAfter request false true

/-- Do what a delivery asks for. -/
def serve (manager : DeliveryManager) (request : DeliveryRequest) :
    (question : DeliveryAsk) → Task question.Reply
  | .auction lane => lane.run request.call request.packages request.timestamp request.block
  | .age call => Task.age call
  | .regenerate build before => build before
  | .submit call => manager.adapter.perform (.submit call)

/-- Deliver an update. -/
def deliver (manager : DeliveryManager) (request : DeliveryRequest) : Task DeliveryOutcome :=
  (manager.procedure request).carryOut (manager.serve request)

/-- Watch the transaction that an outcome names. -/
def watch (manager : DeliveryManager) (outcome : DeliveryOutcome) : Task Unit :=
  match outcome.hash? with
  | some hash =>
    Inclusion.watch manager.rpc hash manager.settings.pollInterval manager.settings.receiptTimeout
  | none => .done ()

end DeliveryManager

end PriceRelay
