import PriceRelay.Activity.Beside
import PriceRelay.Adapter.Kind
import PriceRelay.Auction.Request
import PriceRelay.Chain.Rpc
import PriceRelay.Contract
import PriceRelay.Failure
import PriceRelay.Request
import PriceRelay.Web.Basic
/-!
The world around a relayer: nodes of the chain, gateways, the auction, the holder of the key,
servers on the web, and those who watch. Every answer but those of a clock may take time, and may be
a failure.
-/

namespace PriceRelay

inductive Level where
  | debug
  | info
  | warn
  | error
  deriving DecidableEq, Repr

def Level.name : Level → String
  | .debug => "DEBUG"
  | .info => "INFO"
  | .warn => "WARN"
  | .error => "ERROR"

/-- The parts of a relayer that report. -/
inductive Reporter where
  | provider
  | auction
  | monitor
  | runner
  | health
  deriving DecidableEq, Repr

/-- Something worth telling those who watch. -/
structure Event where
  reporter : Reporter
  level : Level
  message : String
  /-- The error or status that the event is about. -/
  detail : String := ""
  deriving DecidableEq, Repr

/-- What an adapter contract can be asked for. -/
inductive AdapterCall where
  /-- The stored state of feeds at a block. Feeds that the contract does not report are absent. -/
  | readState (feeds : List FeedId) (block : Nat)
  /-- How many signers an update needs. -/
  | threshold (block : Nat)
  /-- The call that updates feeds from packages, noted with a timestamp. -/
  | build (feeds : List FeedId) (packages : PackageSet) (timestamp : Millis)
  | submit (call : UpdateCall)
  /-- The values of feeds right after an update on top of a block; nothing is sent. -/
  | simulate (update : Bytes) (feeds : List FeedId) (block : Nat)

def AdapterCall.Answer : AdapterCall → Type
  | .readState .. => ContractState
  | .threshold _ => Nat
  | .build .. => UpdateCall
  | .submit _ => Dispatched
  | .simulate .. => List Nat

/-- What a relayer asks. -/
inductive Ask where
  | rpc (provider : Nat) (call : RpcCall)
  /-- Packages of the gateways; those for past packages may be others. -/
  | packages (past : Bool) (request : Request)
  /-- Bids on an update: signed transactions. -/
  | bids (leg : FeedId) (request : AuctionRequest)
  | adapter (call : AdapterCall)
  /-- Sign and send an update. -/
  | submit (call : UpdateCall)
  | sign (message : String)
  /-- How old a call is by now; a millisecond that has begun counts. -/
  | age (call : UpdateCall)
  /-- A sign of life. -/
  | ping
  | fetch (call : WebCall)
  | clock
  | note (event : Event)

/-- An answer and the time it takes. -/
structure Timed (α : Type) where
  delay : Millis
  answer : Except Failure α

def Ask.Reply : Ask → Type
  | .rpc _ call => Timed call.Answer
  | .packages .. => Timed PackageSet
  | .bids .. => Timed (List Bytes)
  | .adapter call => Timed call.Answer
  | .submit _ => Timed Dispatched
  | .sign _ => Timed Bytes
  | .age _ => Millis
  | .ping => Timed Unit
  | .fetch _ => Timed WebAnswer
  | .clock => Millis
  | .note _ => Unit

/-- The interface of the world. -/
def world : Interface := ⟨Ask, Ask.Reply⟩

/-- An activity in the world. -/
abbrev Task (α : Type) := Activity world α

/-- An activity that may fail. -/
abbrev Attempt (α : Type) := Task (Except Failure α)

namespace Task

variable {α : Type}

/-- Let time pass, if there is any. -/
def after (delay : Millis) (next : Task α) : Task α :=
  if delay = 0 then next else .sleep delay next

/-- The answer, once its time has passed. -/
def settle (timed : Timed α) : Attempt α := after timed.delay (.done timed.answer)

def rpc (provider : Nat) (call : RpcCall) : Attempt call.Answer := .ask (.rpc provider call) settle

def packages (past : Bool) (request : Request) : Attempt PackageSet :=
  .ask (.packages past request) settle

def bids (leg : FeedId) (request : AuctionRequest) : Attempt (List Bytes) :=
  .ask (.bids leg request) settle

def adapter (call : AdapterCall) : Attempt call.Answer := .ask (.adapter call) settle

def submit (call : UpdateCall) : Attempt Dispatched := .ask (.submit call) settle

def sign (message : String) : Attempt Bytes := .ask (.sign message) settle

def ping : Attempt Unit := .ask .ping settle

def fetch (call : WebCall) : Attempt WebAnswer := .ask (.fetch call) settle

def age (call : UpdateCall) : Task Millis := Activity.question (I := world) (.age call)

def clock : Task Millis := Activity.question (I := world) .clock

def note (event : Event) : Task Unit := Activity.question (I := world) (.note event)

/-- What was being done, should it fail. -/
def context (what : String) (attempt : Attempt α) : Attempt α :=
  Activity.mapError (Failure.context what) attempt

/-- A success or a failure that is known already. -/
def ofExcept (result : Except Failure α) : Attempt α := .done result

end Task

/-- A node of the chain, or several behind one. -/
structure Rpc where
  request : (call : RpcCall) → Attempt call.Answer

/-- The node of that number. -/
def Rpc.node (provider : Nat) : Rpc := ⟨Task.rpc provider⟩

/-- An adapter contract. -/
structure Adapter where
  kind : AdapterKind
  contract : Address
  perform : (call : AdapterCall) → Attempt call.Answer

end PriceRelay
