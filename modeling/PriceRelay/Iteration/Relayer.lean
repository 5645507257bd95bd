import PriceRelay.Delivery.Manager
import PriceRelay.Iteration.Fetch
/-!
The relayer, and one iteration of it: fetch, decide, deliver. After each iteration it gives a sign
of life.
-/

namespace PriceRelay

structure Relayer where
  fetcher : Fetcher
  engine : Engine
  delivery : DeliveryManager
  /-- How long a sign of life may take. -/
  pingLimit : Millis := 5000
  pausedUntil? : Option Instant := none

/-- What came of an iteration. -/
inductive IterationOutcome where
  | paused
  | noUpdate
  | updated (outcome : DeliveryOutcome)
  deriving DecidableEq

namespace Relayer

/-- The relayer of a configuration. -/
def ofConfig (config : Config) (triggers : TriggerSet) (adapter : Adapter) (rpc : Rpc) :
    Relayer :=
  { fetcher := Fetcher.ofConfig config adapter rpc
    engine :=
      { triggers, fallback := config.fallback, optimization := config.optimization }
    delivery :=
      { adapter, rpc
        settings := DeliverySettings.ofConfig config
        auction? := (AuctionSettings.ofConfig? config).map fun settings =>
          { adapter, rpc, chain := config.chain.id, settings } }
    pingLimit := config.timeouts.healthPing
    pausedUntil? := config.pausedUntil? }

def adapter (relayer : Relayer) : Adapter := relayer.fetcher.adapter

/-- The feeds of the call that carries out a decision. Some contracts refuse updates that leave a
feed out. -/
def feedsToWrite (relayer : Relayer) (decision : Decision) : List FeedId :=
  match relayer.adapter.kind.scope with
  | .perFeed => decision.feeds
  | .allFeeds => relayer.fetcher.feeds

/-- Build the call for a request from fresh packages. -/
def rebuild (relayer : Relayer) (request : Request) : Attempt UpdateCall :=
  Activity.andThen (Task.packages false request) fun packages =>
  Task.clock.bind fun now =>
    relayer.adapter.perform (.build request.feeds packages now)

/-- Build the call for a decision. -/
def deliveryRequest (relayer : Relayer) (fetched : Fetched) (decision : Decision) :
    Attempt DeliveryRequest :=
  let feeds := relayer.feedsToWrite decision
  let request := relayer.fetcher.request feeds fetched.threshold
  Activity.andThen (relayer.adapter.perform (.build feeds fetched.packages fetched.now))
    fun (call : UpdateCall) =>
      .done (.ok
        { call
          packages := fetched.packages
          timestamp := fetched.now
          block := fetched.block
          canOmit := decision.isOptional
          regenerate? := some fun _ => relayer.rebuild request })

/-- Carry out a decision, if it updates anything. -/
def carryOut (relayer : Relayer) (fetched : Fetched) (decision : Decision) :
    Attempt IterationOutcome :=
  if decision.shouldUpdate then
    Activity.andThen (relayer.deliveryRequest fetched decision) fun request =>
    (relayer.delivery.deliver request).bind fun outcome => .done (.ok (.updated outcome))
  else .done (.ok .noUpdate)

/-- An iteration that is not paused. -/
def work (relayer : Relayer) : Attempt IterationOutcome :=
  Activity.andThen relayer.fetcher.fetch fun fetched =>
  (fetched.decide relayer.engine).bind fun decision => relayer.carryOut fetched decision

def paused (until_ : Instant) : Event :=
  ⟨.runner, .warn, s!"Relayer is paused until {until_.offsetText}", ""⟩

/-- One iteration. -/
def iterate (relayer : Relayer) : Attempt IterationOutcome :=
  match relayer.pausedUntil? with
  | none => relayer.work
  | some until_ =>
    Task.clock.bind fun now =>
      if until_.isAfter (Instant.ofMillis now) then
        (Task.note (paused until_)).bind fun _ => .done (.ok .paused)
      else relayer.work

/-- Watch the transaction that an iteration sent. -/
def watch (relayer : Relayer) : Except Failure IterationOutcome → Task Unit
  | .ok (.updated outcome) => relayer.delivery.watch outcome
  | _ => .done ()

def iterationFailed (failure : Failure) : Event :=
  ⟨.runner, .error, "Iteration failed", failure.message⟩

/-- One iteration of a loop: a failure is reported and ends nothing. What is left is to watch what
was sent. -/
def iterateOnce (relayer : Relayer) : Task (Task Unit) :=
  relayer.iterate.bind fun
    | .ok outcome => .done (relayer.watch (.ok outcome))
    | .error failure => (Task.note (iterationFailed failure)).bind fun _ => .done (.done ())

def pingTimedOut : Event := ⟨.runner, .warn, "Healthcheck ping timed out", ""⟩

/-- There will be no more notifications. -/
def streamClosed : Event := ⟨.runner, .warn, "Iteration event stream closed", ""⟩

/-- Give a sign of life; nobody waits for it for long. -/
def ping (relayer : Relayer) : Task Unit :=
  (Activity.within relayer.pingLimit Task.ping).bind fun
    | some _ => .done ()
    | none => Task.note pingTimedOut

end Relayer

end PriceRelay
