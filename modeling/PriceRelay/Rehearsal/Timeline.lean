import PriceRelay.Iteration.Loop
import PriceRelay.Iteration.Relayer
import PriceRelay.Rehearsal.Stage
/-!
Rehearsals of whole runs: a relayer on a stage, with signals that come at given times.
-/

namespace PriceRelay

/-- What happens to a loop from outside, and when. -/
structure Timeline where
  cancelAt? : Option Millis := none
  /-- Cancel at the sign of life of this number. -/
  cancelAtPing? : Option Nat := none
  arrivals : List Millis := []
  closeAt? : Option Millis := none

namespace Timeline

private def upTo (later earlier : Millis × Signal) : Bool := later.1 ≤ earlier.1

/-- The signals in the order of their times. Of several at one time a cancellation comes first. -/
def signals (timeline : Timeline) : List (Millis × Signal) :=
  let cancel := timeline.cancelAt?.toList.map fun time => (time, Signal.cancelled)
  let arrivals := timeline.arrivals.map fun time => (time, Signal.due)
  let close := timeline.closeAt?.toList.map fun time => (time, Signal.closed)
  (cancel ++ arrivals ++ close).mergeSort upTo

end Timeline

/-- A run under way. -/
structure Rehearsal where
  relayer : Relayer
  ticker? : Option Ticker
  cancelAtPing? : Option Nat
  /-- Signals to come. -/
  signals : List (Millis × Signal)
  loop : Loop
  stage : Stage
  now : Millis := 0
  /-- Transactions that are being watched. -/
  background : Task Unit := .done ()

namespace Rehearsal

/-- Play a task next to what goes on in the background. -/
def play {α : Type} (rehearsal : Rehearsal) (task : Task α) : α × Rehearsal :=
  let run := rehearsal.stage.play (task.alongside rehearsal.background)
  (run.result.1,
    { rehearsal with
      stage := run.state
      now := rehearsal.now + run.elapsed
      background := run.result.2 })

def step (rehearsal : Rehearsal) (signal : Signal) : Rehearsal :=
  { rehearsal with loop := rehearsal.loop.step signal }

/-- Hand over the signals of earlier times. -/
def handOver (rehearsal : Rehearsal) (time : Millis) : Rehearsal :=
  let (past, future) := rehearsal.signals.span fun signal => signal.1 < time
  past.foldl (fun rehearsal signal => rehearsal.step signal.2) { rehearsal with signals := future }

/-- Hand over what came while the loop was busy. At one instant the loop goes on before a signal
comes. -/
def catchUp (rehearsal : Rehearsal) : Rehearsal := rehearsal.handOver rehearsal.now

/-- Is this the sign of life that cancels the run? -/
def isLastPing (rehearsal : Rehearsal) : Bool :=
  match rehearsal.cancelAtPing? with
  | some limit => limit ≤ rehearsal.stage.pings
  | none => false

/-- Wait for the next signal, or for the next tick. -/
def waitForSignal (rehearsal : Rehearsal) : Option Rehearsal :=
  let waitUntil (time : Millis) : Rehearsal :=
    (rehearsal.play (Task.after (time - rehearsal.now) (.done ()))).2
  let tick (ticker : Ticker) : Rehearsal :=
    let waited := waitUntil ticker.deadline
    { waited.step .due with ticker? := some (ticker.taken waited.now) }
  match rehearsal.signals, rehearsal.ticker? with
  | [], none => none
  | [], some ticker => some (tick ticker)
  | (time, signal) :: rest, some ticker =>
    if time < ticker.deadline then
      some ({ waitUntil time with signals := rest }.step signal)
    else some (tick ticker)
  | (time, signal) :: rest, none => some ({ waitUntil time with signals := rest }.step signal)

/-- Go on from state to state, up to a bound, until the loop stops or waits in vain. -/
def runFor : Nat → Rehearsal → Rehearsal
  | 0, rehearsal => rehearsal
  | bound + 1, rehearsal =>
    match rehearsal.loop.phase with
    | .stopped => rehearsal
    | .iterating =>
      let (watch, rehearsal) := rehearsal.play rehearsal.relayer.iterateOnce
      let rehearsal :=
        { rehearsal with background := Activity.merge rehearsal.background watch }
      runFor bound (rehearsal.catchUp.step .iterationEnded)
    | .pinging =>
      let (_, rehearsal) := rehearsal.play rehearsal.relayer.ping
      let rehearsal := if rehearsal.isLastPing then rehearsal.step .cancelled else rehearsal
      runFor bound (rehearsal.catchUp.step .pingEnded)
    | .waiting =>
      match rehearsal.waitForSignal with
      | some rehearsal => runFor bound rehearsal
      | none => rehearsal

/-- Report the end of a run. -/
def finish (rehearsal : Rehearsal) : Rehearsal :=
  if rehearsal.loop.ranDry then
    { rehearsal with
      stage := { rehearsal.stage with events := Relayer.streamClosed :: rehearsal.stage.events } }
  else rehearsal

/-- A relayer at the start of a run that is driven by a clock, or else by notifications. Signals of
time zero came before. -/
def start (relayer : Relayer) (stage : Stage) (ticker? : Option Ticker) (timeline : Timeline) :
    Rehearsal :=
  let rehearsal : Rehearsal :=
    { relayer, stage, ticker?
      cancelAtPing? := timeline.cancelAtPing?
      signals := timeline.signals
      loop := { drive := if ticker?.isSome then .interval else .events } }
  rehearsal.handOver 1

/-- No run goes through more states than this. -/
def stateBound (rehearsal : Rehearsal) : Nat :=
  let period := (rehearsal.ticker?.map (·.period)).getD 1
  let last := (rehearsal.signals.getLast?.map (·.1)).getD 0
  4 * (rehearsal.signals.length + last / max period 1 + rehearsal.cancelAtPing?.getD 0 + 2)

/-- A whole run. -/
def run (rehearsal : Rehearsal) : Rehearsal := (runFor rehearsal.stateBound rehearsal).finish

/-- Some iterations, one after another. -/
def iterations : Nat → Rehearsal → List (Except Failure IterationOutcome) × Rehearsal
  | 0, rehearsal => ([], rehearsal)
  | count + 1, rehearsal =>
    let relayer := rehearsal.relayer
    let (outcome, rehearsal) := rehearsal.play relayer.iterate
    let rehearsal :=
      { rehearsal with background := Activity.merge rehearsal.background (relayer.watch outcome) }
    let (outcomes, rehearsal) := iterations count rehearsal
    (outcome :: outcomes, rehearsal)

end Rehearsal

end PriceRelay
