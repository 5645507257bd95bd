import PriceRelay.Package
/-!
The loop around iterations as a machine. It is either waiting, or busy with one iteration and the
sign of life after it; signals may arrive at any time and are looked at when it waits.
-/

namespace PriceRelay

/-- What starts iterations. -/
inductive Drive where
  /-- A clock that ticks. -/
  | interval
  /-- Notifications from outside. What arrives while the loop is busy is dropped after. -/
  | events
  deriving DecidableEq, Repr

inductive Phase where
  | waiting
  | iterating
  | pinging
  | stopped
  deriving DecidableEq, Repr

inductive Signal where
  | cancelled
  /-- A tick or a notification. -/
  | due
  /-- There will be no more notifications. -/
  | closed
  | iterationEnded
  | pingEnded
  deriving DecidableEq, Repr

structure Loop where
  drive : Drive
  phase : Phase := .waiting
  /-- Ticks or notifications that were not looked at yet. -/
  pending : Nat := 0
  isCancelled : Bool := false
  isClosed : Bool := false
  deriving DecidableEq, Repr

namespace Loop

/-- Take note of a signal. -/
def receive (loop : Loop) : Signal → Loop
  | .cancelled => { loop with isCancelled := true }
  | .due => { loop with pending := loop.pending + 1 }
  | .closed => { loop with isClosed := true }
  | .iterationEnded =>
    if loop.phase = .iterating then { loop with phase := .pinging } else loop
  | .pingEnded =>
    if loop.phase = .pinging then
      { loop with
        phase := .waiting
        pending := match loop.drive with
          | .interval => loop.pending
          | .events => 0 }
    else loop

/-- Look around while waiting: cancellation goes before work, and work before the end of the
notifications. -/
def turn (loop : Loop) : Loop :=
  if loop.phase = .waiting then
    if loop.isCancelled then { loop with phase := .stopped }
    else if 0 < loop.pending then { loop with phase := .iterating, pending := loop.pending - 1 }
    else if loop.isClosed then { loop with phase := .stopped }
    else loop
  else loop

def step (loop : Loop) (signal : Signal) : Loop := (loop.receive signal).turn

/-- The states after each of some signals. -/
def states (loop : Loop) : List Signal → List Loop
  | [] => []
  | signal :: rest => loop.step signal :: (loop.step signal).states rest

/-- Did the loop stop because there was nothing left to wait for? -/
def ranDry (loop : Loop) : Bool := loop.phase = .stopped && !loop.isCancelled

end Loop

/-- A clock that ticks once per period, and starts anew after it was kept waiting. -/
structure Ticker where
  period : Millis
  /-- The next tick. -/
  deadline : Millis := 0
  deriving DecidableEq, Repr

namespace Ticker

/-- A tick that is this late counts as being on time. -/
def leeway : Millis := 5

/-- The clock after a tick was taken. -/
def taken (ticker : Ticker) (now : Millis) : Ticker :=
  if ticker.deadline + leeway < now then { ticker with deadline := now + ticker.period }
  else { ticker with deadline := ticker.deadline + ticker.period }

end Ticker

end PriceRelay
