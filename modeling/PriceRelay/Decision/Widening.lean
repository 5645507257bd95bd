import PriceRelay.Decision.Basic
import PriceRelay.Config.Basic
import PriceRelay.Number.Text
/-!
Widening of an update that is made anyway. A candidate joins when its deviation is near its
threshold, when its heartbeat divides one that fired, and when a package that is already sent serves
it; the last is repeated until nothing more joins.
-/

namespace PriceRelay

/-- A feed that may join, with its heartbeat. -/
structure Candidate where
  feed : FeedId
  heartbeat? : Option Millis := none
  deriving DecidableEq, Repr

namespace Widening

/-- The feeds selected so far and what was said about those that joined. -/
structure State where
  selected : List FeedId
  messages : List String := []

/-- Let every candidate join that has a reason. The reason sees the selection at that moment. -/
def sweep (reason? : List FeedId → Candidate → Option String) (state : State)
    (candidates : List Candidate) : State :=
  candidates.foldl (fun state candidate =>
    if state.selected.contains candidate.feed then state
    else
      match reason? state.selected candidate with
      | none => state
      | some reason =>
        { selected := state.selected ++ [candidate.feed]
          messages := state.messages
            ++ [s!"Feed {candidate.feed} added for gas optimization: {reason}"] }) state

/-- Its recorded ratio reaches the threshold. -/
def nearThreshold? (ratios : FeedMap Float) (threshold : Float) (candidate : Candidate) :
    Option String :=
  match ratios.find? candidate.feed with
  | some ratio =>
    if threshold ≤ ratio then
      some s!"deviation ratio {Number.fixed 4 ratio} >= {Number.fixed 4 threshold}"
    else none
  | none => none

/-- A heartbeat of zero goes with any other. -/
def inSync (candidate fired : Millis) : Bool := candidate = 0 || fired % candidate = 0

/-- Its heartbeat divides one that fired. -/
def inSync? (fired : List Millis) (candidate : Candidate) : Option String :=
  match candidate.heartbeat? with
  | some heartbeat =>
    (fired.find? (inSync heartbeat)).map fun other =>
      s!"heartbeat {heartbeat} ms synchronizes with {other} ms"
  | none => none

/-- It shares a package with a selected feed. -/
def shared? (set : PackageSet) (selected : List FeedId) (candidate : Candidate) : Option String :=
  ((set.sharing candidate.feed).find? (selected.contains ·)).map fun other =>
    s!"delivered by the same data package as {other}"

/-- Sweep for shared packages until nothing joins. Each sweep but the last adds a candidate, which
bounds their number. -/
def spread (set : PackageSet) (candidates : List Candidate) : Nat → State → State
  | 0, state => state
  | fuel + 1, state =>
    let next := sweep (shared? set) state candidates
    if next.selected.length = state.selected.length then state
    else spread set candidates fuel next

/-- Run the three sweeps that are configured. -/
def run (decision : Decision) (candidates : List Candidate) (optimization : Optimization)
    (set : PackageSet) : State :=
  let state : State := { selected := decision.feeds }
  let state := match optimization.threshold? with
    | some threshold => sweep (fun _ => nearThreshold? decision.ratios threshold) state candidates
    | none => state
  let state :=
    if optimization.syncHeartbeats then
      sweep (fun _ => inSync? decision.heartbeats) state candidates
    else state
  if optimization.isEnabled then spread set candidates candidates.length state else state

end Widening

namespace Decision

/-- Add the candidates that have a reason to join. The feeds are then put into candidate order. -/
def widen (decision : Decision) (candidates : List Candidate) (optimization : Optimization)
    (set : PackageSet) : Decision :=
  if decision.feeds.isEmpty then decision
  else
    let state := Widening.run decision candidates optimization set
    if state.selected.length = decision.feeds.length then decision
    else
      let feeds := (candidates.map (·.feed)).filter (state.selected.contains ·)
      let joined := ",".intercalate feeds
      { decision with
        feeds
        messages :=
          decision.messages ++ state.messages ++ [s!"Data feeds to be updated: {joined}"] }

end Decision

end PriceRelay
