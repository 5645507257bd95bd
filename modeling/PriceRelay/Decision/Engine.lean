import PriceRelay.Condition.Cron
import PriceRelay.Condition.Deviation
import PriceRelay.Condition.Time
import PriceRelay.Contract
import PriceRelay.Decision.PastPackages
import PriceRelay.Decision.Widening
import PriceRelay.Trigger
/-!
The decision of an iteration. Every feed with packages and a snapshot is reviewed; a feed is
selected when one of its triggers fires and its packages are newer than what the contract stores. A
selection that is not empty is widened, and put into the order of the configuration.
-/

namespace PriceRelay

/-- What one iteration looks at. -/
structure IterationContext where
  block : Nat
  now : Millis
  contract : ContractState
  packages : PackageSet
  past : PastPackages := PastPackages.unavailable

/-- How feeds are evaluated. -/
structure Engine where
  triggers : TriggerSet
  fallback : Fallback := {}
  optimization : Optimization := {}

/-- The checks of one feed. -/
structure Review where
  /-- Some trigger fires. -/
  fires : Bool := false
  /-- A heartbeat or a schedule fires. -/
  deadline : Bool := false
  firedMessages : List String := []
  idleMessages : List String := []
  /-- The heartbeat, if it fired. -/
  heartbeat? : Option Millis := none
  ratio? : Option Float := none

namespace Review

/-- Take up the outcome of one condition. -/
def record (review : Review) (feed : FeedId) (kind : ConditionKind) (check : Check) : Review :=
  let messages := check.messages.map fun message => s!"{feed} [{kind.label}]: {message}"
  if check.fires then
    { review with
      fires := true
      deadline := review.deadline || kind ≠ .deviation
      firedMessages := review.firedMessages ++ messages }
  else { review with idleMessages := review.idleMessages ++ messages }

end Review

namespace Engine

/-- Check the heartbeat of a feed. -/
def reviewTime (engine : Engine) (context : IterationContext) (trigger : Trigger)
    (snapshot : Snapshot) (review : Review) : Review :=
  match engine.triggers.heartbeat? trigger context.now with
  | none => review
  | some heartbeat =>
    let check := Condition.time heartbeat snapshot.blockTimestamp context.now engine.fallback.offset
    let review := if check.fires then { review with heartbeat? := some heartbeat } else review
    review.record trigger.feed .time check

/-- Check the schedules of a feed. -/
def reviewCron (engine : Engine) (context : IterationContext) (trigger : Trigger)
    (snapshot : Snapshot) (review : Review) : Review :=
  if trigger.schedules.isEmpty then review
  else
    review.record trigger.feed .cron
      (Condition.cron trigger.schedules snapshot.blockTimestamp context.now engine.fallback.offset)

/-- What stands in for the check of past packages that are not there. -/
def pastUnavailable : Condition.Deviation := ⟨false, 0.0, 0.0, "historical packages unavailable"⟩

/-- The check of the past packages, where it has to be made. -/
def pastDeviation (engine : Engine) (feed : FeedId) (stored : Nat) (threshold : Float)
    (latest : Condition.Deviation) (past : PastPackages) :
    Option Condition.Deviation × PastPackages :=
  if Condition.needsPast latest engine.fallback then
    let (packages?, past) := past.get
    let check := match packages? with
      | some packages => Condition.deviation feed packages stored threshold
      | none => pastUnavailable
    (some check, past)
  else (none, past)

/-- Check the deviation of a feed. -/
def reviewDeviation (engine : Engine) (context : IterationContext) (trigger : Trigger)
    (snapshot : Snapshot) (past : PastPackages) (review : Review) : Review × PastPackages :=
  match trigger.deviation? with
  | none => (review, past)
  | some threshold =>
    let feed := trigger.feed
    let warnings := Condition.disjointness feed context.packages
    let latest := Condition.deviation feed context.packages snapshot.value threshold
    let (pastCheck, past) := engine.pastDeviation feed snapshot.value threshold latest past
    let check :=
      Condition.combine latest pastCheck engine.fallback snapshot.blockTimestamp context.now
    let review := { review with
      idleMessages := review.idleMessages ++ warnings
      ratio? := check.ratio? }
    (review.record feed .deviation check, past)

/-- Check all triggers of a feed. -/
def review (engine : Engine) (context : IterationContext) (trigger : Trigger)
    (snapshot : Snapshot) (past : PastPackages) : Review × PastPackages :=
  engine.reviewDeviation context trigger snapshot past
    (engine.reviewCron context trigger snapshot (engine.reviewTime context trigger snapshot {}))

/-- What became of one trigger. -/
inductive Finding where
  | noPackages
  | noSnapshot
  | reviewed (review : Review) (proposed? : Option Millis) (stored : Millis)

/-- Are the packages newer than what the contract stores? -/
def isFresh (proposed? : Option Millis) (stored : Millis) : Bool := proposed?.any (stored < ·)

/-- Look at one trigger. -/
def find (engine : Engine) (context : IterationContext) (trigger : Trigger) (past : PastPackages) :
    Finding × PastPackages :=
  if context.packages.has trigger.feed then
    match context.contract.find? trigger.feed with
    | none => (.noSnapshot, past)
    | some snapshot =>
      let (review, past) := engine.review context trigger snapshot past
      (.reviewed review (context.packages.timestamp? trigger.feed) snapshot.dataTimestamp, past)
  else (.noPackages, past)

/-- Look at the triggers in order. -/
def findings (engine : Engine) (context : IterationContext) :
    List Trigger → PastPackages → List (Trigger × Finding) × PastPackages
  | [], past => ([], past)
  | trigger :: rest, past =>
    let (finding, past) := engine.find context trigger past
    let (found, past) := engine.findings context rest past
    ((trigger, finding) :: found, past)

private def proposedText : Option Millis → String
  | some proposed => s!"Some({proposed})"
  | none => "None"

/-- What is said of a feed that fires on packages that are not newer. -/
private def staleMessage (feed : FeedId) (proposed? : Option Millis) (stored : Millis) : String :=
  "Cannot update prices, proposed prices are not newer than stored price for "
    ++ s!"{feed} (proposed {proposedText proposed?}, stored {stored})"

namespace Finding

def firedMessages (feed : FeedId) : Finding → List String
  | .reviewed review proposed? stored =>
    review.firedMessages ++
      (if review.fires && !isFresh proposed? stored then [staleMessage feed proposed? stored]
       else [])
  | _ => []

def idleMessages (feed : FeedId) : Finding → List String
  | .noSnapshot => [s!"{feed}: no contract state available"]
  | .reviewed review _ _ => review.idleMessages
  | .noPackages => []

/-- The review of a feed with newer packages. -/
def freshReview? : Finding → Option Review
  | .reviewed review proposed? stored => if isFresh proposed? stored then some review else none
  | _ => none

def review? : Finding → Option Review
  | .reviewed review _ _ => some review
  | _ => none

def isMissing : Finding → Bool
  | .noPackages => true
  | _ => false

end Finding

/-- Feeds with newer packages; only they may be written. -/
def candidates (engine : Engine) (now : Millis) (found : List (Trigger × Finding)) :
    List Candidate :=
  found.filterMap fun (trigger, finding) =>
    finding.freshReview?.map fun _ => ⟨trigger.feed, engine.triggers.heartbeat? trigger now⟩

/-- Feeds with newer packages that fire. -/
def selected (found : List (Trigger × Finding)) : List FeedId :=
  found.filterMap fun (trigger, finding) =>
    (finding.freshReview?.filter (·.fires)).map fun _ => trigger.feed

/-- The decision before it is widened. -/
def decide (block : Nat) (found : List (Trigger × Finding)) : Decision :=
  let reviews := found.filterMap fun (trigger, finding) =>
    finding.review?.map fun review => (trigger.feed, review)
  let missing := (found.filter (·.2.isMissing)).map (·.1.feed)
  let missingMessages :=
    if missing.isEmpty then []
    else
      let joined := ", ".intercalate missing
      [s!"Missing data package for feed(s): {joined}"]
  { block
    feeds := selected found
    ratios := FeedMap.ofList (reviews.filterMap fun (feed, review) =>
      review.ratio?.map fun ratio => (feed, ratio))
    heartbeats := (reviews.filterMap (·.2.heartbeat?)).foldl (fun all h => insertHeartbeat h all) []
    hardDeadline := found.any fun (_, finding) =>
      finding.freshReview?.any fun review => review.fires && review.deadline
    messages := missingMessages
      ++ (found.flatMap fun (trigger, finding) => finding.firedMessages trigger.feed)
      ++ (found.flatMap fun (trigger, finding) => finding.idleMessages trigger.feed) }

/-- Widen a decision that updates anything. -/
def optimize (engine : Engine) (context : IterationContext) (found : List (Trigger × Finding))
    (decision : Decision) : Decision :=
  if decision.shouldUpdate then
    let joined := ",".intercalate decision.feeds
    let noted := { decision with
      messages := decision.messages ++ [s!"Data feeds that require update: {joined}"] }
    noted.widen (engine.candidates context.now found) engine.optimization context.packages
  else decision

/-- Feeds in the order of the configuration. -/
def inOrder (order feeds : List FeedId) : List FeedId :=
  feeds.mergeSort fun a b => order.idxOf a ≤ order.idxOf b

/-- Decide which feeds to write. -/
def evaluate (engine : Engine) (context : IterationContext) : Decision × PastPackages :=
  let (found, past) := engine.findings context engine.triggers.triggers context.past
  let decision := engine.optimize context found (decide context.block found)
  ({ decision with feeds := inOrder engine.triggers.feeds decision.feeds }, past)

end Engine

end PriceRelay
