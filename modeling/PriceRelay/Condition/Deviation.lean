import PriceRelay.Condition.Check
import PriceRelay.PackageSet
import PriceRelay.Text.Quoted
import PriceRelay.Json.Document
import PriceRelay.Bytes.Hex
import PriceRelay.Crypto.Checksum
/-!
The deviation of prices: a feed fires when one of its observations lies far enough from the value on
the chain. A backup asks for the same from past packages.
-/

namespace PriceRelay.Condition

/-- The result of comparing the observations of one package set. -/
structure Deviation where
  fires : Bool
  /-- The largest deviation in percent. -/
  largest : Float
  /-- The largest deviation over the threshold. -/
  ratio : Float
  message : String
  deriving DecidableEq

/-- `|observed - base| / base` in percent. Any other value is infinitely far from a base of zero. -/
def deviationPercent (observed base : Float) : Float :=
  if base == 0.0 then (if observed == 0.0 then 0.0 else Number.greatest)
  else ((observed - base) / base).abs * 100.0

/-- A value of the chain in units of the feed. -/
def contractValue (value decimals : Nat) : Float :=
  Number.ofNat value / Number.tenTo decimals

/-- One observation of a feed, with the deviation from the value on the chain. -/
structure Observation where
  timestamp : Millis
  value : Float
  base : Float

/-- The observations of a feed in the order of packages and points. -/
def observations (feed : FeedId) (set : PackageSet) (stored : Nat) : List Observation :=
  (set.listed feed).flatMap fun package =>
    (package.pointsFor feed).map fun point =>
      ⟨package.timestamp, point.value, contractValue stored point.decimals⟩

def Observation.percent (observation : Observation) : Float :=
  deviationPercent observation.value observation.base

/-- The largest deviation; zero where there is no observation. -/
def largestDeviation (observed : List Observation) : Float :=
  observed.foldl (fun largest observation => Number.larger largest observation.percent) 0.0

/-- How near the threshold a deviation comes. -/
def deviationRatio (largest threshold : Float) : Float :=
  if 0.0 < threshold then largest / threshold else Number.greatest

private def trace (feed : FeedId) (count : Nat) (observed : List Observation)
    (largest threshold : Float) : String :=
  let details : List (String × Document) := match observed with
    | [] => []
    | first :: _ =>
      [(feed, .object [
        ("packagesCount", .natural count),
        ("timestamp", .natural first.timestamp),
        ("valueFromContract", .number first.base),
        ("valuesFromNode", Document.each (fun o => .number o.value) observed)])]
  let members := details ++ [
    ("maxDeviation", .text (Number.fixed 4 largest)),
    ("thresholdDeviation", .text (Number.fixed 4 threshold))]
  (Document.object (FeedMap.ofList members).entries).render

/-- Compare every observation of a feed with the value on the chain. -/
def deviation (feed : FeedId) (set : PackageSet) (stored : Nat) (threshold : Float) : Deviation :=
  let observed := observations feed set stored
  let largest := largestDeviation observed
  let fires := !observed.isEmpty && threshold ≤ largest
  let verdict := if fires then "Value has deviated enough to be updated."
    else "Value has not deviated enough to be updated."
  { fires, largest
    ratio := deviationRatio largest threshold
    message := s!"{verdict} {trace feed (set.listed feed).length observed largest threshold}" }

/-- Warnings about packages that would corrupt the aggregate of a feed. -/
def disjointness (feed : FeedId) (set : PackageSet) : List String :=
  let ids := set.packageIds feed
  let signers := set.duplicateSigners feed
  let overlap :=
    if 1 < ids.length then
      let names := Text.braced (ids.map Text.quoted)
      [s!"Feed {feed} is served by more than one data package id: {names}"]
    else []
  let repeats :=
    if signers.isEmpty then []
    else
      let names := Text.bracketed (signers.map FixedBytes.lower)
      [s!"Feed {feed} has more than one package from signer(s) {names}"]
  overlap ++ repeats

/-- Must the past packages be consulted? -/
def needsPast (latest : Deviation) (fallback : Fallback) : Bool :=
  fallback.isActive && (latest.fires || fallback.notLazy)

/-- Is a deviation held back because the last update is too young? -/
def tooFrequent (fallback : Fallback) (last now : Millis) : Bool :=
  fallback.isActive && fallback.skipFrequent && now - last < fallback.offset

/-- Join the checks of the latest and the past packages. Both have to fire, where both were made. -/
def combine (latest : Deviation) (past : Option Deviation) (fallback : Fallback)
    (last now : Millis) : Check :=
  let pastFires := past.all (·.fires)
  let pastRatio := (past.map (·.ratio)).getD 0.0
  let pastMessage := match past with
    | some past => s!" AND Historical {past.message}"
    | none => ""
  let fires := latest.fires && pastFires
  let held := tooFrequent fallback last now
  let lead := if fallback.isActive then "Deviation in fallback mode: " else ""
  let note :=
    if fires && held then
      s!"Update skipped: less than {fallback.offset} milliseconds passed since last update. "
    else ""
  { fires := fires && !held
    messages := [s!"{lead}{note}{latest.message}{pastMessage}"]
    ratio? := some (Number.larger latest.ratio pastRatio) }

end PriceRelay.Condition
