import PriceRelay.Request
/-!
Past packages, looked up when they are first needed. The answer, or that there is none, is kept for
the rest of the iteration.
-/

namespace PriceRelay

/-- Past packages are requested at this granularity. -/
def pastGranularity : Millis := 10000

/-- The instant whose packages a backup compares with. -/
def pastInstant (now offset : Millis) : Millis :=
  (now - offset) / pastGranularity * pastGranularity

structure PastPackages where
  /-- What the source answers, if there is a source. -/
  source? : Option (Option PackageSet) := none
  /-- The answer that is kept. -/
  kept? : Option (Option PackageSet) := none
  /-- How often the source was asked. -/
  requests : Nat := 0

namespace PastPackages

/-- There is no source. -/
def unavailable : PastPackages := {}

/-- The packages are already there. -/
def preloaded (packages : PackageSet) : PastPackages := { kept? := some (some packages) }

/-- A source with the answer it will give. -/
def ofAnswer (answer : Option PackageSet) : PastPackages := { source? := some answer }

def isFetched (past : PastPackages) : Bool := past.kept?.isSome

/-- The packages; the source is asked the first time only. -/
def get (past : PastPackages) : Option PackageSet × PastPackages :=
  match past.kept? with
  | some packages => (packages, past)
  | none =>
    let packages := past.source?.join
    (packages,
      { past with
        kept? := some packages
        requests := past.requests + (if past.source?.isSome then 1 else 0) })

end PastPackages

end PriceRelay
