import PriceRelay.PackageSet
/-!
Requests for packages, and the choice of packages from a gateway's answer: for each requested feed
the first distinct authorized signers in the order of package id and signer.
-/

namespace PriceRelay

/-- Which packages are wanted. -/
structure Request where
  service : String
  signers : UInt8
  feeds : List FeedId
  /-- Packages of other signers are dropped. -/
  authorized? : Option (List Address) := none
  /-- The packages as of an instant, rather than the latest. -/
  asOf? : Option Millis := none
  deriving DecidableEq

namespace Request

/-- The same request for an instant in the past. -/
def pinned (request : Request) (instant : Millis) : Request :=
  { request with asOf? := some instant }

def authorizes (request : Request) (signer : Address) : Bool :=
  match request.authorized? with
  | none => true
  | some allowed => allowed.contains signer

/-- Order by package id, then by signer. -/
def before (a b : Package) : Bool :=
  if a.id = b.id then a.signer.le b.signer else a.id < b.id

/-- The authorized packages of an answer in order. -/
def candidates (request : Request) (packages : List Package) : List Package :=
  (packages.filter fun package => request.authorizes package.signer).mergeSort before

/-- Keep the first package of each signer. -/
def firstOfEach (seen : List Address) : List Package → List Package
  | [] => []
  | package :: rest =>
    if seen.contains package.signer then firstOfEach seen rest
    else package :: firstOfEach (package.signer :: seen) rest

/-- The packages of one feed, if enough signers observed it. -/
def chosen? (request : Request) (packages : List Package) : Option (List Package) :=
  let required := request.signers.toNat
  let first := (firstOfEach [] packages).take (max required 1)
  if first.length < required then none else some first

/-- The packages chosen from an answer, whose entries are visited in the given order. -/
def select (request : Request) (answer : List (String × List Package)) : PackageSet :=
  let packages := answer.flatMap (·.2)
  let indexed := PackageSet.ofPackages (request.candidates packages) request.feeds
  request.feeds.foldl (fun selected feed =>
    match indexed.get? feed with
    | none => selected
    | some packages =>
      match request.chosen? packages with
      | none => selected
      | some packages => selected.insert feed packages) FeedMap.empty

end Request

end PriceRelay
