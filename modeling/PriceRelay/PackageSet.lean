import PriceRelay.Package
/-!
Packages listed under the feeds they serve. A package of several feeds stands under each requested
one; a feed with an empty list counts as absent.
-/

namespace PriceRelay

abbrev PackageSet := FeedMap (List Package)

namespace PackageSet

/-- List each package under every requested feed it carries. -/
def ofPackages (packages : List Package) (requested : List FeedId) : PackageSet :=
  packages.foldl (fun set package =>
    (package.feeds.filter (requested.contains ·)).foldl
      (fun set feed => set.adjust feed [] (· ++ [package])) set) FeedMap.empty

/-- The packages of a feed; an empty list is no list. -/
def get? (set : PackageSet) (feed : FeedId) : Option (List Package) :=
  (set.find? feed).filter fun packages => !packages.isEmpty

/-- The packages of a feed, none where it is absent. -/
def listed (set : PackageSet) (feed : FeedId) : List Package := (set.get? feed).getD []

def has (set : PackageSet) (feed : FeedId) : Bool := (set.get? feed).isSome

def isEmpty (set : PackageSet) : Bool := set.values.all (·.isEmpty)

/-- The oldest timestamp listed under a feed. -/
def timestamp? (set : PackageSet) (feed : FeedId) : Option Millis :=
  ((set.listed feed).map (·.timestamp)).min?

/-- The oldest timestamp of all packages. -/
def oldest? (set : PackageSet) : Option Millis :=
  (set.values.flatten.map (·.timestamp)).min?

/-- The distinct package ids that serve a feed. -/
def packageIds (set : PackageSet) (feed : FeedId) : List String :=
  distinctFeeds ((set.listed feed).map (·.id))

/-- Signers with more than one package of a feed, by their second package. -/
def duplicateSigners (set : PackageSet) (feed : FeedId) : List Address :=
  go [] [] ((set.listed feed).map (·.signer))
where
  go (seen found : List Address) : List Address → List Address
    | [] => found
    | signer :: rest =>
      if seen.contains signer then
        go seen (if found.contains signer then found else found ++ [signer]) rest
      else go (signer :: seen) found rest

/-- The other feeds of the set that some package of this feed carries. -/
def sharing (set : PackageSet) (feed : FeedId) : List FeedId :=
  distinctFeeds (((set.listed feed).flatMap fun package => package.points.map (·.feed)).filter
    fun other => other ≠ feed && set.has other)

/-- What tells two packages of one set apart. -/
def key (package : Package) : String × Address := (package.id, package.signer)

/-- Keep the first package of each key. -/
def dropRepeats (seen : List (String × Address)) : List Package → List Package
  | [] => []
  | package :: rest =>
    if seen.contains (key package) then dropRepeats seen rest
    else package :: dropRepeats (key package :: seen) rest

/-- The packages needed to update some feeds, in feed order, each once. -/
def packagesFor (set : PackageSet) (feeds : List FeedId) : List Package :=
  dropRepeats [] (feeds.flatMap set.listed)

end PackageSet

end PriceRelay
