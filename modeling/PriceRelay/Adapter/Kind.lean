import PriceRelay.Text.LowerCase
/-!
The families of adapter contracts, and how much of the feed set one update of each writes.
-/

namespace PriceRelay

/-- How many feeds an update has to carry. -/
inductive UpdateScope where
  /-- Each feed may be written alone. -/
  | perFeed
  /-- The feeds share a timestamp and are written together. -/
  | allFeeds
  deriving DecidableEq, Repr

inductive AdapterKind where
  | priceFeeds
  | multiFeed
  deriving DecidableEq, Repr

namespace AdapterKind

def name : AdapterKind → String
  | .priceFeeds => "price-feeds"
  | .multiFeed => "multi-feed"

def scope : AdapterKind → UpdateScope
  | .priceFeeds => .allFeeds
  | .multiFeed => .perFeed

/-- The kind of that name, in any case. -/
def ofName? (text : String) : Option AdapterKind :=
  match Text.lowerCase text with
  | "price-feeds" => some .priceFeeds
  | "multi-feed" => some .multiFeed
  | _ => none

/-- What is said of a name that no kind has. -/
def unsupported (name : String) : String := s!"Unsupported adapter type: {name}"

end AdapterKind

end PriceRelay
