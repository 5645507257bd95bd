import PriceRelay.Crypto.Checksum
import PriceRelay.Failure
import PriceRelay.Number.Text
import PriceRelay.Package
/-!
Why an auction is lost, or a transaction that it returned is not accepted.
-/

namespace PriceRelay

inductive AuctionFailure where
  /-- No leg was won within the limit, and some were still running. -/
  | timedOut (limit : Millis)
  /-- The auction returned no transactions for a leg. -/
  | leg (feed : FeedId) (reason : String)
  | noVerifiedLeg
  | wrongTarget (hash : Hash) (target? : Option Address)
  | reverted (hash : Hash)
  | gasPriceTooLow (hash : Hash) (offered current : Nat)
  | priceMismatch (hash : Hash) (feed : FeedId) (simulated expected : Float)
  | verificationTimedOut (hash : Hash)
  | other (failure : Failure)
  deriving DecidableEq

namespace AuctionFailure

private def targetText : Option Address → String
  | some target => s!"Some({target.lower})"
  | none => "None"

private def ofTransaction (hash : Hash) (text : String) : String :=
  s!"Auction transaction {hash.lower} {text}"

def message : AuctionFailure → String
  | .timedOut limit => s!"Auction phase timed out after {limit} ms"
  | .leg feed reason => s!"Auction leg for {feed} failed: {reason}"
  | .noVerifiedLeg => "No auction leg passed verification"
  | .wrongTarget hash target? =>
    ofTransaction hash s!"targets {targetText target?}, expected the adapter"
  | .reverted hash => ofTransaction hash "was reverted"
  | .gasPriceTooLow hash offered current =>
    ofTransaction hash s!"offers {offered} wei, below the current {current} wei"
  | .priceMismatch hash feed simulated expected =>
    let simulated := Number.display simulated
    let expected := Number.display expected
    ofTransaction hash s!"does not update {feed}: simulated {simulated}, expected {expected}"
  | .verificationTimedOut hash => s!"Verification of {hash.lower} timed out"
  | .other failure => failure.message

end AuctionFailure

end PriceRelay
