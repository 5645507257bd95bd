import PriceRelay.Json.Reader
import PriceRelay.World
/-!
The auction as a server on the web: it takes a request and returns signed transactions.
-/

namespace PriceRelay.AuctionClient

private def transaction? (json : Json) : Option Bytes := do Hex.decode? (← json.text?)

/-- Signed transactions as they are answered: a list of byte strings. -/
def transactions? (body : String) : Option (List Bytes) := do
  (← (← Json.read? body).array?).mapM transaction?

/-- Read an answer for a leg. -/
def read (leg : FeedId) (answer : WebAnswer) : Except Failure (List Bytes) :=
  if answer.isSuccess then
    match transactions? answer.body with
    | none => .error (.text "Auction returned malformed transactions")
    | some [] => .error (.text s!"Auction for {leg} returned no transactions")
    | some transactions => .ok transactions
  else .error (.text s!"Auction error for {leg}: {answer.statusText} - {answer.body}")

/-- Submit a request for a leg. -/
def submit (url : String) (limit : Millis) (leg : FeedId) (request : AuctionRequest) :
    Attempt (List Bytes) :=
  let call : WebCall := { method := .post, url, body? := some request.body }
  (Activity.within limit (Task.fetch call)).bind fun
    | some (.ok answer) => .done (read leg answer)
    | _ => .done (.error (.text "Auction endpoint unreachable"))

end PriceRelay.AuctionClient
