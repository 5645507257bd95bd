import PriceRelay.Delivery.Outcome
import PriceRelay.Json.Document
import PriceRelay.Rehearsal.Stage
/-!
What was recorded on a stage, as documents. Amounts of wei are written as texts.
-/

namespace PriceRelay

private def addressText (value : Address) : Document := .text (checksummed value)

private def bytesText (value : Bytes) : Document := .text (Hex.encode value)

private def hashText (value : Hash) : Document := .text value.lower

/-- The name under which a call is recorded. -/
def RpcCall.label : RpcCall → String
  | .blockNumber => "block_number"
  | .gasPrice => "gas_price"
  | .priorityFee => "priority_fee"
  | .baseFee => "base_fee"
  | .transactionCount _ => "transaction_count"
  | .call .. => "call"
  | .send _ => "send_raw_transaction"
  | .receipt _ => "receipt"

private def arguments : RpcCall → List Document
  | .blockNumber | .gasPrice | .priorityFee | .baseFee => []
  | .transactionCount account => [addressText account]
  | .call target data block => [addressText target, bytesText data, .natural block]
  | .send raw => [bytesText raw]
  | .receipt wanted => [hashText wanted]

def RpcCall.document (call : RpcCall) : Document := .list (.text call.label :: arguments call)

/-- Timestamps from here on are those of a clock, and left out. -/
def clockTimes : Millis := 1000000000000

def AdapterEntry.document : AdapterEntry → Document
  | .readState feeds block => .list [.text "read", .texts feeds, .natural block]
  | .threshold block => .list [.text "threshold", .natural block]
  | .build feeds timestamp =>
    .list ([.text "build", .texts feeds]
      ++ (if timestamp < clockTimes then [.natural timestamp] else []))
  | .submit call => .list [.text "submit", .text (Utf8.decodeLossy call.data), .texts call.feeds]
  | .simulate update feeds block =>
    .list [.text "simulate", bytesText update, .texts feeds, .natural block]

def Event.document (event : Event) : Document :=
  .texts [event.level.name, event.message, event.detail]

def UpdateCall.document (call : UpdateCall) : Document :=
  .object [
    ("from", addressText call.sender),
    ("to", addressText call.target),
    ("data", bytesText call.data),
    ("value", .optional .decimal call.value?),
    ("feeds", .texts call.feeds)]

def Receipt.document (receipt : Receipt) : Document :=
  .object [
    ("hash", hashText receipt.hash),
    ("success", .bool receipt.success),
    ("label", .text receipt.label),
    ("block", .optional .natural receipt.block?),
    ("index", .optional .natural receipt.index?),
    ("gas_used", .natural receipt.gasUsed),
    ("price", .decimal receipt.price)]

def Fees.document : Fees → Document
  | .legacy price => .object [("gas_price", .decimal price)]
  | .eip1559 maxFee priority base =>
    .object [("max_fee", .decimal maxFee), ("priority", .decimal priority), ("base", .decimal base)]

def Dispatched.document (dispatched : Dispatched) : Document :=
  .object [
    ("hash", hashText dispatched.hash),
    ("nonce", .natural dispatched.nonce),
    ("gas_limit", .natural dispatched.gasLimit),
    ("gas", dispatched.fees.document)]

def SignedTransaction.document (transaction : SignedTransaction) : Document :=
  .object [
    ("hash", hashText transaction.hash),
    ("to", .optional addressText transaction.target?),
    ("input", bytesText transaction.input),
    ("max_fee", .decimal transaction.maxFee),
    ("raw", bytesText transaction.raw)]

def Request.document (request : Request) : Document :=
  .object [
    ("service", .text request.service),
    ("count", .natural request.signers.toNat),
    ("feeds", .texts request.feeds),
    ("signers", .optional (.each fun signer => .text signer.lower) request.authorized?),
    ("historical", .optional .natural request.asOf?)]

private def outcomeMembers : DeliveryOutcome → List (String × Document)
  | .delivered sent auctionWon fallbackUsed =>
    [("delivered", hashText sent), ("auction_won", .bool auctionWon),
      ("fallback_used", .bool fallbackUsed)]
  | .skipped reason => [("skipped", .text reason)]
  | .failed reason => [("failed", .text reason)]

def DeliveryOutcome.document (outcome : DeliveryOutcome) : Document :=
  .object (outcomeMembers outcome ++ [("is_delivered", .bool outcome.isDelivered)])

end PriceRelay
