import PriceRelay.Chain.Providers
import PriceRelay.Json.Document
import PriceRelay.Json.Reader
import PriceRelay.Web.Url
/-!
Nodes as servers on the web. A call is a document that names a method and its parameters; the answer
is a document with a result. Numbers travel as hexadecimal texts.
-/

namespace PriceRelay

namespace RpcCall

/-- The method that serves a call. -/
def method : RpcCall → String
  | .blockNumber => "eth_blockNumber"
  | .gasPrice => "eth_gasPrice"
  | .priorityFee => "eth_maxPriorityFeePerGas"
  | .baseFee => "eth_getBlockByNumber"
  | .transactionCount _ => "eth_getTransactionCount"
  | .call .. => "eth_call"
  | .send _ => "eth_sendRawTransaction"
  | .receipt _ => "eth_getTransactionReceipt"

/-- The parameters of the method. A base fee is read off the latest block. -/
def parameters : RpcCall → List Document
  | .blockNumber | .gasPrice | .priorityFee => []
  | .baseFee => [.text "latest", .bool false]
  | .transactionCount account => [.text account.lower, .text "latest"]
  | .call target data block =>
    [.object [("to", .text target.lower), ("input", .text (Hex.encode data))],
      .text (Hex.quantity block)]
  | .send raw => [.text (Hex.encode raw)]
  | .receipt hash => [.text hash.lower]

/-- What is sent. A method without parameters is called without a list of them. -/
def body (call : RpcCall) : String :=
  let parameters := if call.parameters.isEmpty then [] else [("params", .list call.parameters)]
  (Document.object ([("method", .text call.method)] ++ parameters
    ++ [("id", .natural 0), ("jsonrpc", .text "2.0")])).render

private def number? (bits : Nat) (json : Json) : Option Nat := do
  let value ← Hex.quantity? (← json.text?)
  if value < 2 ^ bits then return value else none

/-- A member that may be absent; one that is there has to be readable. -/
private def optional? (read : Json → Option Nat) : Option Json → Option (Option Nat)
  | none | some .null => some none
  | some json => (read json).map some

private def orTransport {α : Type} : Option α → Except Failure α
  | some value => .ok value
  | none => .error .transport

def noBlock : Failure := .text "Latest block not available"

private def latestBaseFee : Json → Except Failure (Option Nat)
  | .null => .error noBlock
  | .object members => orTransport (optional? (number? 64) (Json.member members "baseFeePerGas"))
  | _ => .error .transport

private def receipt? (hash : Hash) (members : List (Option String × Json)) : Option Receipt := do
  let number (name : String) (bits : Nat) : Option Nat := do
    number? bits (← Json.member members name)
  return {
    hash
    success := (← number "status" 1) = 1
    block? := ← optional? (number? 64) (Json.member members "blockNumber")
    index? := ← optional? (number? 64) (Json.member members "transactionIndex")
    gasUsed := ← number "gasUsed" 64
    price := ← number "effectiveGasPrice" 128 }

/-- Read the result of a call. -/
def result : (call : RpcCall) → Json → Except Failure call.Answer
  | .blockNumber, json => orTransport (number? 64 json)
  | .gasPrice, json => orTransport (number? 128 json)
  | .priorityFee, json => orTransport (number? 128 json)
  | .baseFee, json => latestBaseFee json
  | .transactionCount _, json => orTransport (number? 64 json)
  | .call .., json => orTransport (json.text?.bind Hex.decode?)
  | .send _, json => orTransport (json.text?.bind (Hex.decodeFixed? 32))
  | .receipt _, .null => .ok none
  | .receipt hash, .object members => (orTransport (receipt? hash members)).map some
  | .receipt _, _ => .error .transport

/-- Read an answer: one that carries no result is a failure. -/
def read (call : RpcCall) (answer : WebAnswer) : Except Failure call.Answer :=
  if answer.isSuccess then
    match Json.read? answer.body with
    | some (.object members) =>
      match Json.member members "result" with
      | some json => call.result json
      | none => .error .transport
    | _ => .error .transport
  else .error .transport

end RpcCall

namespace Rpc

def timedOut (call : RpcCall) (limit : Millis) : Failure :=
  .text s!"{call.method} timed out after {Text.duration limit}"

/-- The node behind a URL. It has to answer within a limit. -/
def endpoint (url : String) (limit : Millis) : Rpc where
  request call :=
    let asked : WebCall := { method := .post, url, body? := some call.body }
    (Activity.within limit (Task.fetch asked)).bind fun
      | some (.ok answer) => .done (call.read answer)
      | some (.error failure) => .done (.error failure)
      | none => .done (.error (timedOut call limit))

def invalidUrl (url : String) : Failure := .text s!"Invalid RPC URL: {url}"

/-- The node behind a text that has to be a URL. -/
def endpoint? (limit : Millis) (url : String) : Except Failure Rpc :=
  if Url.isValid url then .ok (endpoint url limit) else .error (invalidUrl url)

/-- The nodes behind some URLs as one, whose failures are reported. -/
def ofUrls? (urls : List String) (single all : Millis) : Except Failure Rpc := do
  let nodes ← urls.mapM (endpoint? single)
  return (← fallback? nodes all).observed

end Rpc

end PriceRelay
