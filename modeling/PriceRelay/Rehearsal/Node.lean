import PriceRelay.Chain.SignedTransaction
import PriceRelay.Rehearsal.Script
/-!
Scripted nodes of the chain.
-/

namespace PriceRelay

/-- The scripted answer of a node. -/
inductive NodeLine where
  | nothing
  | number (value : Nat)
  | bytes (value : Bytes)
  /-- The hash of the transaction that was sent. -/
  | ownHash
  | receipt (value : Receipt)

/-- A scripted node with its record, latest call first. -/
structure NodeRole where
  script : Script NodeLine := []
  record : List RpcCall := []

namespace NodeRole

open Script (misplaced)

private def lineNumber : NodeLine → Except Failure Nat
  | .number value => .ok value
  | _ => misplaced

/-- The answer of a node to a call, from a line of its script. -/
def lineAnswer : (call : RpcCall) → NodeLine → Except Failure call.Answer
  | .blockNumber, line => lineNumber line
  | .gasPrice, line => lineNumber line
  | .priorityFee, line => lineNumber line
  | .baseFee, .nothing => .ok none
  | .baseFee, line => (lineNumber line).map some
  | .transactionCount _, line => lineNumber line
  | .call .., .bytes value => .ok value
  | .send raw, .ownHash => (SignedTransaction.decode raw).map (·.hash)
  | .send _, .bytes value =>
    match FixedBytes.ofBytes? 32 value with
    | some hash => .ok hash
    | none => misplaced
  | .receipt _, .nothing => .ok none
  | .receipt hash, .receipt value => .ok (some { value with hash })
  | .call .., _ => misplaced
  | .send _, _ => misplaced
  | .receipt _, _ => misplaced

/-- The key of a call; some have a key of their own if the script has it. -/
def keyOf (script : Script NodeLine) : RpcCall → String
  | .blockNumber => "block_number"
  | .gasPrice => "gas_price"
  | .priorityFee => "priority_fee"
  | .baseFee => "base_fee"
  | .transactionCount _ => "transaction_count"
  | .call _ data _ =>
    let own := "call:" ++ Hex.encode (data.take 4)
    if script.has own then own else "call"
  | .send _ => "send"
  | .receipt hash =>
    let own := "receipt:" ++ hash.lower
    if script.has own then own else "receipt"

/-- Without a script for receipts there is none. -/
def answer (role : NodeRole) (call : RpcCall) : Timed call.Answer × NodeRole :=
  let key := keyOf role.script call
  let role := { role with record := call :: role.record }
  match call with
  | .receipt hash =>
    if role.script.has key then
      let (timed, script) := role.script.take key
      (timed.andThen (lineAnswer (.receipt hash)), { role with script })
    else (Timed.now none, role)
  | call =>
    let (timed, script) := role.script.take key
    (timed.andThen (lineAnswer call), { role with script })

end NodeRole

end PriceRelay
