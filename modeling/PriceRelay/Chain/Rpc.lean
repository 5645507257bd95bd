import PriceRelay.Chain.Update
/-!
The calls that a node of the chain answers.
-/

namespace PriceRelay

inductive RpcCall where
  | blockNumber
  | gasPrice
  | priorityFee
  | baseFee
  | transactionCount (account : Address)
  | call (target : Address) (data : Bytes) (block : Nat)
  | send (raw : Bytes)
  | receipt (hash : Hash)
  deriving DecidableEq

namespace RpcCall

/-- What a call is answered with. A chain may have no base fee, and a transaction no receipt. -/
def Answer : RpcCall → Type
  | .blockNumber => Nat
  | .gasPrice => Nat
  | .priorityFee => Nat
  | .baseFee => Option Nat
  | .transactionCount _ => Nat
  | .call .. => Bytes
  | .send _ => Hash
  | .receipt _ => Option Receipt

def name : RpcCall → String
  | .blockNumber => "block_number"
  | .gasPrice => "gas_price"
  | .priorityFee => "max_priority_fee_per_gas"
  | .baseFee => "base_fee_per_gas"
  | .transactionCount _ => "transaction_count"
  | .call .. => "call"
  | .send _ => "send_raw_transaction"
  | .receipt _ => "transaction_receipt"

end RpcCall

end PriceRelay
