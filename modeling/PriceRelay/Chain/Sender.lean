import PriceRelay.Bytes.Utf8
import PriceRelay.Chain.Nonce
import PriceRelay.Chain.SignedTransaction
/-!
The sender of update transactions: it counts its nonces, prices, signs and sends. After a failed
send the count is read from the chain again.
-/

namespace PriceRelay

structure Sender where
  key : Nat
  chain : Nat
  gasLimit : Nat
  /-- The factor on every price. -/
  multiplier : Float
  strategy : GasStrategy
  nonce : NonceCounter

namespace Sender

/-- The gas limit of updates unless another is set. -/
def defaultGasLimit : Nat := 1000000

/-- Prices of one gwei, and of ten at most. -/
def defaultStrategy : GasStrategy := .legacy (LegacyGas.new 1000000000 10000000000)

/-- Drop all `0x` in front. -/
private def trimMarks : List Char → List Char
  | '0' :: 'x' :: rest => trimMarks rest
  | chars => chars

/-- A private key: 32 bytes of a number other than zero below the order of the curve. -/
def key? (source : String) : Option Nat := do
  let bytes ← FixedBytes.ofBytes? 32 (← Hex.ofDigits? (trimMarks source.toList))
  let key := bytes.toNat
  if key = 0 || Secp256k1.order ≤ key then none else some key

def address (sender : Sender) : Address := Secp256k1.address sender.key

def invalidKey : Failure := .text "Invalid private key"

/-- A sender whose first nonce is the chain's count. -/
def start (rpc : Rpc) (keyText : String) (chain : Nat) (gasLimit? : Option Nat)
    (multiplier : Float) (strategy? : Option GasStrategy) : Attempt Sender :=
  match key? keyText with
  | none => .done (.error invalidKey)
  | some key =>
    Activity.andThen
      (Task.context "Failed to fetch initial nonce"
        (rpc.request (.transactionCount (Secp256k1.address key))))
      fun (count : Nat) =>
        .done (.ok
          { key, chain
            gasLimit := gasLimit?.getD defaultGasLimit
            multiplier
            strategy := strategy?.getD defaultStrategy
            nonce := ⟨UInt64.ofNat count⟩ })

/-- Current prices times the factor. -/
def fees (rpc : Rpc) (sender : Sender) : Task (Fees × Sender) := do
  let (fees, strategy) ← sender.strategy.fetch rpc
  return (fees.scaled sender.multiplier, { sender with strategy })

/-- Read the count from the chain; without an answer it stays. -/
def sync (rpc : Rpc) (sender : Sender) : Task Sender :=
  (rpc.request (.transactionCount sender.address)).bind fun
    | .ok (count : Nat) =>
      .done { sender with nonce := sender.nonce.reset (UInt64.ofNat count) }
    | .error _ => .done sender

/-- The transaction of an update. -/
def draft (sender : Sender) (nonce : Nat) (fees : Fees) (call : UpdateCall) : Draft :=
  { chain := sender.chain
    nonce
    gasLimit := sender.gasLimit
    target := call.target
    value := call.value?.getD 0
    data := call.data
    fees := sender.strategy.apply fees }

/-- Take a nonce, price, sign and send. -/
def submit (rpc : Rpc) (sender : Sender) (call : UpdateCall) :
    Task (Except Failure Dispatched × Sender) := do
  let (nonce, counter) := sender.nonce.next
  let (fees, sender) ← ({ sender with nonce := counter } : Sender).fees rpc
  let raw := (sender.draft nonce.toNat fees call).sign sender.key
  (rpc.request (.send raw)).bind fun
    | .ok hash => .done (.ok ⟨hash, nonce.toNat, sender.gasLimit, fees⟩, sender)
    | .error failure => (sender.sync rpc).bind fun sender => .done (.error failure, sender)

/-- What is put in front of a message before it is signed. -/
def messageLead (size : Nat) : Bytes :=
  0x19 :: Utf8.encode s!"Ethereum Signed Message:\n{size}"

/-- Sign a text. -/
def signMessage (sender : Sender) (message : String) : Bytes :=
  let bytes := Utf8.encode message
  let digest := Keccak.digest (messageLead bytes.length ++ bytes)
  (Secp256k1.sign sender.key digest).bytes

end Sender

end PriceRelay
