import PriceRelay.Text.LowerCase
import PriceRelay.World
/-!
Pricing of transactions. A strategy asks the node for prices, keeps the last answers for when the
node has none, and never goes beyond its cap.
-/

namespace PriceRelay

/-- The word that a kept price fits into. -/
def keptBound : Nat := 2 ^ 64

/-- One gas price. -/
structure LegacyGas where
  cap : Nat
  kept : Nat
  deriving DecidableEq, Repr

namespace LegacyGas

/-- Keep a price, cut at the cap. -/
def keep (gas : LegacyGas) (price : Nat) : LegacyGas :=
  { gas with kept := min price gas.cap % keptBound }

def new (default cap : Nat) : LegacyGas := keep ⟨cap, 0⟩ default

/-- The fees after the node's answer, or its failure. -/
def fees (gas : LegacyGas) (price : Except Failure Nat) : Fees × LegacyGas :=
  let gas := match price with
    | .ok price => gas.keep price
    | .error _ => gas
  (.legacy gas.kept, gas)

end LegacyGas

/-- A base fee, multiplied for safety, and a priority fee on top. -/
structure FeeGas where
  defaultPriority : Nat
  multiplier : Float
  cap : Nat
  keptBase : Nat
  keptPriority : Nat
  deriving DecidableEq

namespace FeeGas

/-- The base fee assumed before any is known: 30 gwei. -/
def initialBase : Nat := 30000000000

/-- The cap unless another is set: 500 gwei. -/
def defaultCap : Nat := 500000000000

def new (priority : Nat) (multiplier : Float) (cap : Nat) : FeeGas :=
  { defaultPriority := priority, multiplier, cap
    keptBase := initialBase, keptPriority := priority % keptBound }

/-- The multiplied base fee and the priority fee together, cut at the cap. -/
def maxFee (gas : FeeGas) (base priority : Nat) : Nat :=
  min ((Fees.scaleWei gas.multiplier base + priority) % (maxWei + 1)) gas.cap

/-- The fees after the node's answers, or its failures. -/
def fees (gas : FeeGas) (base : Except Failure (Option Nat)) (priority : Except Failure Nat) :
    Fees × FeeGas :=
  let base := match base with
    | .ok (some fee) => fee
    | _ => gas.keptBase
  let priority := match priority with
    | .ok fee => fee
    | .error _ => gas.defaultPriority
  (.eip1559 (gas.maxFee base priority) priority base,
    { gas with keptBase := base % keptBound, keptPriority := priority % keptBound })

end FeeGas

inductive GasStrategy where
  | legacy (gas : LegacyGas)
  | eip1559 (gas : FeeGas)
  deriving DecidableEq

namespace GasStrategy

def name : GasStrategy → String
  | .legacy _ => "Legacy"
  | .eip1559 _ => "EIP-1559"

/-- An amount of gwei in wei. -/
def gwei (amount : Float) : Nat := Number.truncate maxWei (amount * 1e9)

/-- The base fee is doubled unless the strategy says otherwise. -/
def baseMultiplier : Float := 2.0

/-- The priority fee, in gwei, unless another is configured. -/
def defaultPriority : Float := 2.0

/-- The strategy for a pricing model, by its name; prices are in gwei. -/
def create (model : String) (default cap : Float) (priority? : Option Float) : GasStrategy :=
  match Text.lowerCase model with
  | "eip1559" | "eip-1559" =>
    .eip1559 (FeeGas.new (gwei (priority?.getD defaultPriority)) baseMultiplier (gwei cap))
  | _ => .legacy (LegacyGas.new (gwei default) (gwei cap))

/-- Ask a node for prices. -/
def fetch (rpc : Rpc) : GasStrategy → Task (Fees × GasStrategy)
  | .legacy gas => do
    let (fees, gas) := gas.fees (← rpc.request .gasPrice)
    return (fees, .legacy gas)
  | .eip1559 gas => do
    let (base, priority) ← Activity.both (rpc.request .baseFee) (rpc.request .priorityFee)
    let (fees, gas) := gas.fees base priority
    return (fees, .eip1559 gas)

end GasStrategy

/-- The fee fields of a transaction. -/
inductive FeeFields where
  | gasPrice (price : Nat)
  | maxFee (maxFee priority : Nat)
  deriving DecidableEq, Repr

/-- Put fees into a transaction of the strategy's kind. -/
def GasStrategy.apply (strategy : GasStrategy) (fees : Fees) : FeeFields :=
  match strategy, fees with
  | .legacy _, fees => .gasPrice fees.effectivePrice
  | .eip1559 _, .eip1559 maxFee priority _ => .maxFee maxFee priority
  | .eip1559 gas, .legacy price => .maxFee price (min gas.defaultPriority price)

end PriceRelay
