import PriceRelay.Number.Binary
/-!
The fees that a transaction offers, in wei. Amounts have 128 bits.
-/

namespace PriceRelay

/-- The largest amount. -/
def maxWei : Nat := 2 ^ 128 - 1

inductive Fees where
  | legacy (price : Nat)
  | eip1559 (maxFee priority base : Nat)
  deriving DecidableEq, Repr

namespace Fees

/-- An amount times a factor, with its fraction dropped. -/
def scaleWei (factor : Float) (amount : Nat) : Nat :=
  Number.truncate maxWei (Number.ofNat amount * factor)

/-- The price that is offered at most. -/
def effectivePrice : Fees → Nat
  | .legacy price => price
  | .eip1559 maxFee _ _ => maxFee

/-- Offer more or less; the base fee is the chain's. -/
def scaled (factor : Float) : Fees → Fees
  | .legacy price => .legacy (scaleWei factor price)
  | .eip1559 maxFee priority base =>
    .eip1559 (scaleWei factor maxFee) (scaleWei factor priority) base

/-- Gas price, largest fee and priority fee, as far as they are offered. -/
def offered : Fees → Option Nat × Option Nat × Option Nat
  | .legacy price => (some price, none, none)
  | .eip1559 maxFee priority _ => (none, some maxFee, some priority)

end Fees

end PriceRelay
