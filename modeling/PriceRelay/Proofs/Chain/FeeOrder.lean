import PriceRelay.Proofs.Chain.GasCap
import PriceRelay.Proofs.Number.Infinity
/-!
The two fees of an offer. A chain takes a transaction only if its priority fee is not above its
largest fee. The largest fee is cut at the cap, and the sum it is cut from has 128 bits; the
priority fee is offered as it is. So the fees are in order where the sum fits and the priority fee
is not above the cap, and there any positive factor keeps them in order.
-/

namespace PriceRelay

namespace Fees

open Binary

section

variable {factor : Float} {amount larger : Nat}

theorem scaleWei_mono_of_pos (above : 0.0 < factor) (le : amount ≤ larger)
    (bounded : larger ≤ maxWei) : scaleWei factor amount ≤ scaleWei factor larger := by
  cases finite : factor.isFinite with
  | true =>
    have accepted : Config.isPositive factor = true := by simp [Config.isPositive, finite, above]
    exact scaleWei_mono accepted le bounded
  | false =>
    have infinite := infinite_of_positive finite above
    rcases Nat.lt_or_eq_of_le le with less | rfl
    · have wide : larger ≤ 2 ^ 128 := bounded.trans maxWei_le
      obtain ⟨mantissa, exponent, near, one⟩ := ofNat_holds (le.trans wide)
      obtain ⟨other, place, next, two⟩ := ofNat_holds wide
      have kept : value mantissa exponent ≤ value other place :=
        near.mono next (by exact_mod_cast less)
      unfold scaleWei
      rw [one.truncate_mul_infinite infinite, two.truncate_mul_infinite infinite]
      by_cases nothing : other = 0
      · have none : mantissa = 0 := by
          rw [nothing, value_zero] at kept
          exact value_eq_zero_iff.mp (le_antisymm kept (value_nonneg mantissa exponent))
        rw [if_pos none, if_pos nothing]
      · rw [if_neg nothing]
        split
        · exact Nat.zero_le maxWei
        · exact le_refl maxWei
    · exact le_refl _

end

/-- A chain takes no priority fee that is above the largest fee. -/
def Ordered : Fees → Prop
  | .legacy _ => True
  | .eip1559 maxFee priority _ => priority ≤ maxFee

theorem Ordered.scaled {fees : Fees} (ordered : fees.Ordered)
    (bounded : fees.effectivePrice ≤ maxWei) {factor : Float} (above : 0.0 < factor) :
    (fees.scaled factor).Ordered := by
  cases fees with
  | legacy price => trivial
  | eip1559 maxFee priority base => exact scaleWei_mono_of_pos above ordered bounded

end Fees

namespace FeeGas

section

variable {gas : FeeGas} {base priority : Nat}

/-- The sum that the largest fee is cut from has 128 bits. -/
def Fits (gas : FeeGas) (base priority : Nat) : Prop :=
  Fees.scaleWei gas.multiplier base + priority ≤ maxWei

theorem maxFee_le (gas : FeeGas) (base priority : Nat) : gas.maxFee base priority ≤ maxWei :=
  (min_le_left _ _).trans (Nat.le_of_lt_succ (Nat.mod_lt _ (Nat.succ_pos maxWei)))

theorem maxFee_of_fits (fits : gas.Fits base priority) :
    gas.maxFee base priority = min (Fees.scaleWei gas.multiplier base + priority) gas.cap := by
  rw [maxFee, Nat.mod_eq_of_lt (Nat.lt_succ_of_le fits)]

/-- A sum that does not fit comes out below the priority fee. -/
theorem wrapped_lt (wraps : ¬gas.Fits base priority) :
    (Fees.scaleWei gas.multiplier base + priority) % (maxWei + 1) < priority := by
  have scaled : Fees.scaleWei gas.multiplier base ≤ maxWei := Number.truncate_le _ _
  have beyond : maxWei + 1 ≤ Fees.scaleWei gas.multiplier base + priority :=
    Nat.succ_le_of_lt (lt_of_not_ge wraps)
  rw [Nat.mod_eq_sub_mod beyond]
  have least := Nat.mod_le (Fees.scaleWei gas.multiplier base + priority - (maxWei + 1)) (maxWei + 1)
  omega

/-- The priority fee is not above the largest fee exactly where the sum fits and the priority fee
is not above the cap. -/
theorem priority_le_maxFee_iff :
    priority ≤ gas.maxFee base priority ↔ gas.Fits base priority ∧ priority ≤ gas.cap := by
  constructor
  · intro ordered
    obtain ⟨summed, capped⟩ := le_min_iff.mp ordered
    refine ⟨?_, capped⟩
    by_contra wraps
    exact absurd summed (Nat.not_le_of_lt (wrapped_lt wraps))
  · rintro ⟨fits, capped⟩
    rw [maxFee_of_fits fits]
    exact le_min (Nat.le_add_left _ _) capped

/-- The fees that are taken for two answers of the node: its own, or those on hand. -/
structure Takes (gas : FeeGas) (answers : Except Failure (Option Nat) × Except Failure Nat)
    (base priority : Nat) : Prop where
  base_told : ∀ fee, answers.1 = .ok (some fee) → base = fee
  base_kept : (∀ fee, answers.1 ≠ .ok (some fee)) → base = gas.keptBase
  priority_told : ∀ fee, answers.2 = .ok fee → priority = fee
  priority_default : ∀ failure, answers.2 = .error failure → priority = gas.defaultPriority

theorem exists_takes (gas : FeeGas) (answers : Except Failure (Option Nat) × Except Failure Nat) :
    ∃ base priority, gas.Takes answers base priority ∧
      (gas.fees answers.1 answers.2).1 =
        .eip1559 (gas.maxFee base priority) priority base := by
  obtain ⟨told, suggested⟩ := answers
  refine ⟨_, _, ⟨?_, ?_, ?_, ?_⟩, rfl⟩
  · rintro fee rfl
    rfl
  · intro silent
    rcases told with failure | (none | fee)
    · rfl
    · rfl
    · exact absurd rfl (silent fee)
  · rintro fee rfl
    rfl
  · rintro failure rfl
    rfl

end

end FeeGas

namespace GasStrategy

section

variable {rpc : Rpc} {gas : FeeGas} {trace : List (Exchange world)} {elapsed : Millis}
  {offer : Fees × GasStrategy}

/-- The law of a fetched offer. Its largest fee is the smaller of sum and cap if the sum fits; its
fees are in order exactly where the sum fits and the priority fee is not above the cap, and then
any factor above zero keeps them so. -/
theorem fetch_ordered_iff (ends : (fetch rpc (.eip1559 gas)).Ends trace elapsed offer) :
    ∃ answers base priority,
      (Activity.both (rpc.request .baseFee) (rpc.request .priorityFee)).Ends trace elapsed answers ∧
      gas.Takes answers base priority ∧
      offer.1 = .eip1559 (gas.maxFee base priority) priority base ∧
      (gas.Fits base priority → gas.maxFee base priority =
        min (Fees.scaleWei gas.multiplier base + priority) gas.cap) ∧
      (offer.1.Ordered ↔ gas.Fits base priority ∧ priority ≤ gas.cap) ∧
      (offer.1.Ordered → ∀ factor, 0.0 < factor → (offer.1.scaled factor).Ordered) := by
  obtain ⟨answers, asked, given⟩ := Activity.ends_bind_done ends
  obtain ⟨base, priority, takes, same⟩ := gas.exists_takes answers
  have offers : offer.1 = .eip1559 (gas.maxFee base priority) priority base :=
    (congrArg Prod.fst given).trans same
  rw [offers]
  refine ⟨answers, base, priority, asked, takes, rfl, FeeGas.maxFee_of_fits,
    FeeGas.priority_le_maxFee_iff, ?_⟩
  intro ordered factor above
  exact ordered.scaled (gas.maxFee_le base priority) above

/-- The base fee ten times and 2 gwei on top, with a cap of 100 gwei. -/
def tenfold : FeeGas := FeeGas.new 2000000000 10.0 100000000000

def feeNode (base priority : Nat) : Stage :=
  { nodes := [{ script := [("base_fee", [Timed.now (.number base)]),
      ("priority_fee", [Timed.now (.number priority)])] }] }

def fetched (base priority : Nat) : Fees × GasStrategy :=
  ((fetch (Rpc.node 0) (.eip1559 tenfold)).run Stage.host (feeNode base priority)).result

/-- A base fee of 30 gwei brings the largest fee to its cap, above the priority fee of 2 gwei. -/
theorem fetch_ordered_iff_atCap :
    (fetched 30000000000 2000000000).1 = .eip1559 100000000000 2000000000 30000000000 ∧
      (fetched 30000000000 2000000000).1.Ordered ∧
      ∀ factor, 0.0 < factor → ((fetched 30000000000 2000000000).1.scaled factor).Ordered := by
  have offered : (fetched 30000000000 2000000000).1 =
      .eip1559 100000000000 2000000000 30000000000 := by
    decide +kernel
  have ordered : (fetched 30000000000 2000000000).1.Ordered := by
    rw [offered]
    unfold Fees.Ordered
    decide
  obtain ⟨_, _, _, -, -, -, -, -, keeps⟩ := fetch_ordered_iff
    ((fetch (Rpc.node 0) (.eip1559 tenfold)).run_ends Stage.host (feeNode 30000000000 2000000000))
  exact ⟨offered, ordered, keeps ordered⟩

/-- A priority fee of 200 gwei is offered as it is, with a largest fee of 100 gwei. -/
theorem fetch_not_ordered :
    ¬∀ (provider : Nat) (gas : FeeGas) (trace : List (Exchange world)) (elapsed : Millis)
      (offer : Fees × GasStrategy), 0.0 ≤ gas.multiplier →
      (fetch (Rpc.node provider) (.eip1559 gas)).Ends trace elapsed offer →
      offer.1.Ordered := by
  intro ordered
  have offered : (fetched 1 200000000000).1 = .eip1559 100000000000 200000000000 1 := by
    decide +kernel
  have within := ordered 0 tenfold _ _ _ (by decide +kernel)
    ((fetch (Rpc.node 0) (.eip1559 tenfold)).run_ends Stage.host (feeNode 1 200000000000))
  change (fetched 1 200000000000).1.Ordered at within
  rw [offered] at within
  unfold Fees.Ordered at within
  exact absurd within (by decide)

end

end GasStrategy

end PriceRelay
