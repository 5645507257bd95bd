import PriceRelay.Config.Validation
import PriceRelay.Proofs.Chain.Errands
import PriceRelay.Proofs.Number.Products
import PriceRelay.Rehearsal.Stage
/-!
The cap on prices. A strategy keeps to its cap after every answer, but the sender's factor comes
after the cap: what a run offers stays below the multiplied cap, and below the cap itself if the
factor is one at most.
-/

namespace PriceRelay

open Binary

section

variable {factor : Float} {amount larger : Nat}

theorem maxWei_le : maxWei ≤ 2 ^ 128 := Nat.sub_le _ _

theorem Config.isPositive_holds (accepted : Config.isPositive factor = true) :
    ∃ scale shift, 0 < value scale shift ∧ Holds factor scale shift := by
  obtain ⟨finite, above⟩ : factor.isFinite = true ∧ 0.0 < factor := by
    simpa [Config.isPositive] using accepted
  exact holds_of_positive finite above

theorem Fees.scaleWei_mono (accepted : Config.isPositive factor = true) (le : amount ≤ larger)
    (bounded : larger ≤ maxWei) : scaleWei factor amount ≤ scaleWei factor larger := by
  rcases Nat.lt_or_eq_of_le le with less | rfl
  · obtain ⟨scale, shift, positive, factored⟩ := Config.isPositive_holds accepted
    have wide : larger ≤ 2 ^ 128 := bounded.trans maxWei_le
    obtain ⟨mantissa, exponent, near, one⟩ := ofNat_holds (le.trans wide)
    obtain ⟨other, place, next, two⟩ := ofNat_holds wide
    have kept : value mantissa exponent ≤ value other place :=
      near.mono next (by exact_mod_cast less)
    exact one.truncate_mul_mono two factored positive kept maxWei_le
  · exact le_refl _

/-- A factor of one at most brings no amount above a cap: neither the amount as a number nor its
product is rounded beyond the number that the cap was truncated from. -/
theorem GasStrategy.scaleWei_le_gwei {cap : Float} (accepted : Config.isPositive factor = true)
    (small : factor ≤ 1.0) (le : amount ≤ gwei cap) : Fees.scaleWei factor amount ≤ gwei cap := by
  rcases truncate_cases maxWei (cap * 1e9) with top | ⟨whole, power, canonical, cut⟩
  · have most : gwei cap = maxWei := top
    rw [most]
    exact Number.truncate_le _ _
  · have capped : gwei cap = min maxWei ⌊value whole power⌋₊ := cut
    rw [capped] at le ⊢
    have wide : amount ≤ 2 ^ 128 := (le.trans (min_le_left _ _)).trans maxWei_le
    have below : (amount : ℚ) ≤ value whole power :=
      (Nat.le_floor_iff (value_nonneg whole power)).mp (le.trans (min_le_right _ _))
    obtain ⟨scale, shift, positive, factored⟩ := Config.isPositive_holds accepted
    have unit : value scale shift ≤ 1 := by
      rw [← value_one]
      exact factored.value_le holds_one small
    obtain ⟨mantissa, exponent, near, holds⟩ := ofNat_holds wide
    obtain ⟨other, place, next, truncated⟩ := holds.truncate_mul factored maxWei_le
    have product : value mantissa exponent * value scale shift ≤ value whole power :=
      calc value mantissa exponent * value scale shift ≤ value mantissa exponent :=
            mul_le_of_le_one_right (value_nonneg mantissa exponent) unit
        _ ≤ value whole power := near.le canonical below
    unfold Fees.scaleWei
    rw [truncated]
    exact min_le_min_left maxWei (Nat.floor_mono (next.le canonical product))

end

theorem Fees.scaled_effectivePrice (factor : Float) (fees : Fees) :
    (fees.scaled factor).effectivePrice = scaleWei factor fees.effectivePrice := by
  cases fees <;> rfl

namespace GasStrategy

/-- The strategy has that cap, and keeps no price above it. -/
def Keeps (cap : Nat) : GasStrategy → Prop
  | .legacy gas => gas.cap = cap ∧ gas.kept ≤ cap
  | .eip1559 gas => gas.cap = cap

theorem keep_kept_le (gas : LegacyGas) (price : Nat) : (gas.keep price).kept ≤ gas.cap :=
  (Nat.mod_le _ _).trans (min_le_right _ _)

theorem create_keeps (model : String) (default cap : Float) (priority? : Option Float) :
    (create model default cap priority?).Keeps (gwei cap) := by
  unfold create
  split
  · exact rfl
  · exact rfl
  · exact ⟨rfl, keep_kept_le _ _⟩

/-- After every answer the fees are below the cap, and the strategy keeps to it. -/
theorem fetch_keeps {rpc : Rpc} {strategy next : GasStrategy} {cap : Nat} {fees : Fees}
    {trace : List (Exchange world)} {elapsed : Millis} (keeps : strategy.Keeps cap)
    (ends : (strategy.fetch rpc).Ends trace elapsed (fees, next)) :
    fees.effectivePrice ≤ cap ∧ next.Keeps cap := by
  cases strategy with
  | legacy gas =>
    obtain ⟨answer, -, same⟩ := Activity.ends_bind_done ends
    cases same
    obtain ⟨rfl, kept⟩ := keeps
    cases answer with
    | ok price => exact ⟨keep_kept_le gas price, rfl, keep_kept_le gas price⟩
    | error failure => exact ⟨kept, rfl, kept⟩
  | eip1559 gas =>
    obtain ⟨⟨base, priority⟩, -, same⟩ := Activity.ends_bind_done ends
    cases same
    have capped : gas.cap = cap := keeps
    exact ⟨(min_le_right _ _).trans_eq capped, capped⟩

end GasStrategy

namespace Sender

section

variable {rpc : Rpc} {sender sender' : Sender} {trace : List (Exchange world)} {elapsed : Millis}
  {cap : Nat}

/-- What is offered is the factor times fees below the cap. -/
def Offers (factor : Float) (cap : Nat) (fees : Fees) : Prop :=
  ∃ base : Fees, base.effectivePrice ≤ cap ∧ fees = base.scaled factor

theorem fees_keeps {fees : Fees} (keeps : sender.strategy.Keeps cap)
    (ends : (sender.fees rpc).Ends trace elapsed (fees, sender')) :
    Offers sender.multiplier cap fees ∧ sender'.multiplier = sender.multiplier ∧
      sender'.strategy.Keeps cap := by
  obtain ⟨base, strategy, fetched, rfl, rfl⟩ := fees_ends ends
  obtain ⟨below, kept⟩ := GasStrategy.fetch_keeps keeps fetched
  exact ⟨⟨base, below, rfl⟩, rfl, kept⟩

theorem sync_keeps (ends : (sender.sync rpc).Ends trace elapsed sender') :
    sender'.multiplier = sender.multiplier ∧ sender'.strategy = sender.strategy := by
  obtain ⟨answer, -, rfl⟩ := sync_ends ends
  cases answer <;> exact ⟨rfl, rfl⟩

theorem Performed.keeps {result : ErrandResult} (keeps : sender.strategy.Keeps cap)
    (performed : Performed rpc sender trace result sender') :
    (∀ fees ∈ result.fees?, Offers sender.multiplier cap fees) ∧
      sender'.multiplier = sender.multiplier ∧ sender'.strategy.Keeps cap := by
  cases performed with
  | submitted submission =>
    have onHand : sender.advanced.strategy.Keeps cap := keeps
    cases submission with
    | taken prices sends =>
      obtain ⟨offers, same, kept⟩ := fees_keeps onHand prices
      refine ⟨?_, same, kept⟩
      rintro fees ⟨⟩
      exact offers
    | refused prices sends counts =>
      obtain ⟨offers, same, kept⟩ := fees_keeps onHand prices
      obtain ⟨still, unchanged⟩ := sync_keeps counts
      refine ⟨?_, still.trans same, unchanged ▸ kept⟩
      rintro fees ⟨⟩
  | priced prices =>
    obtain ⟨offers, same, kept⟩ := fees_keeps keeps prices
    refine ⟨?_, same, kept⟩
    rintro fees ⟨⟩
    exact offers
  | synced counts =>
    obtain ⟨same, unchanged⟩ := sync_keeps counts
    refine ⟨?_, same, unchanged ▸ keeps⟩
    rintro fees ⟨⟩

section

variable {errands : List Errand}

/-- Over a run as well, all that is offered is the factor times fees below the cap. -/
theorem performAll_offers {results : List ErrandResult} (keeps : sender.strategy.Keeps cap)
    (ends : (performAll rpc errands sender).Ends trace elapsed (results, sender')) :
    ∀ fees ∈ results.filterMap ErrandResult.fees?, Offers sender.multiplier cap fees := by
  induction errands generalizing sender trace elapsed results with
  | nil =>
    obtain ⟨-, -, same⟩ := Activity.ends_done_iff.mp ends
    cases same
    intro fees member
    cases member
  | cons errand rest ih =>
    obtain ⟨before, after, late, result, others, between, rfl, rfl, performed, onward⟩ :=
      performAll_cons_ends ends
    obtain ⟨offers, same, kept⟩ := performed.keeps keeps
    have later := ih kept onward
    rw [same] at later
    intro fees member
    obtain ⟨one, among, told⟩ := List.mem_filterMap.mp member
    rcases List.mem_cons.mp among with rfl | among
    · exact offers fees told
    · exact later fees (List.mem_filterMap.mpr ⟨one, among, told⟩)

/-- The law of prices, for every run with a strategy that was created for a cap, and with a factor
that a configuration may have: no price is above the multiplied cap, nor above the cap if the factor
is one at most. -/
theorem performAll_gasCap {outcome : List ErrandResult × Sender} {model : String}
    {default most : Float} {priority? : Option Float}
    (created : sender.strategy = GasStrategy.create model default most priority?)
    (accepted : Config.isPositive sender.multiplier = true)
    (ends : (performAll rpc errands sender).Ends trace elapsed outcome) :
    ∀ fees ∈ outcome.1.filterMap ErrandResult.fees?,
      fees.effectivePrice ≤ Fees.scaleWei sender.multiplier (GasStrategy.gwei most) ∧
        (sender.multiplier ≤ 1.0 → fees.effectivePrice ≤ GasStrategy.gwei most) := by
  intro fees member
  have keeps : sender.strategy.Keeps (GasStrategy.gwei most) := by
    rw [created]
    exact GasStrategy.create_keeps model default most priority?
  obtain ⟨base, below, rfl⟩ := performAll_offers keeps ends fees member
  rw [Fees.scaled_effectivePrice]
  refine ⟨Fees.scaleWei_mono accepted below (Number.truncate_le _ _), ?_⟩
  intro small
  exact GasStrategy.scaleWei_le_gwei accepted small below

def upToHundred (factor : Float) : Sender :=
  ⟨1, 1, defaultGasLimit, factor, .create "legacy" 1.0 100.0 none, ⟨0⟩⟩

def hundredOnce : Stage :=
  { nodes := [{ script :=
      [("gas_price", [Timed.now (.number 100000000000), ⟨0, .error .transport⟩])] }] }

def pricedTwice (factor : Float) : Task (List ErrandResult × Sender) :=
  performAll (Rpc.node 0) [.price, .price] (upToHundred factor)

/-- With the factor one both prices are those of the cap, and not above it. -/
theorem performAll_gasCap_unscaled :
    ((pricedTwice 1.0).run Stage.host hundredOnce).result.1.filterMap ErrandResult.fees? =
        [.legacy 100000000000, .legacy 100000000000] ∧
      ∀ fees ∈ ((pricedTwice 1.0).run Stage.host hundredOnce).result.1.filterMap
        ErrandResult.fees?, fees.effectivePrice ≤ GasStrategy.gwei 100.0 := by
  have offered : ((pricedTwice 1.0).run Stage.host hundredOnce).result.1.filterMap
      ErrandResult.fees? = [.legacy 100000000000, .legacy 100000000000] := by
    decide +kernel
  have accepted : Config.isPositive (upToHundred 1.0).multiplier = true := by decide +kernel
  have small : (upToHundred 1.0).multiplier ≤ 1.0 := by decide +kernel
  have created : (upToHundred 1.0).strategy = .create "legacy" 1.0 100.0 none := rfl
  have ends := (pricedTwice 1.0).run_ends Stage.host hundredOnce
  refine ⟨offered, ?_⟩
  intro fees member
  exact (performAll_gasCap created accepted ends fees member).2 small

/-- A factor above one is accepted as well, and then more than the cap is offered: 112.5 gwei with a
cap of 100 gwei and the factor 1.125. -/
theorem performAll_exceeds_cap :
    ¬ ∀ (provider : Nat) (sender : Sender) (model : String) (default most : Float)
      (priority? : Option Float) (errands : List Errand) (trace : List (Exchange world))
      (elapsed : Millis) (outcome : List ErrandResult × Sender),
      sender.strategy = GasStrategy.create model default most priority? →
      Config.isPositive sender.multiplier = true →
      (performAll (Rpc.node provider) errands sender).Ends trace elapsed outcome →
      ∀ fees ∈ outcome.1.filterMap ErrandResult.fees?,
        fees.effectivePrice ≤ GasStrategy.gwei most := by
  intro capped
  have offered : ((pricedTwice 1.125).run Stage.host hundredOnce).result.1.filterMap
      ErrandResult.fees? = [.legacy 112500000000, .legacy 112500000000] := by
    decide +kernel
  have accepted : Config.isPositive (upToHundred 1.125).multiplier = true := by decide +kernel
  have hundred : GasStrategy.gwei 100.0 = 100000000000 := by decide +kernel
  have within := capped 0 (upToHundred 1.125) "legacy" 1.0 100.0 none _ _ _ _ rfl accepted
    ((pricedTwice 1.125).run_ends Stage.host hundredOnce)
  rw [offered, hundred] at within
  exact absurd (within _ List.mem_cons_self) (by decide)

end

end

end Sender

end PriceRelay
