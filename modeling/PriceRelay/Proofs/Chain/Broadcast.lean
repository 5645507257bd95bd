import PriceRelay.Proofs.Chain.Nonces
import PriceRelay.Proofs.Chain.Rlp
import PriceRelay.Proofs.Number.Products
import PriceRelay.Proofs.Successes
/-!
What a sender broadcasts can be read: every transaction that it signs is read with its target, its
data and the price that it offers, whatever bytes follow.
-/

namespace PriceRelay

namespace FeeFields

/-- The price that is offered at most. -/
def offer : FeeFields → Nat
  | .gasPrice price => price
  | .maxFee most _ => most

/-- Amounts have 128 bits. -/
def Fits : FeeFields → Prop
  | .gasPrice price => price < 2 ^ 128
  | .maxFee most priority => most < 2 ^ 128 ∧ priority < 2 ^ 128

end FeeFields

/-- The numbers of a transaction fit its fields. -/
structure Draft.Fits (draft : Draft) : Prop where
  /-- The recovery number of a legacy transaction is a word. -/
  chain : 2 * draft.chain + 36 < 2 ^ 64
  nonce : draft.nonce < 2 ^ 64
  gasLimit : draft.gasLimit < 2 ^ 64
  value : draft.value < 2 ^ 256
  /-- No byte string is longer. -/
  data : draft.data.length < 2 ^ 63
  fees : draft.fees.Fits

structure Secp256k1.Signature.Fits (signature : Signature) : Prop where
  r : signature.r < 2 ^ 256
  s : signature.s < 2 ^ 256

namespace Secp256k1

theorem signWith_fits (key digest nonce : Nat) : (signWith key digest nonce).Fits := by
  have small : order < 2 ^ 256 := by decide
  have positive : 0 < order := by decide
  constructor
  case r => exact Nat.lt_trans (Nat.mod_lt _ positive) small
  case s =>
    unfold signWith
    dsimp only
    split
    case isTrue => exact Nat.lt_of_le_of_lt (Nat.sub_le _ _) small
    case isFalse => exact Nat.lt_trans (Nat.mod_lt _ positive) small

theorem signFrom_fits (key digest draws : Nat) (source : NonceSource) :
    (signFrom key digest draws source).Fits := by
  induction draws generalizing source with
  | zero =>
    have bound : 0 < 2 ^ 256 := by decide
    exact ⟨bound, bound⟩
  | succ draws ih =>
    unfold signFrom
    dsimp only
    split
    case isTrue => exact ih _
    case isFalse => exact signWith_fits ..

theorem sign_fits (key : Nat) (digest : Hash) : (sign key digest).Fits := signFrom_fits ..

end Secp256k1

namespace Draft

variable {draft : Draft} {signature : Secp256k1.Signature}

/-- What is read of a transaction that was written, with some bytes behind. -/
def shown (draft : Draft) (signature : Secp256k1.Signature) (rest : Bytes) : SignedTransaction :=
  { hash := Keccak.digest (draft.encode signature)
    target? := some draft.target
    input := draft.data
    maxFee := draft.fees.offer
    raw := draft.encode signature ++ rest }

theorem take_front (front rest : Bytes) :
    (front ++ rest).take ((front ++ rest).length - rest.length) = front := by
  rw [List.length_append, Nat.add_sub_cancel, List.take_left]

theorem exists_lead {items : List Rlp}
    (short : (Rlp.encode (.list items)).length < Rlp.lengthBound) (rest : Bytes) :
    ∃ lead tail, Rlp.encode (.list items) ++ rest = lead :: tail ∧
      SignedTransaction.typeBound ≤ lead.toNat := by
  rw [Rlp.encode] at short ⊢
  have within := Nat.lt_trans (Rlp.length_frame Rlp.listKind (Rlp.encodeAll items)) short
  obtain ⟨lead, tail, same, framed⟩ := Rlp.exists_frames Rlp.listKind (by decide) within rest
  exact ⟨lead, tail, same, Nat.le_trans (by decide) framed.lower⟩

def legacyLead (draft : Draft) (price : Nat) : List Rlp :=
  [.natural draft.nonce, .natural price, .natural draft.gasLimit, .bytes draft.target.bytes,
    .natural draft.value]

def feeMarketLead (draft : Draft) (most priority : Nat) : List Rlp :=
  [.natural draft.chain, .natural draft.nonce, .natural priority, .natural most,
    .natural draft.gasLimit, .bytes draft.target.bytes, .natural draft.value]

def closing (recovery : Nat) (signature : Secp256k1.Signature) : List Rlp :=
  [.natural recovery, .natural signature.r, .natural signature.s]

theorem target_slim (draft : Draft) : (Rlp.bytes draft.target.bytes).Slim :=
  Rlp.bytes_slim (by simp [draft.target.length_eq])

theorem closing_slim (signed : signature.Fits) {recovery : Nat} (small : recovery < 2 ^ 64) :
    ∀ item ∈ closing recovery signature, item.Slim := by
  simp only [closing, List.forall_mem_cons]
  exact ⟨Rlp.natural_slim (by decide) small, Rlp.natural_slim (by decide) signed.r,
    Rlp.natural_slim (by decide) signed.s, fun _ => nofun⟩

section

variable (fits : draft.Fits) (signed : signature.Fits)

include fits

theorem Fits.chain_lt : draft.chain < 2 ^ 64 := by
  have bound := fits.chain
  omega

theorem Fits.recovery_lt (odd : Bool) : recovery draft.chain odd < 2 ^ 64 := by
  have bound := fits.chain
  have one : odd.toNat ≤ 1 := Bool.toNat_le odd
  unfold recovery
  omega

theorem Fits.recovery_named (odd : Bool) :
    35 ≤ recovery draft.chain odd ∧ (recovery draft.chain odd - 35) / 2 < 2 ^ 64 := by
  have chain := fits.chain_lt
  have one : odd.toNat ≤ 1 := Bool.toNat_le odd
  unfold recovery
  omega

theorem Fits.legacyLead_slim {price : Nat} (offered : price < 2 ^ 128) :
    ∀ item ∈ draft.legacyLead price, item.Slim := by
  simp only [legacyLead, List.forall_mem_cons]
  exact ⟨Rlp.natural_slim (by decide) fits.nonce, Rlp.natural_slim (by decide) offered,
    Rlp.natural_slim (by decide) fits.gasLimit, target_slim draft,
    Rlp.natural_slim (by decide) fits.value, fun _ => nofun⟩

theorem Fits.feeMarketLead_slim {most priority : Nat} (offered : most < 2 ^ 128)
    (tipped : priority < 2 ^ 128) : ∀ item ∈ draft.feeMarketLead most priority, item.Slim := by
  simp only [feeMarketLead, List.forall_mem_cons]
  exact ⟨Rlp.natural_slim (by decide) fits.chain_lt, Rlp.natural_slim (by decide) fits.nonce,
    Rlp.natural_slim (by decide) tipped, Rlp.natural_slim (by decide) offered,
    Rlp.natural_slim (by decide) fits.gasLimit, target_slim draft,
    Rlp.natural_slim (by decide) fits.value, fun _ => nofun⟩

include signed

/-- A legacy transaction is read as it was written. -/
theorem decode?_encode_legacy {price : Nat} (priced : draft.fees = .gasPrice price)
    (rest : Bytes) :
    SignedTransaction.decode? (draft.encode signature ++ rest) =
      some (draft.shown signature rest) := by
  have offered : price < 2 ^ 128 := by
    have fees := fits.fees
    rwa [priced] at fees
  have recovered := fits.recovery_lt signature.odd
  have before := fits.legacyLead_slim offered
  have after := closing_slim signed recovered
  have few : (draft.legacyLead price).length +
      (closing (recovery draft.chain signature.odd) signature).length ≤ 20 := by
    simp [legacyLead, closing]
  have read := Rlp.decode?_record before after few fits.data rest
  have short := Rlp.length_encode_record_lt before after few fits.data
  obtain ⟨lead, tail, same, list⟩ := exists_lead short rest
  rw [same] at read
  have decoded := SignedTransaction.decode?_legacy (Rlp.natural?_natural fits.nonce)
    (Rlp.natural?_natural offered) (Rlp.natural?_natural fits.gasLimit)
    (Rlp.natural?_natural fits.value)
    ⟨Rlp.natural?_natural signed.r, Rlp.natural?_natural signed.s⟩ list read
    (Rlp.natural?_natural (Nat.lt_trans recovered (by decide)))
    (fits.recovery_named signature.odd)
  have written : draft.encode signature =
      Rlp.encode (.list (draft.legacyLead price ++ .bytes draft.data ::
        closing (recovery draft.chain signature.odd) signature)) := encode_legacy priced signature
  rw [← same, ← written, take_front] at decoded
  rw [decoded, shown, priced]
  rfl

/-- A fee market transaction is read as it was written. -/
theorem decode?_encode_feeMarket {most priority : Nat} (priced : draft.fees = .maxFee most priority)
    (rest : Bytes) :
    SignedTransaction.decode? (draft.encode signature ++ rest) =
      some (draft.shown signature rest) := by
  obtain ⟨offered, tipped⟩ : most < 2 ^ 128 ∧ priority < 2 ^ 128 := by
    have fees := fits.fees
    rwa [priced] at fees
  have parity : signature.odd.toNat < 2 := Bool.toNat_lt _
  have before := fits.feeMarketLead_slim offered tipped
  have signing := closing_slim signed (Nat.lt_trans parity (by decide))
  have after := List.forall_mem_cons.mpr ⟨Rlp.list_nil_slim, signing⟩
  have few : (draft.feeMarketLead most priority).length +
      (.list [] :: closing signature.odd.toNat signature : List Rlp).length ≤ 20 := by
    simp [feeMarketLead, closing]
  have read := Rlp.decode?_record before after few fits.data rest
  have written : draft.encode signature =
      feeMarketType :: Rlp.encode (.list (draft.feeMarketLead most priority ++
        .bytes draft.data :: .list [] :: closing signature.odd.toNat signature)) :=
    encode_feeMarket priced signature
  have decoded := SignedTransaction.decode?_feeMarket (Rlp.natural?_natural fits.nonce)
    (Rlp.natural?_natural offered) (Rlp.natural?_natural fits.gasLimit)
    (Rlp.natural?_natural fits.value)
    ⟨Rlp.natural?_natural signed.r, Rlp.natural?_natural signed.s⟩ read
    (Rlp.natural?_natural fits.chain_lt) (Rlp.natural?_natural tipped)
    (Rlp.natural?_natural parity)
  rw [← List.cons_append, ← written, take_front] at decoded
  rw [decoded, shown, priced]
  rfl

/-- A signed transaction is read as it was written, whatever bytes stand behind it. -/
theorem decode_encode (rest : Bytes) :
    SignedTransaction.decode (draft.encode signature ++ rest) =
      .ok (draft.shown signature rest) := by
  have read : SignedTransaction.decode? (draft.encode signature ++ rest) =
      some (draft.shown signature rest) := by
    cases priced : draft.fees with
    | gasPrice price => exact decode?_encode_legacy fits signed priced rest
    | maxFee most priority => exact decode?_encode_feeMarket fits signed priced rest
  rw [SignedTransaction.decode, read]

end

end Draft

theorem Fees.scaleWei_lt (factor : Float) (amount : Nat) : scaleWei factor amount < 2 ^ 128 :=
  Nat.lt_of_le_of_lt (Number.truncate_le _ _) (by decide)

namespace GasStrategy

theorem apply_offer (strategy : GasStrategy) (fees : Fees) :
    (strategy.apply fees).offer = fees.effectivePrice := by
  cases strategy <;> cases fees <;> rfl

theorem apply_scaled_fits (strategy : GasStrategy) (factor : Float) (fees : Fees) :
    (strategy.apply (fees.scaled factor)).Fits := by
  cases fees with
  | legacy price =>
    have price_lt := Fees.scaleWei_lt factor price
    cases strategy with
    | legacy gas => exact price_lt
    | eip1559 gas => exact ⟨price_lt, Nat.lt_of_le_of_lt (Nat.min_le_right _ _) price_lt⟩
  | eip1559 most priority base =>
    have most_lt := Fees.scaleWei_lt factor most
    cases strategy with
    | legacy gas => exact most_lt
    | eip1559 gas => exact ⟨most_lt, Fees.scaleWei_lt factor priority⟩

end GasStrategy

namespace Sender

/-- The settings of a sender and the parts of a call are numbers and bytes of the chain. -/
structure CanSend (sender : Sender) (call : UpdateCall) : Prop where
  chain : 2 * sender.chain + 36 < 2 ^ 64
  gasLimit : sender.gasLimit < 2 ^ 64
  value : call.value?.getD 0 < 2 ^ 256
  data : call.data.length < 2 ^ 63

/-- What a submission does: it asks for prices, sends some bytes, and reads its count again if they
are refused. The fees are those that it reports. -/
structure Broadcasts (sender : Sender) (rpc : Rpc) (trace : List (Exchange world))
    (result : Except Failure Dispatched) (raw : Bytes) (fees : Fees) : Prop where
  parts : ∃ (priced : Sender) (pricing sending counting : List (Exchange world))
    (early late : Millis) (answer : Except Failure Hash),
      trace = pricing ++ (sending ++ counting) ∧
      (sender.advanced.fees rpc).Ends pricing early (fees, priced) ∧
      (rpc.request (.send raw)).Ends sending late answer ∧
      (counting = [] ∨ ∃ last synced, (priced.sync rpc).Ends counting last synced)
  reported : ∀ dispatched, result = .ok dispatched → dispatched.fees = fees

section

variable {rpc : Rpc} {sender sender' priced : Sender} {call : UpdateCall}
  {trace : List (Exchange world)} {elapsed : Millis} {result : Except Failure Dispatched}

/-- The transaction of a call that can be sent fits, whatever was asked for its price. -/
theorem draft_fits {fees : Fees} (able : sender.CanSend call) (nonce : UInt64)
    (prices : (sender.advanced.fees rpc).Ends trace elapsed (fees, priced)) :
    (priced.draft nonce.toNat fees call).Fits := by
  obtain ⟨base, strategy, _, rfl, rfl⟩ := fees_ends prices
  exact
    { chain := able.chain
      nonce := nonce.toNat_lt
      gasLimit := able.gasLimit
      value := able.value
      data := able.data
      fees := strategy.apply_scaled_fits sender.multiplier base }

theorem decode_sign {fees : Fees} (able : sender.CanSend call) (nonce : UInt64)
    (prices : (sender.advanced.fees rpc).Ends trace elapsed (fees, priced)) (rest : Bytes) :
    let raw := (priced.draft nonce.toNat fees call).sign priced.key
    SignedTransaction.decode (raw ++ rest) = .ok
      { hash := Keccak.digest raw
        target? := some call.target
        input := call.data
        maxFee := fees.effectivePrice
        raw := raw ++ rest } := by
  have fits := draft_fits able nonce prices
  have offered : (priced.draft nonce.toNat fees call).fees.offer = fees.effectivePrice :=
    GasStrategy.apply_offer _ _
  have decoded := Draft.decode_encode fits (Secp256k1.sign_fits priced.key
    (Keccak.digest (priced.draft nonce.toNat fees call).signingBytes)) rest
  rw [Draft.shown, offered] at decoded
  exact decoded

end

/-- What a sender broadcasts is a transaction that can be read, to the target of the call, with its
data, and at the price that was offered; its hash is that of the broadcast bytes, and none of this
changes when more bytes stand behind. This holds of every transaction and every signature that fit
their fields. -/
theorem submit_decodes :
    (∀ (draft : Draft) (signature : Secp256k1.Signature) (rest : Bytes),
      draft.Fits → signature.Fits →
        SignedTransaction.decode (draft.encode signature ++ rest) =
          .ok (draft.shown signature rest)) ∧
    ∀ (rpc : Rpc) (sender sender' : Sender) (call : UpdateCall) (trace : List (Exchange world))
      (elapsed : Millis) (result : Except Failure Dispatched), sender.CanSend call →
      (sender.submit rpc call).Ends trace elapsed (result, sender') →
      ∃ raw fees, sender.Broadcasts rpc trace result raw fees ∧
        ∀ rest, SignedTransaction.decode (raw ++ rest) = .ok
          { hash := Keccak.digest raw
            target? := some call.target
            input := call.data
            maxFee := fees.effectivePrice
            raw := raw ++ rest } := by
  refine ⟨fun draft signature rest fits signed => Draft.decode_encode fits signed rest, ?_⟩
  intro rpc sender sender' call trace elapsed result able ends
  cases submit_ends ends with
  | taken prices sends =>
    refine ⟨_, _, ?_, decode_sign able sender.nonce.current prices⟩
    constructor
    case parts => exact ⟨_, _, _, [], _, _, _, by rw [List.append_nil], prices, sends, .inl rfl⟩
    case reported =>
      rintro _ ⟨⟩
      rfl
  | refused prices sends counts =>
    refine ⟨_, _, ?_, decode_sign able sender.nonce.current prices⟩
    constructor
    case parts => exact ⟨_, _, _, _, _, _, _, rfl, prices, sends, .inr ⟨_, _, counts⟩⟩
    case reported => rintro _ ⟨⟩

def longCall : UpdateCall :=
  { sender := atFive.address, target := FixedBytes.ofNat 20 2, data := List.replicate 60 7
    value? := some (2 ^ 256 - 1), feeds := [] }

/-- A transaction of that call whose amounts are the largest, and a submission that the node takes. -/
theorem submit_decodes_longCall :
    (let draft : Draft := ⟨2 ^ 63 - 19, 2 ^ 64 - 1, 0, longCall.target, 0, longCall.data,
        .maxFee maxWei maxWei⟩
      let signature : Secp256k1.Signature := ⟨2 ^ 256 - 1, 0, true⟩
      draft.Fits ∧ signature.Fits ∧
        SignedTransaction.decode (draft.encode signature ++ [1, 2, 3]) =
          .ok (draft.shown signature [1, 2, 3])) ∧
    ∃ trace elapsed dispatched sender', atFive.CanSend longCall ∧
      (atFive.submit (Rpc.node 0) longCall).Ends trace elapsed (.ok dispatched, sender') ∧
      ∃ raw, atFive.Broadcasts (Rpc.node 0) trace (.ok dispatched) raw dispatched.fees ∧
        ∀ rest, SignedTransaction.decode (raw ++ rest) = .ok
          { hash := Keccak.digest raw
            target? := some longCall.target
            input := longCall.data
            maxFee := dispatched.fees.effectivePrice
            raw := raw ++ rest } := by
  constructor
  · intro draft signature
    have most : maxWei < 2 ^ 128 := by decide
    have fits : draft.Fits :=
      ⟨by decide, by decide, by decide, by decide, by decide, most, most⟩
    have signed : signature.Fits := by constructor <;> decide
    exact ⟨fits, signed, submit_decodes.1 draft signature [1, 2, 3] fits signed⟩
  · have able : atFive.CanSend longCall := by constructor <;> decide
    have taken : ((atFive.submit (Rpc.node 0) longCall).run Stage.host
        (refusingSecond [])).result.1.toBool = true := by decide +kernel
    have ends := (atFive.submit (Rpc.node 0) longCall).run_ends Stage.host (refusingSecond [])
    generalize ((atFive.submit (Rpc.node 0) longCall).run Stage.host
      (refusingSecond [])).result = outcome at taken ends
    obtain ⟨result, sender'⟩ := outcome
    obtain ⟨dispatched, rfl⟩ : ∃ dispatched, result = .ok dispatched := exists_ok_of_toBool taken
    obtain ⟨raw, fees, sent, readable⟩ := submit_decodes.2 _ _ _ _ _ _ _ able ends
    cases sent.reported dispatched rfl
    exact ⟨_, _, dispatched, sender', able, ends, raw, sent, readable⟩

end Sender

end PriceRelay
