import PriceRelay.Chain.Gas
import PriceRelay.Chain.Rlp
import PriceRelay.Crypto.Secp256k1
/-!
Signed transactions as bytes. A sender writes legacy and fee market transactions; transactions of
all kinds are read, and what follows the transaction is passed over.
-/

namespace PriceRelay

/-- A transaction before it is signed. -/
structure Draft where
  chain : Nat
  nonce : Nat
  gasLimit : Nat
  target : Address
  value : Nat
  data : Bytes
  fees : FeeFields
  deriving DecidableEq

namespace Draft

/-- The type of fee market transactions. -/
def feeMarketType : UInt8 := 2

/-- What follows the fees. -/
private def body (draft : Draft) : List Rlp :=
  [.natural draft.gasLimit, .bytes draft.target.bytes, .natural draft.value, .bytes draft.data]

/-- The fields of a legacy transaction up to its signature. -/
private def legacyFields (draft : Draft) (price : Nat) : List Rlp :=
  [.natural draft.nonce, .natural price] ++ draft.body

/-- The fields of a fee market transaction up to its signature; the access list is empty. -/
private def feeMarketFields (draft : Draft) (maxFee priority : Nat) : List Rlp :=
  [.natural draft.chain, .natural draft.nonce, .natural priority, .natural maxFee]
    ++ draft.body ++ [.list []]

/-- What is signed. A legacy transaction is bound to its chain by two empty numbers behind. -/
def signingBytes (draft : Draft) : Bytes :=
  match draft.fees with
  | .gasPrice price =>
    Rlp.encode (.list (draft.legacyFields price
      ++ [.natural draft.chain, .natural 0, .natural 0]))
  | .maxFee maxFee priority =>
    feeMarketType :: Rlp.encode (.list (draft.feeMarketFields maxFee priority))

/-- The recovery number of a legacy transaction names the chain. -/
def recovery (chain : Nat) (odd : Bool) : Nat := 35 + 2 * chain + odd.toNat

/-- The transaction with its signature. -/
def encode (draft : Draft) (signature : Secp256k1.Signature) : Bytes :=
  let scalars : List Rlp := [.natural signature.r, .natural signature.s]
  match draft.fees with
  | .gasPrice price =>
    let recovery := Rlp.natural (recovery draft.chain signature.odd)
    Rlp.encode (.list (draft.legacyFields price ++ [recovery] ++ scalars))
  | .maxFee maxFee priority =>
    let parity := Rlp.natural signature.odd.toNat
    feeMarketType ::
      Rlp.encode (.list (draft.feeMarketFields maxFee priority ++ [parity] ++ scalars))

theorem encode_legacy {draft : Draft} {price : Nat} (priced : draft.fees = .gasPrice price)
    (signature : Secp256k1.Signature) :
    draft.encode signature = Rlp.encode (.list
      [.natural draft.nonce, .natural price, .natural draft.gasLimit, .bytes draft.target.bytes,
        .natural draft.value, .bytes draft.data, .natural (recovery draft.chain signature.odd),
        .natural signature.r, .natural signature.s]) := by
  rw [encode, priced]
  rfl

theorem encode_feeMarket {draft : Draft} {maxFee priority : Nat}
    (priced : draft.fees = .maxFee maxFee priority) (signature : Secp256k1.Signature) :
    draft.encode signature = feeMarketType :: Rlp.encode (.list
      [.natural draft.chain, .natural draft.nonce, .natural priority, .natural maxFee,
        .natural draft.gasLimit, .bytes draft.target.bytes, .natural draft.value,
        .bytes draft.data, .list [], .natural signature.odd.toNat, .natural signature.r,
        .natural signature.s]) := by
  rw [encode, priced]
  rfl

/-- Sign with a key. -/
def sign (draft : Draft) (key : Nat) : Bytes :=
  draft.encode (Secp256k1.sign key (Keccak.digest draft.signingBytes))

end Draft

/-- What is looked at in a signed transaction. -/
structure SignedTransaction where
  hash : Hash
  /-- A transaction without target creates a contract. -/
  target? : Option Address
  input : Bytes
  /-- The price that the transaction offers at most. -/
  maxFee : Nat
  raw : Bytes
  deriving DecidableEq

namespace SignedTransaction

private def word? : Rlp → Option Nat := Rlp.natural? (2 ^ 64)
private def amount? : Rlp → Option Nat := Rlp.natural? (2 ^ 128)
private def scalar? : Rlp → Option Nat := Rlp.natural? (2 ^ 256)
private def parity? : Rlp → Option Nat := Rlp.natural? 2

private def address? : Rlp → Option Address := Rlp.fixed? 20

private def recipient? : Rlp → Option (Option Address)
  | .bytes [] => some none
  | item => (address? item).map some

private def data? : Rlp → Option Bytes
  | .bytes content => some content
  | .list _ => none

/-- A list of items that can all be read. -/
private def checkAll {α : Type} (item? : Rlp → Option α) : Rlp → Option Unit
  | .list items => (items.mapM item?).map fun _ => ()
  | .bytes _ => none

/-- An address and its storage slots. -/
private def access? : Rlp → Option Unit
  | .list [address, slots] => do
    let _ ← address? address
    checkAll (Rlp.fixed? 32) slots
  | _ => none

/-- A signed permission to run code. -/
private def authorization? : Rlp → Option Unit
  | .list [chain, address, nonce, parity, r, s] => do
    let _ ← scalar? chain
    let _ ← address? address
    let _ ← word? nonce
    let _ ← Rlp.natural? 256 parity
    let _ ← scalar? r
    let _ ← scalar? s
  | _ => none

/-- The fields that all kinds share. -/
private structure Core where
  target? : Option Address
  input : Bytes
  maxFee : Nat

private def core? (nonce maxFee gasLimit : Rlp) (target : Option (Option Address))
    (value input r s : Rlp) : Option Core := do
  let _ ← word? nonce
  let _ ← word? gasLimit
  let _ ← scalar? value
  let _ ← scalar? r
  let _ ← scalar? s
  return ⟨← target, ← data? input, ← amount? maxFee⟩

/-- A recovery number names no chain, or one whose id fits a word. -/
private def recovery? (item : Rlp) : Option Unit := do
  let value ← amount? item
  if value = 27 || value = 28 || (35 ≤ value && (value - 35) / 2 < 2 ^ 64) then return ()
  else none

private def legacy? : List Rlp → Option Core
  | [nonce, price, gasLimit, target, value, input, recovery, r, s] => do
    recovery? recovery
    core? nonce price gasLimit (recipient? target) value input r s
  | _ => none

/-- With an access list. -/
private def accessList? : List Rlp → Option Core
  | [chain, nonce, price, gasLimit, target, value, input, accesses, parity, r, s] => do
    let _ ← word? chain
    checkAll access? accesses
    let _ ← parity? parity
    core? nonce price gasLimit (recipient? target) value input r s
  | _ => none

/-- With a base fee and a priority fee. -/
private def feeMarket? : List Rlp → Option Core
  | [chain, nonce, priority, maxFee, gasLimit, target, value, input, accesses, parity, r, s] => do
    let _ ← word? chain
    let _ ← amount? priority
    checkAll access? accesses
    let _ ← parity? parity
    core? nonce maxFee gasLimit (recipient? target) value input r s
  | _ => none

/-- With blobs. They need a target. -/
private def blobs? : List Rlp → Option Core
  | [chain, nonce, priority, maxFee, gasLimit, target, value, input, accesses, blobFee, blobs,
      parity, r, s] => do
    let _ ← word? chain
    let _ ← amount? priority
    checkAll access? accesses
    let _ ← amount? blobFee
    checkAll (Rlp.fixed? 32) blobs
    let _ ← parity? parity
    core? nonce maxFee gasLimit ((address? target).map some) value input r s
  | _ => none

/-- With permissions to run code. They need a target. -/
private def permissions? : List Rlp → Option Core
  | [chain, nonce, priority, maxFee, gasLimit, target, value, input, accesses, permissions,
      parity, r, s] => do
    let _ ← word? chain
    let _ ← amount? priority
    checkAll access? accesses
    checkAll authorization? permissions
    let _ ← parity? parity
    core? nonce maxFee gasLimit ((address? target).map some) value input r s
  | _ => none

/-- The reader of a transaction type. -/
private def ofType? (type : Nat) : Option (List Rlp → Option Core) :=
  match type with
  | 1 => some accessList?
  | 2 => some feeMarket?
  | 3 => some blobs?
  | 4 => some permissions?
  | _ => none

/-- Types are below this bound; a legacy transaction begins with a list. -/
def typeBound : Nat := 0x80

private def fields? (bytes : Bytes) : Option (List Rlp × Bytes) :=
  match Rlp.decode? bytes with
  | some (.list items, rest) => some (items, rest)
  | _ => none

private def core (bytes : Bytes) : Option (Core × Bytes) :=
  match bytes with
  | [] => none
  | type :: body =>
    if type.toNat < typeBound then do
      let read? ← ofType? type.toNat
      let (items, rest) ← fields? body
      return (← read? items, rest)
    else do
      let (items, rest) ← fields? bytes
      return (← legacy? items, rest)

/-- Read a transaction. Its hash is that of its own bytes, without what follows them. -/
def decode? (bytes : Bytes) : Option SignedTransaction := do
  let (core, rest) ← core bytes
  return {
    hash := Keccak.digest (bytes.take (bytes.length - rest.length))
    target? := core.target?
    input := core.input
    maxFee := core.maxFee
    raw := bytes }

section

variable {chain nonce price gasLimit value r s : Rlp} {count limit amount offer first second : Nat}
  (counted : Rlp.natural? (2 ^ 64) nonce = some count)
  (priced : Rlp.natural? (2 ^ 128) price = some offer)
  (limited : Rlp.natural? (2 ^ 64) gasLimit = some limit)
  (valued : Rlp.natural? (2 ^ 256) value = some amount)
  (signed : Rlp.natural? (2 ^ 256) r = some first ∧ Rlp.natural? (2 ^ 256) s = some second)

include counted priced limited valued signed

private theorem core?_eq (account : Address) (data : Bytes) :
    core? nonce price gasLimit (recipient? (.bytes account.bytes)) value (.bytes data) r s =
      some ⟨some account, data, offer⟩ := by
  have recipient : recipient? (.bytes account.bytes) = some (some account) := by
    have nonempty : account.bytes ≠ [] := by
      intro empty
      have length := account.length_eq
      rw [empty] at length
      cases length
    rw [recipient?, address?, Rlp.fixed?, FixedBytes.ofBytes?, dif_pos account.length_eq]
    · rfl
    · exact fun same => nonempty (Rlp.bytes.inj same)
  simp only [core?, word?, scalar?, amount?, data?, counted, priced, limited, valued, signed,
    recipient, Option.bind_eq_bind, Option.bind_some, Option.pure_def]

/-- A legacy transaction that names its chain is read from its items. -/
theorem decode?_legacy {account : Address} {data tail rest : Bytes} {lead : UInt8}
    {recovery : Rlp} {number : Nat} (list : typeBound ≤ lead.toNat)
    (items : Rlp.decode? (lead :: tail) = some (.list
      [nonce, price, gasLimit, .bytes account.bytes, value, .bytes data, recovery, r, s], rest))
    (recovered : Rlp.natural? (2 ^ 128) recovery = some number)
    (named : 35 ≤ number ∧ (number - 35) / 2 < 2 ^ 64) :
    decode? (lead :: tail) = some
      { hash := Keccak.digest ((lead :: tail).take ((lead :: tail).length - rest.length))
        target? := some account
        input := data
        maxFee := offer
        raw := lead :: tail } := by
  have recovery_read : recovery? recovery = some () := by
    simp only [recovery?, amount?, recovered, Option.bind_eq_bind, Option.bind_some]
    rw [if_pos (by simp [named])]
    rfl
  have read := core?_eq counted priced limited valued signed account data
  rw [decode?, core, if_neg (Nat.not_lt.mpr list), fields?, items]
  simp only [Option.bind_eq_bind, Option.bind_some, legacy?, recovery_read, read, Option.pure_def]

/-- A fee market transaction without an access list is read from its items. -/
theorem decode?_feeMarket {account : Address} {data body rest : Bytes}
    {priority parity : Rlp} {id tip odd : Nat}
    (items : Rlp.decode? body = some (.list
      [chain, nonce, priority, price, gasLimit, .bytes account.bytes, value, .bytes data,
        .list [], parity, r, s], rest))
    (known : Rlp.natural? (2 ^ 64) chain = some id)
    (tipped : Rlp.natural? (2 ^ 128) priority = some tip)
    (recovered : Rlp.natural? 2 parity = some odd) :
    decode? (Draft.feeMarketType :: body) = some
      { hash := Keccak.digest
          ((Draft.feeMarketType :: body).take ((Draft.feeMarketType :: body).length - rest.length))
        target? := some account
        input := data
        maxFee := offer
        raw := Draft.feeMarketType :: body } := by
  have typed : Draft.feeMarketType.toNat < typeBound := by decide
  have accesses : checkAll access? (.list []) = some () := rfl
  have kind : ofType? Draft.feeMarketType.toNat = some feeMarket? := rfl
  have read := core?_eq counted priced limited valued signed account data
  rw [decode?, core, if_pos typed, kind]
  simp only [fields?, items, feeMarket?, word?, amount?, parity?, known, tipped, accesses,
    recovered, read, Option.bind_eq_bind, Option.bind_some, Option.pure_def]

end

/-- What is said of bytes that are no transaction. -/
def invalid : Failure := .text "Invalid signed transaction"

def decode (bytes : Bytes) : Except Failure SignedTransaction :=
  match decode? bytes with
  | some transaction => .ok transaction
  | none => .error invalid

end SignedTransaction

end PriceRelay
